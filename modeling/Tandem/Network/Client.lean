import Tandem.Network.Basic

/-! # Clients

A client calls the methods of the session behind a port, and numbers its requests from one, by words
that start over when they are used up. Only the body of a response counts: the status is not looked
at. -/

namespace Tandem

namespace Network

/-- A new client for a port. -/
def client (port : UInt16) : StateM Network Client := fun n =>
  (⟨n.asked.length, port⟩, { n with asked := n.asked ++ [0] })

/-- The number of a client's next request. -/
def requestNumber (client : Client) : StateM Network UInt64 := fun n =>
  let number := n.asked.getD client.number 0 + 1
  (number, { n with asked := n.asked.set client.number number })

end Network

namespace Client

/-- The address of a session on this machine. -/
def urlOf (port : UInt16) : String :=
  "http://127.0.0.1:" ++ Text.decimal port.toNat ++ Http.callPath

/-- What a client calls. -/
def url (client : Client) : String := urlOf client.port

/-- The request of a call. -/
def request (number : UInt64) (method : String) (params : Json) : Http.Request where
  method := "POST"
  target := Http.callPath
  body := (Json.object [("id", .word number), ("jsonrpc", .string Rpc.version),
    ("method", .string method), ("params", params.sorted)]).compact.toUTF8

/-- What a client calls, as a failed request names it: without the port that need not be
mentioned. -/
def shortUrl (client : Client) : String :=
  if client.port = Http.defaultPort then "http://127.0.0.1" ++ Http.callPath else client.url

/-- What a caller learns when a request came to nothing. -/
def unsent (client : Client) : String :=
  "error sending request for url (" ++ client.shortUrl ++ ")"

/-- The result that a reply holds. A reply with an error that is not `null` holds none. -/
def resultOf (reply : Json) : Except SyncError Json :=
  match reply.field? "error" with
  | none | some .null => .ok ((reply.field? "result").getD .null)
  | some error => .error (.remoteCallFailure error.compact)

/-- The result of a call whose request ended in some way. -/
def outcome (client : Client) : Exchange → Except SyncError Json
  | .refused => .error (.connectionFailure client.unsent)
  | .broken => .error (.remoteCallFailure client.unsent)
  | .answered response =>
    match Json.parse? response.body with
    | none => .error (.remoteCallFailure "error decoding response body")
    | some reply => resultOf reply.sorted

/-- Calls a method. -/
def call (client : Client) (method : String) (params : Json) :
    StateM Network (Except SyncError Json) := do
  let number ← Network.requestNumber client
  let ended ← Network.exchange client.port (request number method params)
  return client.outcome ended

/-! ## Methods -/

/-- Calls a method for its effect. -/
def run (client : Client) (method : String) (params : Json) :
    StateM Network (Except SyncError Unit) := do
  return (← client.call method params).map fun _ => ()

/-- Calls a method that answers with a text. -/
def ask (client : Client) (method : String) : StateM Network (Except SyncError String) := do
  match ← client.call method (.object []) with
  | .error error => return .error error
  | .ok (.string text) => return .ok text
  | .ok other => return .error (.remoteCallFailure (method ++ " returned " ++ other.compact))

/-- The process of the session. -/
def getPid (client : Client) : StateM Network (Except SyncError UInt32) := do
  match ← client.call "get_pid" (.object []) with
  | .error error => return .error error
  | .ok value =>
    match Decoder.word32.ofValue value with
    | .ok pid => return .ok pid
    | .error _ => return .error (.remoteCallFailure ("unexpected pid " ++ value.compact))

/-- The hash of the session. -/
def getHash (client : Client) : StateM Network (Except SyncError String) := client.ask "get_md5"

/-- The root filename of the session. -/
def getRootFilename (client : Client) : StateM Network (Except SyncError String) :=
  client.ask "get_root_filename"

/-- Lets the session navigate to an offset. -/
def jumpto (client : Client) (address : Address) : StateM Network (Except SyncError Unit) :=
  client.run "jumpto" (.object [("address", .word address)])

/-- Lets the session color an item. -/
def setItemColor (client : Client) (address : Address) (color : Color) :
    StateM Network (Except SyncError Unit) :=
  client.run "set_item_color" (.object [("address", .word address), ("color", .word32 color)])

/-- Starts an export. -/
def exportTo (client : Client) (filename : String) : StateM Network (Except SyncError Unit) :=
  client.run "export" (.object [("filename", .string filename)])

/-- Starts to open a diff view. -/
def showDiff (client : Client) (filename : String) : StateM Network (Except SyncError Unit) :=
  client.run "show_diff" (.object [("filename", .string filename)])

/-- Lets the session run a batch. -/
def runCommands (client : Client) (commands : List Json) : StateM Network (Except SyncError Unit) :=
  client.run "run_commands" (.object [("commands", .array commands)])

end Client

end Tandem
