import Tandem.MainLoop.Call
import Tandem.Rpc.Message
import Tandem.Rpc.Params

/-! # Calls

A request that makes sense is a call of one of eleven methods. `Rpc.Error` lists what can be wrong
with a request, and `Call.ofBody` finds the call in the bytes that arrived. -/

namespace Tandem.Rpc

/-- What is wrong with parameters. -/
inductive ParamsError where
  | malformed (error : DecodeError)
  | unknownTask (id : String)
  | noView (id : Nat)
  /-- The view opened last was asked for, and none is open. -/
  | noOpenView
  deriving DecidableEq, Repr

/-- The text of what is wrong with parameters. -/
def ParamsError.message : ParamsError → String
  | .malformed error => error.message
  | .unknownTask id => "unknown task " ++ id
  | .noView id => "no diff view " ++ Text.decimal id
  | .noOpenView => "no diff view is open"

/-- What is wrong with a request that was read. -/
inductive RequestError where
  | malformed (error : DecodeError)
  | version (found : String)
  deriving DecidableEq, Repr

/-- The text of what is wrong with a request. -/
def RequestError.message : RequestError → String
  | .malformed error => error.message
  | .version found => "unsupported jsonrpc version " ++ found

/-- Why a request fails. -/
inductive Error where
  /-- The bytes are no JSON. -/
  | parse
  | invalidRequest (error : RequestError)
  | methodNotFound (method : String)
  | invalidParams (error : ParamsError)
  | host (error : CallError)
  deriving DecidableEq, Repr

/-- The number of an error. -/
def Error.code : Error → Int
  | .parse => -32700
  | .invalidRequest _ => -32600
  | .methodNotFound _ => -32601
  | .invalidParams _ => -32602
  | .host _ => -32000

/-- The text of an error. -/
def Error.message : Error → String
  | .parse => "Parse error: " ++ DecodeError.malformed.message
  | .invalidRequest error => "Invalid request: " ++ error.message
  | .methodNotFound method => "Method not found: " ++ method
  | .invalidParams error => "Invalid params: " ++ error.message
  | .host error => error.message

/-- The response to a request that failed. -/
def Response.ofError (id : Option Json) (error : Error) : Response :=
  .failed id error.code error.message

/-- A call of a method with its parameters. -/
inductive Call where
  | getPid
  | jumpto (params : JumptoParams)
  | setItemColor (params : SetItemColorParams)
  | getHash
  | getRootFilename
  | exportTo (params : FilenameParams)
  | showDiff (params : FilenameParams)
  | runCommands (params : RunCommandsParams)
  | taskStatus (params : TaskStatusParams)
  | viewRows (params : ViewRowsParams)
  | activateRow (params : ActivateRowParams)

namespace Call

/-- What a method reads its parameters from. None at all are no fields, and `null` is none. -/
def supplied : Option Json → Json
  | none => .object []
  | some .null => .object []
  | some value => value

/-- The parameters of a method. -/
def params {α : Type} (r : Record α) (given : Option Json) : Except Error α :=
  match r.decode.ofValue (supplied given) with
  | .ok a => .ok a
  | .error error => .error (.invalidParams (.malformed error))

/-- The call of a method by its name. Methods without parameters take no notice of any. -/
def decode (method : String) (given : Option Json) : Except Error Call :=
  match method with
  | "get_pid" => .ok .getPid
  | "jumpto" => .jumpto <$> params JumptoParams.record given
  | "set_item_color" => .setItemColor <$> params SetItemColorParams.record given
  | "get_md5" => .ok .getHash
  | "get_root_filename" => .ok .getRootFilename
  | "export" => .exportTo <$> params FilenameParams.record given
  | "show_diff" => .showDiff <$> params FilenameParams.record given
  | "run_commands" => .runCommands <$> params RunCommandsParams.record given
  | "task_status" => .taskStatus <$> params TaskStatusParams.record given
  | "view_rows" => .viewRows <$> params ViewRowsParams.record given
  | "activate_row" => .activateRow <$> params ActivateRowParams.record given
  | other => .error (.methodNotFound other)

/-- The call in the bytes of a request. The id of the request, once it is known, comes along. -/
def ofBody (body : ByteArray) : Option Json × Except Error Call :=
  match Json.parse? body with
  | none => (none, .error .parse)
  | some value =>
    match Request.record.decode.ofValue value with
    | .error error => (none, .error (.invalidRequest (.malformed error)))
    | .ok request =>
      if request.version = Rpc.version then (request.id, decode request.method request.params)
      else (request.id, .error (.invalidRequest (.version request.version)))

end Call

end Tandem.Rpc
