import Tandem.CommandLine.Run

/-! # The program

Runs a command line. The files that a command names are read from disk and exports are written
there. A session is served over standard input and output, with a request on every line and a
response for each of them; when the input ends, so does the session. Nothing here reaches other
programs, so a call ends like a call to a port on which nobody listens. -/

namespace Tandem

/-- The files that a command line names. -/
def Invocation.reads (home : Option String) : Invocation → List String
  | .serve options => [Path.expandHome home options.fixture]
  | .call options =>
    options.hash.toList.map (Descriptor.path (Path.expandHome home options.directory))
  | _ => []

/-- Whether a command line asks for all descriptors that there are. -/
def Invocation.lists : Invocation → Bool
  | .sessions _ => true
  | .call options => options.port.isNone && options.hash.isNone
  | _ => false

/-- The command line with its session at the local address, where this program can reach it. -/
def Invocation.nearby : Invocation → Invocation
  | .serve options =>
    .serve (if options.bindHost.isLocal then { options with bindHost := .localhost } else options)
  | invocation => invocation

/-- The file that a request asks a session to read. -/
def requestedFile? (home : Option String) (body : ByteArray) : Option String :=
  match Rpc.Call.ofBody body with
  | (_, .ok (.showDiff params)) => some (Path.expandHome home params.filename)
  | _ => none

/-- The exports of the session behind a port, with their contents. -/
def exportsAt (n : Network) (port : UInt16) : List (String × ByteArray) :=
  match n.station? port with
  | none => []
  | some station => station.session.workspace.host.exports.filterMap fun path =>
      (n.files.read path).toOption.map fun content => (path, content)

/-- Reads files from disk, as far as they are there. -/
def readIn (files : Files) (paths : List String) : IO Files :=
  paths.foldlM (fun (files : Files) (path : String) => do
    try
      let content ← IO.FS.readBinFile path
      return files.place path content
    catch _ => return files) files

/-- Answers the requests on the lines of the input. -/
partial def serveLines (home : Option String) (input output : IO.FS.Stream) (port : UInt16)
    (n : Network) : IO Unit := do
  let line ← input.getLine
  if line.isEmpty then return
  let body := line.toUTF8
  let files ← readIn n.files (requestedFile? home body).toList
  let request : Http.Request := { method := "POST", target := Http.callPath, body := body }
  let (ended, n) := Network.exchange port request { n with files := files }
  let n := (n.settle port).deliver port
  for (path, content) in exportsAt n port do
    try IO.FS.writeBinFile path content catch _ => pure ()
  match ended with
  | .answered response => output.putStrLn ((String.fromUTF8? response.body).getD "")
  | _ => pure ()
  output.flush
  serveLines home input output port n

/-- Prints what a command printed. -/
def finish (outcome : Outcome) : IO UInt32 := do
  (← IO.getStdout).putStr outcome.output
  (← IO.getStderr).putStr outcome.errors
  return outcome.code

/-- Runs the words of a command line on this machine. -/
def run (words : List String) : IO UInt32 := do
  let home ← IO.getEnv "HOME"
  match Invocation.parse? words with
  | none => finish .misused
  | some invocation =>
    if invocation.lists then finish (.failed "directories cannot be listed here; pass --md5 or --port")
    else
      let files ← readIn .empty (invocation.reads home)
      match invocation.nearby.execute home .null { files := files } with
      | (.finished outcome, _) => finish outcome
      | (.serving launched, n) =>
        let output ← IO.getStdout
        output.putStrLn (Text.decimal launched.endpoint.port.toNat)
        output.flush
        serveLines home (← IO.getStdin) output launched.endpoint.port n
        return 0

end Tandem

def main (words : List String) : IO UInt32 := Tandem.run words
