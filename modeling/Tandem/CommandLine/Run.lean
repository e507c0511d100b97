import Tandem.CommandLine.Help
import Tandem.Network.Discovery
import Tandem.Network.Launch

/-! # Running a command line

What a command does on a machine, what it prints, and the code that it ends with: 0 when all went
well, 1 when the command failed, and 2 when the command line itself is wrong. -/

namespace Tandem

/-- What a command printed, and how it ended. -/
structure Outcome where
  code : UInt32 := 0
  output : String := ""
  errors : String := ""
  deriving DecidableEq, Repr

/-- The outcome of a command that failed. -/
def Outcome.failed (reason : String) : Outcome := { code := 1, errors := "Error: " ++ reason ++ "\n" }

/-- The outcome of a command line that is wrong. -/
def Outcome.misused : Outcome :=
  { code := 2, errors := "error: wrong usage\n\nFor more information, try '--help'.\n" }

/-- A value on lines of its own. -/
def Outcome.ofJson (value : Json) : Outcome := { output := value.pretty ++ "\n" }

/-- What a command comes to. -/
inductive Execution where
  | finished (outcome : Outcome)
  /-- The command serves a session until it is stopped. -/
  | serving (launched : Launched)

namespace Invocation

/-- The session that `serve` is to serve, read from the file that describes its image. -/
def loadFixture (files : Files) (path : String) : Except String Host :=
  match files.readText path with
  | .error error => .error (path ++ ": " ++ error.message)
  | .ok text =>
    match Image.ofBytes text.toUTF8 with
    | .error error => .error ("invalid fixture " ++ path ++ ": " ++ error.message)
    | .ok image => .ok (Host.load image)

/-- Starts the session that `serve` asks for. -/
def startSession (home : Option String) (process : Json) (o : ServeOptions) (n : Network) :
    Execution × Network :=
  match loadFixture n.files (Path.expandHome home o.fixture) with
  | .error reason => (.finished (.failed reason), n)
  | .ok host =>
    let config : LaunchConfig := { host := o.bindHost, basePort := o.basePort, process := process,
                                   home := home, directory := Path.expandHome home o.directory }
    match Network.launch config host true n with
    | .ok launched n => (.serving launched, n)
    | .error error n => (.finished (.failed error.message), n)

/-- The port of the session that `call` is meant for: the one given, the one in the descriptor of a
hash, or that of the only session there is. -/
def targetPort (home : Option String) (o : CallOptions) (files : Files) : Except String UInt16 :=
  let directory := Path.expandHome home o.directory
  match o.port, o.hash with
  | some port, _ => .ok port
  | none, some hash =>
    match Descriptor.find files directory hash with
    | .ok descriptor => .ok descriptor.port
    | .error error => .error error.message
  | none, none =>
    match Descriptor.list files directory with
    | .error error => .error error.message
    | .ok [only] => .ok only.port
    | .ok [] => .error ("no sessions in " ++ directory)
    | .ok _ => .error ("several sessions in " ++ directory ++ "; pass --md5 or --port")

/-- The parameters that `call` passes on. -/
def paramsOf (o : CallOptions) : Except String Json :=
  match o.params with
  | none => .ok (.object [])
  | some text =>
    match Json.parse? text.toUTF8 with
    | some params => .ok params
    | none => .error "params must be JSON: syntax"

/-- Makes the call that `call` asks for. -/
def makeCall (home : Option String) (o : CallOptions) (n : Network) : Outcome × Network :=
  match paramsOf o, targetPort home o n.files with
  | .error reason, _ => (.failed reason, n)
  | .ok _, .error reason => (.failed reason, n)
  | .ok params, .ok port =>
    let (client, n) := Network.client port n
    match client.call o.method params n with
    | (.ok result, n) => (.ofJson result, n)
    | (.error error, n) => (.failed error.message, n)

/-- The descriptors in a directory. -/
def listSessions (home : Option String) (directory : String) (files : Files) : Outcome :=
  match Descriptor.list files (Path.expandHome home directory) with
  | .ok descriptors => .ofJson (.array (descriptors.map Descriptor.toJson))
  | .error error => .failed error.message

/-- Does what a command line asks for. -/
def execute (home : Option String) (process : Json) (n : Network) :
    Invocation → Execution × Network
  | .help topic => (.finished { output := topic.text }, n)
  | .version => (.finished { output := versionText }, n)
  | .sessions directory => (.finished (listSessions home directory n.files), n)
  | .call options =>
    let (outcome, n) := makeCall home options n
    (.finished outcome, n)
  | .serve options => startSession home process options n

end Invocation

/-- Runs the words of a command line. -/
def runCommandLine (home : Option String) (process : Json) (words : List String) (n : Network) :
    Execution × Network :=
  match Invocation.parse? words with
  | none => (.finished .misused, n)
  | some invocation => invocation.execute home process n

end Tandem
