import Tandem.Text.IpAddress

/-! # Invocations

What the words of a command line ask for. Words are read from left to right, and the first thing that
is wrong, or a request for help, ends the reading. -/

namespace Tandem

/-- What help is given on. -/
inductive HelpTopic where
  | commands
  | serve
  | call
  | sessions
  /-- The help command itself. -/
  | help
  deriving DecidableEq, Repr

/-- Where descriptors are kept unless another place is given. -/
def defaultDirectory : String := "~/.binsync/sessions"

/-- What is asked for by `serve`. -/
structure ServeOptions where
  fixture : String
  bindHost : IpAddress := .localhost
  basePort : UInt16 := 18861
  directory : String := defaultDirectory
  deriving DecidableEq, Repr

/-- What is asked for by `call`. -/
structure CallOptions where
  method : String
  params : Option String := none
  hash : Option String := none
  port : Option UInt16 := none
  directory : String := defaultDirectory
  deriving DecidableEq, Repr

/-- What a command line asks for. -/
inductive Invocation where
  | help (topic : HelpTopic)
  | version
  | serve (options : ServeOptions)
  | call (options : CallOptions)
  | sessions (directory : String)
  deriving DecidableEq, Repr

namespace Invocation

/-! ## Values -/

/-- An unsigned number with at most one sign in front. -/
def natural? (text : String) : Option Nat :=
  match text.toList with
  | '+' :: digits => Text.readDigits? 10 digits
  | digits => Text.readDigits? 10 digits

/-- A port. Zero may have a minus sign. -/
def port? (text : String) : Option UInt16 :=
  let number := match text.toList with
    | '-' :: digits => (Text.readDigits? 10 digits).filter (· = 0)
    | _ => natural? text
  (number.filter (· < UInt16.size)).map Nat.toUInt16

/-- Whether a text is a number of seconds. -/
def isSeconds (text : String) : Bool := (natural? text).any (· < UInt64.size)

/-! ## Words -/

/-- The options of a command with the values that each accepts, and how many other words it takes. -/
structure Form where
  options : List (String × (String → Bool))
  others : Nat := 0

/-- The words of a command, taken apart. -/
structure Words where
  values : List (String × String) := []
  others : List String := []

/-- The value of an option. -/
def Words.value? (words : Words) (name : String) : Option String := words.values.lookup name

/-- Adds the value of an option, which may be given once. -/
def Words.withValue? (form : Form) (words : Words) (name value : String) : Option Words :=
  match form.options.lookup name with
  | some accepts =>
    if accepts value ∧ (words.values.lookup name).isNone then
      some { words with values := words.values ++ [(name, value)] }
    else none
  | none => none

/-- Adds words that belong to no option. -/
def Words.withOthers? (form : Form) (words : Words) (others : List String) : Option Words :=
  let all := words.others ++ others
  if all.length ≤ form.others then some { words with others := all } else none

/-- Whether a word is meant as an option. -/
def isOption (word : String) : Bool :=
  match word.toList with
  | '-' :: _ :: _ => true
  | _ => false

/-- Whether a word asks for help. -/
def asksForHelp (word : String) : Bool :=
  match word.toList with
  | '-' :: 'h' :: _ => true
  | _ => word = "--help"

/-- The name and the value in a word that has both. -/
def assigned? (word : String) : Option (String × String) :=
  match word.toList.span (· ≠ '=') with
  | (name, _ :: value) => some (String.ofList name, String.ofList value)
  | (_, []) => none

/-- What reading the words of a command comes to. -/
inductive Scan where
  | help
  | words (words : Words)

/-- Takes the words of a command apart. -/
def scan? (form : Form) (words : Words) : List String → Option Scan
  | [] => some (.words words)
  | word :: rest =>
    if word = "--" then (words.withOthers? form rest).map .words
    else if asksForHelp word then some .help
    else if isOption word then
      match assigned? word with
      | some (name, value) =>
        match words.withValue? form name value with
        | some words => scan? form words rest
        | none => none
      | none =>
        match rest with
        | [] => none
        | value :: rest =>
          if isOption value then none
          else match words.withValue? form word value with
            | some words => scan? form words rest
            | none => none
    else match words.withOthers? form [word] with
      | some words => scan? form words rest
      | none => none

/-! ## Commands -/

/-- Accepts every value. -/
def anything (_ : String) : Bool := true

/-- How `serve` is written. -/
def serveForm : Form where
  options := [("--fixture", anything), ("--bind-host", fun s => (IpAddress.parse? s).isSome),
    ("--base-port", fun s => (port? s).isSome), ("--descriptor-dir", anything),
    ("--peer-timeout-secs", isSeconds)]

/-- How `call` is written. -/
def callForm : Form where
  options := [("--md5", anything), ("--port", fun s => (port? s).isSome),
    ("--descriptor-dir", anything), ("--timeout-secs", isSeconds)]
  others := 2

/-- How `sessions` is written. -/
def sessionsForm : Form where
  options := [("--descriptor-dir", anything)]

/-- The directory that words name, or the one that is meant without any. -/
def directoryOf (words : Words) : String := (words.value? "--descriptor-dir").getD defaultDirectory

/-- What the words of `serve` ask for. -/
def serve? (words : Words) : Option Invocation := do
  let fixture ← words.value? "--fixture"
  return .serve {
    fixture := fixture
    bindHost := ((words.value? "--bind-host").bind IpAddress.parse?).getD .localhost
    basePort := ((words.value? "--base-port").bind port?).getD 18861
    directory := directoryOf words }

/-- What the words of `call` ask for. -/
def call? (words : Words) : Option Invocation := do
  let method ← words.others.head?
  return .call {
    method := method
    params := words.others[1]?
    hash := words.value? "--md5"
    port := (words.value? "--port").bind port?
    directory := directoryOf words }

/-- Reads the words behind the name of a command. -/
def command? (topic : HelpTopic) (form : Form) (read : Words → Option Invocation)
    (rest : List String) : Option Invocation := do
  match ← scan? form {} rest with
  | .help => some (.help topic)
  | .words words => read words

/-- The command with a name. -/
def topic? : String → Option HelpTopic
  | "serve" => some .serve
  | "call" => some .call
  | "sessions" => some .sessions
  | "help" => some .help
  | _ => none

/-- What a command line asks for, unless it is wrong. -/
def parse? : List String → Option Invocation
  | [] => none
  | word :: rest =>
    if asksForHelp word then some (.help .commands)
    else if word = "--version" ∨ word.toList.take 2 = ['-', 'V'] then some .version
    else match topic? word with
      | some .serve => command? .serve serveForm serve? rest
      | some .call => command? .call callForm call? rest
      | some .sessions => command? .sessions sessionsForm (fun w => some (.sessions (directoryOf w))) rest
      | some .help =>
        match rest with
        | [] => some (.help .commands)
        | [name] => (topic? name).map .help
        | _ => none
      | some .commands | none => none

end Invocation

end Tandem
