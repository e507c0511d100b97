import Tandem.Files
import Tandem.Json.Text
import Tandem.Session.Identity

/-! # The descriptor directory

Every session publishes its descriptor as a file in a common directory. The file is named for the
key of the session's hash, and is written aside first and then moved into place. -/

namespace Tandem

/-- Why a descriptor could not be published or found. -/
inductive DescriptorError where
  | io (path : String) (error : FileError)
  | malformed (path : String) (error : DecodeError)
  | notFound (path : String)
  | hashMismatch (path expected found : String)
  deriving DecidableEq, Repr

/-- The text of a descriptor error. -/
def DescriptorError.message : DescriptorError → String
  | .io path error => "Descriptor I/O failed for " ++ path ++ ": " ++ error.message
  | .malformed path error => "Malformed descriptor " ++ path ++ ": " ++ error.message
  | .notFound path => "No descriptor for session " ++ path
  | .hashMismatch path expected found =>
    "Descriptor " ++ path ++ " names session " ++ found ++ ", expected " ++ expected

namespace Descriptor

/-- Where the descriptor of a session is. -/
def path (dir hash : String) : String := Path.join dir (ContentHash.key hash ++ ".json")

/-- Where a descriptor is written before it is moved to its path. -/
def draftPath (path : String) : String := Path.withExtension path "json.tmp"

/-- The text of a descriptor's file. -/
def text (d : Descriptor) : String := d.toJson.pretty

/-- The descriptor that a text holds. -/
def ofText (text : String) : Except DecodeError Descriptor :=
  Decoder.ofText record.decode (Text.Symbol.ofString text)

/-- The descriptor in a file. -/
def read (files : Files) (path : String) : Except DescriptorError Descriptor :=
  match files.readText path with
  | .error .notFound => .error (.notFound path)
  | .error error => .error (.io path error)
  | .ok text =>
    match ofText text with
    | .ok d => .ok d
    | .error error => .error (.malformed path error)

/-- The descriptor of the session with a given hash. -/
def find (files : Files) (dir hash : String) : Except DescriptorError Descriptor := do
  let path := path dir hash
  let d ← read files path
  if ContentHash.agree d.hash hash then return d
  else .error (.hashMismatch path hash d.hash)

/-- Descriptors go by hash. -/
def le (a b : Descriptor) : Bool := a.hash ≤ b.hash

/-- The descriptors in a directory, sorted by hash. Those with the same hash stay in the order in which
the directory gives their names, and files that hold none are passed over. -/
def list (files : Files) (dir : String) : Except DescriptorError (List Descriptor) :=
  match files.names dir with
  | .error .notFound => .ok []
  | .error error => .error (.io dir error)
  | .ok names =>
    let found := names.filterMap fun name =>
      if Path.extension? name = some "json" then (read files (Path.join dir name)).toOption
      else none
    .ok (found.mergeSort le)

/-! ## Publishing -/

/-- Work on files that may fail on the way. -/
abbrev Filing := EStateM DescriptorError Files

/-- Does something to the files, or names the path at which it failed. -/
def filing (path : String) (change : Files → Except FileError Files) : Filing Unit := do
  match change (← get) with
  | .ok files => set files
  | .error error => throw (.io path error)

/-- Makes a directory with all above it. -/
def settleIn (dir : String) : Filing Unit := do
  let (outcome, files) := (← get).makeDirectories dir
  set files
  match outcome with
  | .ok () => return ()
  | .error error => throw (.io dir error)

/-- Writes a descriptor aside and moves it to its path. -/
def replace (path : String) (d : Descriptor) : Filing Unit := do
  let draft := draftPath path
  filing draft fun files => files.write draft d.text.toUTF8
  filing path fun files => files.rename draft path

/-- Publishes a descriptor, and tells its path. A file that already says the same is left as it
is. -/
def publish (dir : String) (d : Descriptor) : Filing String := do
  settleIn dir
  let path := path dir d.hash
  match read (← get) path with
  | .ok existing => if existing = d then return path else replace path d; return path
  | .error _ => replace path d; return path

end Descriptor

end Tandem
