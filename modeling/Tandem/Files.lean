import Std.Data.ExtTreeMap
import Tandem.Path

/-! # Files

A working directory with the files and directories around it, and what the file operations do to
them.

A place is the list of names that leads there from the working directory. Every operation takes a
path, finds the place that it leads to, and fails as a file system does: in the middle of a path
only directories lead on. -/

namespace Tandem

/-- Why a file operation fails. -/
inductive FileError where
  | notFound
  | alreadyExists
  | notDirectory
  | isDirectory
  | nameTooLong
  | nulInName
  | invalidText
  deriving DecidableEq, Repr

/-- The text of a file error. -/
def FileError.message : FileError → String
  | .notFound => "No such file or directory (os error 2)"
  | .alreadyExists => "File exists (os error 17)"
  | .notDirectory => "Not a directory (os error 20)"
  | .isDirectory => "Is a directory (os error 21)"
  | .nameTooLong => "File name too long (os error 36)"
  | .nulInName => "file name contained an unexpected NUL byte"
  | .invalidText => "stream did not contain valid UTF-8"

/-- What stands at a place. -/
inductive Node where
  | file (content : ByteArray)
  | directory

/-- The names that lead from the working directory to a file or a directory. Names `..` in front
lead to the directories above it, and the name `/` in front to the root. -/
abbrev Place := List String

namespace Place

/-- The directories that are always there: the working directory, those above it, and the root. -/
def isGiven (place : Place) : Bool := place.all (· == "..") || place == ["/"]

/-- The directory above a place. The root is above itself. -/
def above (place : Place) : Place :=
  if place = ["/"] then place
  else if place.isGiven then place ++ [".."]
  else place.dropLast

end Place

/-- The files and directories that are there. -/
structure Files where
  nodes : Std.ExtTreeMap Place Node

namespace Files

/-- An empty working directory. -/
def empty : Files := ⟨∅⟩

instance : Inhabited Files := ⟨empty⟩

/-- What stands at a place. -/
def node? (files : Files) (place : Place) : Option Node :=
  if place.isGiven then some .directory else files.nodes[place]?

/-- Puts a file or a directory at a place. -/
def set (files : Files) (place : Place) (node : Node) : Files := ⟨files.nodes.insert place node⟩

/-- Takes away what stands at a place. -/
def erase (files : Files) (place : Place) : Files := ⟨files.nodes.erase place⟩

/-! ## Ways -/

/-- The longest name of a file, in bytes. -/
def longestName : Nat := 255

/-- The longest path, in bytes. -/
def longestPath : Nat := 4095

/-- A name that leads nowhere by itself. -/
def isDot (name : String) : Bool := name.isEmpty || name == "."

/-- A name that nothing can be called by, because it stands for a directory that is there. -/
def isTaken (name : String) : Bool := isDot name || name == ".." || name == "/"

/-- The names of a path. An absolute path starts at the root, which has the name `/`. -/
def waypoints (path : String) : List String :=
  if path.startsWith "/" then "/" :: Path.components path else Path.components path

/-- The text of a path is judged before anything is looked up. -/
def check (path : String) : Except FileError Unit :=
  if path.toList.contains '\x00' then .error .nulInName
  else if path.isEmpty then .error .notFound
  else if longestPath < path.utf8ByteSize then .error .nameTooLong
  else .ok ()

/-- Follows names from a place. Only directories lead on. -/
def follow (files : Files) : Place → List String → Except FileError Place
  | here, [] => .ok here
  | here, name :: rest =>
    match files.node? here with
    | none => .error .notFound
    | some (.file _) => .error .notDirectory
    | some .directory =>
      if isDot name then follow files here rest
      else if name = ".." then follow files here.above rest
      else if longestName < name.utf8ByteSize then .error .nameTooLong
      else follow files (here ++ [name]) rest

/-- The place that a path leads to, whether something stands there or not. -/
def find (files : Files) (path : String) : Except FileError Place := do
  check path
  files.follow [] (waypoints path)

/-- Names divided before the last one that is not empty: empty names behind it come from slashes
that end a path. -/
def divide (names : List String) : List String × String :=
  let back := names.reverse.dropWhile (·.isEmpty)
  (back.tail.reverse, back.headD "")

/-- The directory that names lead to. -/
def enter (files : Files) (names : List String) : Except FileError Place :=
  -- the empty name behind them asks for a directory
  files.follow [] (names ++ [""])

/-! ## Operations -/

/-- The content of a file. -/
def read (files : Files) (path : String) : Except FileError ByteArray := do
  let place ← files.find path
  match files.node? place with
  | some (.file content) => return content
  | some .directory => .error .isDirectory
  | none => .error .notFound

/-- The content of a file as text. -/
def readText (files : Files) (path : String) : Except FileError String := do
  let content ← files.read path
  match String.fromUTF8? content with
  | some text => return text
  | none => .error .invalidText

/-- Writes a file, new or over an old one. Its directory has to be there, and no slash can follow
its name. -/
def write (files : Files) (path : String) (content : ByteArray) : Except FileError Files := do
  check path
  let (outer, name) := divide (waypoints path)
  let parent ← files.enter outer
  if isTaken name || path.endsWith "/" then .error .isDirectory
  else if longestName < name.utf8ByteSize then .error .nameTooLong
  else
    let place := parent ++ [name]
    match files.node? place with
    | some .directory => .error .isDirectory
    | _ => return files.set place (.file content)

/-- Moves a file, over an old one if need be. -/
def rename (files : Files) (source target : String) : Except FileError Files := do
  let here ← files.find source
  let there ← files.find target
  match files.node? here, files.node? there with
  | none, _ => .error .notFound
  | some (.file _), some .directory => .error .isDirectory
  | some node, _ => return (files.erase here).set there node

/-! ## Directories -/

/-- Whether names lead to a directory. -/
def isDirectory (files : Files) (names : List String) : Bool := (files.enter names).isOk

/-- Makes one directory. The one above it has to be there. -/
def makeDirectory (files : Files) (names : List String) : Except FileError Files := do
  let (outer, name) := divide names
  let parent ← files.enter outer
  if isTaken name then .error .alreadyExists
  else if longestName < name.utf8ByteSize then .error .nameTooLong
  else
    let place := parent ++ [name]
    match files.node? place with
    | some _ => .error .alreadyExists
    | none => return files.set place .directory

/-- Makes one directory, unless it is there. -/
def ensureDirectory (files : Files) (names : List String) : Except FileError Files :=
  match files.makeDirectory names with
  | .error .alreadyExists =>
    if files.isDirectory names then .ok files else .error .alreadyExists
  | outcome => outcome

/-- Makes a directory, given with those above it from the inside out. One further out is asked for
only when it is missed, and what was made stays when something inside it fails. -/
def ensureChain (files : Files) : List (List String) → Except FileError Unit × Files
  | [] => (.ok (), files)
  | names :: outer =>
    match files.ensureDirectory names with
    | .ok files => (.ok (), files)
    | .error .notFound =>
      match files.ensureChain outer with
      | (.ok (), files) =>
        match files.ensureDirectory names with
        | .ok files => (.ok (), files)
        | .error error => (.error error, files)
      | failed => failed
    | .error error => (.error error, files)

/-- The beginnings of a list, the longest first, down to one element. -/
def beginnings : List String → List (List String)
  | [] => []
  | name :: rest => (beginnings rest).map (name :: ·) ++ [[name]]

/-- A path and the paths above it, from the inside out. Above it, names that lead nowhere count for
nothing. The root has no place in it, because nobody has to make it. -/
def chain (path : String) : List (List String) :=
  let names := waypoints path
  let steps := names.filter (!isDot ·)
  if steps = ["/"] then []
  else names :: (beginnings steps.dropLast).filter (· ≠ ["/"])

/-- Makes a directory with all directories above it. The empty path asks for nothing. -/
def makeDirectories (files : Files) (path : String) : Except FileError Unit × Files :=
  if path.isEmpty then (.ok (), files)
  else
    match check path with
    | .error error => (.error error, files)
    | .ok () => files.ensureChain (chain path)

/-- The names in a directory, in order. -/
def names (files : Files) (path : String) : Except FileError (List String) := do
  let place ← files.find path
  match files.node? place with
  | none => .error .notFound
  | some (.file _) => .error .notDirectory
  | some .directory =>
    return files.nodes.keys.filterMap fun other =>
      if other.dropLast = place then other.getLast? else none

/-- Takes a file away, if there is one. -/
def remove (files : Files) (path : String) : Files :=
  match files.find path with
  | .ok place =>
    match files.node? place with
    | some (.file _) => files.erase place
    | _ => files
  | .error _ => files

/-- The directory part of a path: all but its last name. -/
def above (path : String) : String := "/".intercalate (Path.components path).dropLast

/-- Puts a file in place together with the directories above it, as far as that can be done. -/
def place (files : Files) (path : String) (content : ByteArray) : Files :=
  match files.makeDirectories (above path) with
  | (.ok (), files) => (files.write path content).toOption.getD files
  | (.error _, files) => files

end Files

end Tandem
