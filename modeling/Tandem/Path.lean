import Tandem.Text.Split

/-! # Paths

Paths as text: joining, the home directory, and the extension of a file's name. Nothing here looks
at files, and nothing is normalised. -/

namespace Tandem.Path

/-- A path below another. An absolute path stays as it is, and one slash divides the two. -/
def join (base path : String) : String :=
  if path.startsWith "/" then path
  else if base.isEmpty || base.endsWith "/" then base ++ path
  else base ++ "/" ++ path

/-- A leading `~/` stands for the home directory, when there is one. -/
def expandHome (home : Option String) (path : String) : String :=
  match home, path.toList with
  | some home, '~' :: '/' :: rest => join home (String.ofList rest)
  | _, _ => path

/-- The names between the slashes of a path. -/
def components (path : String) : List String := (Text.split '/' path.toList).map String.ofList

/-- The last name of a path. -/
def fileName (path : String) : String := (components path).getLastD ""

/-- The path up to its last name. -/
def front (path : String) : String :=
  String.ofList (path.toList.reverse.dropWhile (· ≠ '/')).reverse

/-- A name that stands for a directory by its position and not by what it is called. -/
def isRelative (name : String) : Bool := name.isEmpty || name == "." || name == ".."

/-- A name in two parts, before and behind its last dot. A dot in front divides nothing. -/
def atDot? (name : String) : Option (String × String) :=
  let back := name.toList.reverse
  match back.dropWhile (· ≠ '.') with
  | _ :: stem@(_ :: _) =>
    if isRelative name then none
    else some (String.ofList stem.reverse, String.ofList (back.takeWhile (· ≠ '.')).reverse)
  | _ => none

/-- What follows the last dot of a name. -/
def extension? (name : String) : Option String := (atDot? name).map Prod.snd

/-- A path with another extension at its last name. The old extension is taken off and its dot
stays for the new one. When that leaves the name `..`, it stays as it is, because it names
a directory. -/
def withExtension (path extension : String) : String :=
  let name := fileName path
  match atDot? name with
  | some (stem, _) =>
    if isRelative (stem ++ ".") then front path ++ stem ++ "."
    else front path ++ stem ++ "." ++ extension
  | none => if isRelative name then path else path ++ "." ++ extension

end Tandem.Path
