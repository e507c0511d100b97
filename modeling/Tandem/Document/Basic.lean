import Tandem.Address
import Tandem.ContentHash

/-! # Match documents

A match document lists the functions of two images that correspond to each other, with their
matched blocks in pairs and the blocks that have no counterpart. The two images are its sides,
source and target. A session looks at the document from one side, and the other side is its peer. -/

namespace Tandem

/-- A side of a comparison. -/
inductive Role where
  | source
  | target
  deriving DecidableEq, Repr

/-- The other side. -/
def Role.peer : Role → Role
  | .source => .target
  | .target => .source

/-- The name of a side. -/
def Role.text : Role → String
  | .source => "source"
  | .target => "target"

/-- Something that each side has one of. -/
structure Sided (α : Type) where
  source : α
  target : α
  deriving DecidableEq, Repr

/-- What a side has. -/
def Sided.on {α : Type} (s : Sided α) : Role → α
  | .source => s.source
  | .target => s.target

/-- A range of offsets from `start` up to, and without, `stop`. -/
structure Block where
  start : Address
  stop : Address
  deriving DecidableEq, Repr

/-- A function of the source image and the function of the target image that matches it. -/
structure FunctionMatch where
  /-- Where the functions start, as offsets. -/
  address : Sided Address
  name : Sided (Option String)
  /-- The matched blocks. -/
  pairs : List (Sided Block)
  /-- The blocks without a counterpart. -/
  unidentified : Sided (List Block)
  deriving DecidableEq, Repr

/-- The matched functions of two images, with the hash of each image if it is known. -/
structure MatchDocument where
  hash : Sided (Option String)
  functions : List FunctionMatch
  deriving DecidableEq, Repr

namespace FunctionMatch

/-- How many blocks are matched, both sides counted. -/
def matchedCount (m : FunctionMatch) : Nat := m.pairs.length * 2

/-- How many blocks of a side have no counterpart. -/
def unidentifiedCount (m : FunctionMatch) (role : Role) : Nat := (m.unidentified.on role).length

/-- The matched blocks of a side. -/
def matchedBlocks (m : FunctionMatch) (role : Role) : List Block := m.pairs.map (·.on role)

end FunctionMatch

namespace MatchDocument

/-- Whether a hash is that of a side's image. -/
def isOf (document : MatchDocument) (hash : String) (role : Role) : Bool :=
  match document.hash.on role with
  | some known => ContentHash.agree known hash
  | none => false

/-- The side that a session with a given hash is on. The source side is tried first. -/
def roleOf? (document : MatchDocument) (hash : String) : Option Role :=
  [Role.source, Role.target].find? (document.isOf hash)

end MatchDocument

end Tandem
