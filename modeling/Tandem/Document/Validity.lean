import Tandem.Document.Basic
import Tandem.Files

/-! # Valid match documents

No block of a document ends before it starts or is too long to be walked item by item, and no two
unidentified blocks of one side of a match overlap. A document that breaks a rule is refused with
the first block that does. -/

namespace Tandem

/-- Why a match document is refused. -/
inductive DocumentError where
  | unreadable (path : String) (error : FileError)
  | malformed (error : DecodeError)
  | inverted (function : Address) (role : Role) (block : Block)
  | oversized (function : Address) (role : Role) (block : Block)
  /-- Two unidentified blocks, given by their starts, overlap. -/
  | overlapping (function : Address) (role : Role) (first second : Address)
  deriving DecidableEq, Repr

namespace Block

/-- The longest block, in bytes. -/
def longest : Nat := 0x100000

/-- A block as messages show it. -/
def text (b : Block) : String := b.start.text ++ ".." ++ b.stop.text

/-- The order of blocks by start, then by stop. -/
def le (a b : Block) : Bool :=
  a.start < b.start || (a.start == b.start && a.stop ≤ b.stop)

end Block

/-- The text of an error. -/
def DocumentError.message : DocumentError → String
  | .unreadable path error => "Failed to read match document " ++ path ++ ": " ++ error.message
  | .malformed error => "Malformed match document: " ++ error.message
  | .inverted function role block =>
    "Function match " ++ function.text ++ ": " ++ role.text ++ " block " ++ block.text ++
      " ends before it starts"
  | .oversized function role block =>
    "Function match " ++ function.text ++ ": " ++ role.text ++ " block " ++ block.text ++
      " spans more than " ++ Text.hexMarked Block.longest ++ " bytes"
  | .overlapping function role first second =>
    "Function match " ++ function.text ++ ": unidentified " ++ role.text ++ " blocks " ++
      first.text ++ " and " ++ second.text ++ " overlap"

namespace FunctionMatch

/-- Checks one block of a side. -/
def checkBlock (m : FunctionMatch) (role : Role) (b : Block) : Except DocumentError Unit :=
  if b.stop < b.start then .error (.inverted (m.address.on role) role b)
  else if Block.longest < (b.stop - b.start).toNat then
    .error (.oversized (m.address.on role) role b)
  else .ok ()

/-- Checks that in a sorted list each block ends before the next one starts. -/
def checkDisjoint (m : FunctionMatch) (role : Role) : List Block → Except DocumentError Unit
  | a :: b :: rest =>
    if b.start < a.stop then .error (.overlapping (m.address.on role) role a.start b.start)
    else checkDisjoint m role (b :: rest)
  | _ => .ok ()

/-- Checks the blocks of one side: the matched ones, the unidentified ones, then overlaps. -/
def validateSide (m : FunctionMatch) (role : Role) : Except DocumentError Unit := do
  (m.matchedBlocks role).forM (m.checkBlock role)
  (m.unidentified.on role).forM (m.checkBlock role)
  m.checkDisjoint role ((m.unidentified.on role).mergeSort Block.le)

/-- Checks both sides, source first. -/
def validate (m : FunctionMatch) : Except DocumentError Unit := do
  m.validateSide .source
  m.validateSide .target

end FunctionMatch

/-- Checks every match of a document in order. -/
def MatchDocument.validate (document : MatchDocument) : Except DocumentError Unit :=
  document.functions.forM FunctionMatch.validate

end Tandem
