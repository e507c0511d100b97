import Tandem.Text.Numeral
import Tandem.Text.Split

/-! # Addresses of machines

Reading the two kinds of addresses that a machine has on a network: four bytes with points between
them, or eight groups of hexadecimal digits with colons between them. -/

namespace Tandem

/-- An address of a machine. -/
inductive IpAddress where
  | v4 (bytes : List Nat)
  | v6 (groups : List Nat)
  deriving DecidableEq, Repr

namespace IpAddress

/-- A byte in decimal, without zeros in front. -/
def byte? (part : List Char) : Option Nat :=
  if 3 < part.length ∨ (1 < part.length ∧ part.head? = some '0') then none
  else if part.all Char.isDigit then (Text.readDigits? 10 part).filter (· < 256)
  else none

/-- Four bytes. -/
def bytes? (text : List Char) : Option (List Nat) := do
  let bytes ← (Text.split '.' text).mapM byte?
  if bytes.length = 4 then some bytes else none

/-- One to four hexadecimal digits. -/
def group? (part : List Char) : Option Nat :=
  if part.length ≤ 4 then Text.readDigits? 16 part else none

/-- Groups with colons between them. At the end of an address, four bytes may stand for the last two
groups. -/
def groups? (atEnd : Bool) : List (List Char) → Option (List Nat)
  | [] => some []
  | [part] =>
    match group? part with
    | some group => some [group]
    | none =>
      if atEnd then
        match bytes? part with
        | some [a, b, c, d] => some [256 * a + b, 256 * c + d]
        | _ => none
      else none
  | part :: parts => do
    let group ← group? part
    return group :: (← groups? atEnd parts)

/-- A run of groups, which may be empty. -/
def run? (atEnd : Bool) (text : List Char) : Option (List Nat) :=
  if text = [] then some [] else groups? atEnd (Text.split ':' text)

/-- Cuts a text at the first pair of colons. -/
def cut? : List Char → Option (List Char × List Char)
  | ':' :: ':' :: rest => some ([], rest)
  | c :: rest => (cut? rest).map fun (before, after) => (c :: before, after)
  | [] => none

/-- Eight groups. A pair of colons stands for one or more groups that are zero. -/
def parse6? (text : List Char) : Option (List Nat) :=
  match cut? text with
  | none => (run? true text).filter (·.length = 8)
  | some (before, after) => do
    let first ← run? false before
    let last ← run? true after
    if first.length + last.length ≤ 7 then
      some (first ++ List.replicate (8 - first.length - last.length) 0 ++ last)
    else none

/-- The address that a text writes. -/
def parse? (text : String) : Option IpAddress :=
  (bytes? text.toList).map .v4 <|> (parse6? text.toList).map .v6

/-! ## Listening -/

/-- The address at which the sessions of one machine call each other. -/
def localhost : IpAddress := .v4 [127, 0, 0, 1]

/-- An address of eight groups that only wraps four bytes is the same as these. -/
def plain : IpAddress → IpAddress
  | .v6 [0, 0, 0, 0, 0, 0xFFFF, high, low] => .v4 [high / 256, high % 256, low / 256, low % 256]
  | address => address

/-- Whether an address stands for all addresses of its kind. -/
def isWildcard : IpAddress → Bool
  | .v4 bytes => bytes.all (· = 0)
  | .v6 groups => groups.all (· = 0)

/-- Whether an address covers another: it is the same, or stands for it. All eight groups zero stand
for the addresses of both kinds. -/
def covers (a b : IpAddress) : Bool :=
  a.plain == b.plain ||
    match a.plain, b.plain with
    | .v4 bytes, .v4 _ => isWildcard (.v4 bytes)
    | .v6 groups, _ => isWildcard (.v6 groups)
    | .v4 _, .v6 _ => false

/-- Whether two addresses get in each other's way at the same port. -/
def meets (a b : IpAddress) : Bool := a.covers b || b.covers a

/-- Whether a machine with a loopback lets somebody listen at an address: at one of its own, at all of
them, or at one that stands for a group of machines. -/
def isLocal (address : IpAddress) : Bool :=
  match address.plain with
  | .v4 bytes =>
    bytes.head?.any (fun first => first = 127 || (224 ≤ first && first < 240)) ||
      bytes.all (· = 0) || bytes.all (· = 255)
  | .v6 groups => groups.dropLast.all (· = 0) && groups.getLast?.all (· ≤ 1)

/-- Whether a machine without a loopback lets somebody listen at an address. It knows none of its own
addresses then, and does not object to four bytes of any kind. -/
def isUnchecked (address : IpAddress) : Bool :=
  match address.plain with
  | .v4 _ => true
  | .v6 groups => isWildcard (.v6 groups)

end IpAddress

end Tandem
