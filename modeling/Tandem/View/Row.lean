import Tandem.Json.Decode
import Tandem.Address

/-! # Rows

One row of a match view: a function of the own image and the one of the peer's image that matches
it. Rows have a text for each column, and any column but the headings' repetitions sorts them. -/

namespace Tandem

/-- A function match as it is shown. -/
structure Row where
  /-- The position of the match in the document. -/
  index : Nat
  ownName : String
  /-- The absolute address in the own image. -/
  ownAddress : Address
  peerName : String
  /-- The offset in the peer's image. -/
  peerAddress : Address
  matched : Nat
  ownUnidentified : Nat
  peerUnidentified : Nat
  deriving DecidableEq, Repr

namespace Row

/-- The title over the rows. -/
def title : String := "Function Matches"

/-- The headings of the columns. -/
def headers : List String :=
  ["Source", "Address", "Target", "Address", "Matched", "Removed", "Added"]

/-- The least width of numbers in cells. -/
def cellWidth : Nat := 8

/-- The texts of a row, one for each heading. -/
def cells (r : Row) : List String :=
  let hex (a : Address) := Text.zeroPadded cellWidth (Text.hex a.toNat)
  let count (n : Nat) := Text.zeroPadded cellWidth (Text.decimal n)
  [r.ownName, hex r.ownAddress, r.peerName, hex r.peerAddress, count r.matched,
    count r.ownUnidentified, count r.peerUnidentified]

def record : Record Row where
  name := "struct MatchRow"
  blank := ⟨0, "", 0, "", 0, 0, 0, 0⟩
  fields := [
    .required "index" .count fun n r => { r with index := n.toNat },
    .required "self_name" .string fun s r => { r with ownName := s },
    .required "self_address" .word fun a r => { r with ownAddress := a },
    .required "peer_name" .string fun s r => { r with peerName := s },
    .required "peer_address" .word fun a r => { r with peerAddress := a },
    .required "matched_blocks" .count fun n r => { r with matched := n.toNat },
    .required "self_unidentified" .count fun n r => { r with ownUnidentified := n.toNat },
    .required "peer_unidentified" .count fun n r => { r with peerUnidentified := n.toNat }]

/-- The fields of a row as an object has them. -/
def toFields (r : Row) : List (String × Json) :=
  [("index", .nat r.index), ("self_name", .string r.ownName), ("self_address", .word r.ownAddress),
    ("peer_name", .string r.peerName), ("peer_address", .word r.peerAddress),
    ("matched_blocks", .nat r.matched), ("self_unidentified", .nat r.ownUnidentified),
    ("peer_unidentified", .nat r.peerUnidentified)]

def toJson (r : Row) : Json := .object r.toFields

/-- The cells of a row as an array. -/
def cellsToJson (r : Row) : Json := .array (r.cells.map .string)

/-- A row as an object with its cells. -/
def toJsonWithCells (r : Row) : Json := .object (r.toFields ++ [("cells", r.cellsToJson)])

end Row

/-! ## Columns -/

/-- A column that rows can be sorted by. -/
inductive SortColumn where
  | ownName
  | ownAddress
  | peerName
  | peerAddress
  | matched
  | ownUnidentified
  | peerUnidentified
  deriving DecidableEq, Repr

namespace SortColumn

/-- The columns by their names. -/
def known : List (String × SortColumn) :=
  [("self_name", .ownName), ("self_address", .ownAddress), ("peer_name", .peerName),
    ("peer_address", .peerAddress), ("matched", .matched),
    ("self_unidentified", .ownUnidentified), ("peer_unidentified", .peerUnidentified)]

/-- A column by its name. -/
def decode : Decoder SortColumn := .choice known

/-- The name of a column. -/
def text : SortColumn → String
  | .ownName => "self_name"
  | .ownAddress => "self_address"
  | .peerName => "peer_name"
  | .peerAddress => "peer_address"
  | .matched => "matched"
  | .ownUnidentified => "self_unidentified"
  | .peerUnidentified => "peer_unidentified"

/-- Whether a row may stand in front of another in rising order. Names go by code points. -/
def le (column : SortColumn) (a b : Row) : Bool :=
  match column with
  | .ownName => a.ownName ≤ b.ownName
  | .ownAddress => a.ownAddress ≤ b.ownAddress
  | .peerName => a.peerName ≤ b.peerName
  | .peerAddress => a.peerAddress ≤ b.peerAddress
  | .matched => a.matched ≤ b.matched
  | .ownUnidentified => a.ownUnidentified ≤ b.ownUnidentified
  | .peerUnidentified => a.peerUnidentified ≤ b.peerUnidentified

/-- Rows in the order of a column, rising or falling. Rows that agree in it keep their order. -/
def sort (column : SortColumn) (descending : Bool) (rows : List Row) : List Row :=
  rows.mergeSort fun a b => if descending then column.le b a else column.le a b

end SortColumn

end Tandem
