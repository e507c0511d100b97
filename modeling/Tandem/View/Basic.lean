import Tandem.Host.Coloring
import Tandem.View.Row

/-! # Match views

A match view is a match document seen from one side, with a row for every match. It colors the own
side's blocks, and activating a row navigates here and asks the peer to navigate there. -/

namespace Tandem

/-- The colors of matched and of unmatched blocks. -/
structure Palette where
  matched : Color
  unmatched : Color
  deriving DecidableEq, Repr

/-- The colors that a view has unless it is given others. -/
def Palette.standard : Palette := ⟨0xCCFFFF, 0xCC00CC⟩

/-- A match document seen from one side. -/
structure MatchView where
  document : MatchDocument
  role : Role
  /-- The hash of the session on the other side, if it is known. -/
  peer : Option String
  palette : Palette
  /-- The rows in the order in which they are shown. -/
  rows : List Row

namespace MatchView

/-- The name of a function that has none. -/
def fallbackName (a : Address) : String := "sub_" ++ Text.hex a.toNat

/-- The row of a match, given the name that the host has for the own function. -/
def rowOf (role : Role) (ownAddress : Address) (hostName : Option String) (index : Nat)
    (m : FunctionMatch) : Row where
  index := index
  ownName := (hostName <|> m.name.on role).getD (fallbackName ownAddress)
  ownAddress := ownAddress
  peerName := (m.name.on role.peer).getD (fallbackName (m.address.on role.peer))
  peerAddress := m.address.on role.peer
  matched := m.matchedCount
  ownUnidentified := m.unidentifiedCount role
  peerUnidentified := m.unidentifiedCount role.peer

/-- The rows of matches from a given position on. The host is asked for a name for each. -/
def rowsFrom (role : Role) (base : Address) : Nat → List FunctionMatch → Action (List Row)
  | _, [] => return []
  | index, m :: rest => do
    let ownAddress := base.plus (m.address.on role)
    let hostName ← Action.shortName? ownAddress
    let rows ← rowsFrom role base (index + 1) rest
    return rowOf role ownAddress hostName index m :: rows

/-- A document seen from one side. -/
def build (document : MatchDocument) (role : Role) (peer : Option String)
    (palette : Palette := .standard) : Action MatchView := do
  let base ← Action.imageBase
  let rows ← rowsFrom role base 0 document.functions
  return ⟨document, role, peer, palette, rows⟩

/-- The view with its rows in the order of a column. -/
def sort (view : MatchView) (column : SortColumn) (descending : Bool) : MatchView :=
  { view with rows := column.sort descending view.rows }

/-- Colors blocks one after the other, and counts the items on top of those before. -/
def colorBlocks (color : Color) : List Block → Nat → Action Nat
  | [], count => return count
  | b :: rest, count => do
    let n ← Action.colorRange b.start b.stop color
    colorBlocks color rest (count + n)

/-- Colors the own side of a match: the matched blocks, then the unidentified ones. -/
def colorMatch (view : MatchView) (m : FunctionMatch) : Action Nat := do
  let count ← colorBlocks view.palette.matched (m.matchedBlocks view.role) 0
  colorBlocks view.palette.unmatched (m.unidentified.on view.role) count

/-- Colors the own side of matches one after the other. -/
def colorMatches (view : MatchView) : List FunctionMatch → Nat → Action Nat
  | [], count => return count
  | m :: rest, count => do
    let n ← view.colorMatch m
    colorMatches view rest (count + n)

/-- Colors the own side of every match, and counts the items. -/
def applyColors (view : MatchView) : Action Nat := view.colorMatches view.document.functions 0

/-- Shows the rows to the user of the host. -/
def present (view : MatchView) : Action Unit :=
  Action.showTable ⟨Row.title, Row.headers, view.rows⟩

/-- A jump that may fail: an error of the host is passed over, a panic is not. -/
def tryJump (a : Address) : Action Unit :=
  tryCatch (Action.jumpTo a) fun
    | .error _ => pure ()
    | .panic text => throw (.panic text)

/-- Asks the peer to navigate, when it is known and the outbox has a worker. -/
def askPeer (view : MatchView) (row : Row) : Action (Option SyncCommand) :=
  match view.peer with
  | none => return none
  | some peer => do
    let command := .jumpto peer row.peerAddress
    let accepted ← Action.enqueue command
    return if accepted then some command else none

/-- Activates the row at a position: navigates here, asks the peer to navigate there, and colors
the match again. The answer is the command that went into the outbox. -/
def activate (view : MatchView) (position : Nat) : Action (Option SyncCommand) := do
  match view.rows[position]? with
  | none => Action.refuse (.notFound ("row " ++ Text.decimal position))
  | some row =>
    tryJump row.ownAddress
    let command ← view.askPeer row
    match view.document.functions[row.index]? with
    | some m => discard (view.colorMatch m)
    | none => pure ()
    return command

end MatchView

/-! ## Open views -/

/-- The open views. The id of a view is its position, and views are never closed. -/
structure Views where
  all : List MatchView := []

namespace Views

/-- Opens a view, and tells its id. -/
def insert (views : Views) (view : MatchView) : Nat × Views :=
  (views.all.length, ⟨views.all ++ [view]⟩)

/-- The view with an id. -/
def get? (views : Views) (id : Nat) : Option MatchView := views.all[id]?

/-- The view opened last, with its id. -/
def latest? (views : Views) : Option (Nat × MatchView) :=
  views.all.getLast?.map fun view => (views.all.length - 1, view)

/-- Sorts the rows of a view, and tells whether there is one with that id. -/
def sort (views : Views) (id : Nat) (column : SortColumn) (descending : Bool) : Bool × Views :=
  match views.get? id with
  | some view => (true, ⟨views.all.set id (view.sort column descending)⟩)
  | none => (false, views)

end Views

end Tandem
