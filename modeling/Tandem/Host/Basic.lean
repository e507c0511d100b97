import Tandem.Files
import Tandem.Host.Image
import Tandem.Json.Text
import Tandem.Sync.Outbox
import Tandem.View.Row

/-! # The host

A host holds an image and what its user sees of it: the current address, the colors of items and of
nodes, the tables shown and the exports made. Work on it is an `Action`, which may stop early and
then leaves the effects that it had up to there.

The primitives of a host can be made to misbehave. A fault applies to the primitive when it is
called from outside; a primitive that consults another one internally is not affected. -/

namespace Tandem

/-- A color as a host shows it. -/
abbrev Color := UInt32

/-- The colors of a node of a flow chart. -/
structure NodeColors where
  background : Color
  frame : Color
  deriving DecidableEq, Repr

/-- A table that was shown. -/
structure Table where
  title : String
  headers : List String
  rows : List Row
  deriving DecidableEq, Repr

/-- What can be asked of a host and made to misbehave. -/
inductive Primitive where
  | imageBase
  | itemSize
  | shortName
  | jumpTo
  | setItemColor
  | flowchart
  | setNodeColors
  | rootFilename
  | contentHash
  | exportAnalysis
  | showMatchView
  deriving DecidableEq, Repr

/-- How a primitive misbehaves. -/
inductive Fault where
  | panic (text : String)
  | fail (reason : String)
  /-- The host leaves the primitive as every host has it. -/
  | plain
  deriving DecidableEq, Repr

/-- Nodes go by function, then by id. -/
def nodeOrder : Address × Nat → Address × Nat → Ordering :=
  compareLex (compareOn (·.1)) (compareOn (·.2))

instance : Std.TransCmp nodeOrder := by
  unfold nodeOrder
  infer_instance

instance : Std.LawfulEqCmp nodeOrder where
  compare_self := Std.ReflCmp.compare_self
  eq_of_compare {a b} h := by
    simp [nodeOrder, compareLex, compareOn] at h
    exact Prod.ext h.1 h.2

/-- A host with its image and all that was done to it. -/
structure Host where
  image : Image
  current : Address
  /-- The color of every item that was colored. -/
  itemColors : Std.ExtTreeMap Address Color
  /-- How often every item was colored. -/
  colorWrites : Std.ExtTreeMap Address Nat
  nodes : Std.ExtTreeMap (Address × Nat) NodeColors nodeOrder
  jumps : List Address
  tables : List Table
  exports : List String
  faults : Primitive → Option Fault

/-- What work on a host can change: the host, the files, and the outbox. -/
structure Workspace where
  host : Host
  files : Files
  outbox : Outbox

/-- Work on a host. -/
abbrev Action := EStateM Stop Workspace

namespace Host

/-- A host that has just loaded an image. -/
def load (image : Image) (faults : Primitive → Option Fault := fun _ => none) : Host where
  image := image
  current := image.base
  itemColors := ∅
  colorWrites := ∅
  nodes := ∅
  jumps := []
  tables := []
  exports := []
  faults := faults

/-- A host after a jump. -/
def jumped (host : Host) (a : Address) : Host :=
  { host with current := a, jumps := host.jumps ++ [a] }

/-- A host after an item was colored. -/
def colored (host : Host) (a : Address) (color : Color) : Host :=
  { host with
    itemColors := host.itemColors.insert a color
    colorWrites := host.colorWrites.insert a (host.colorWrites.getD a 0 + 1) }

/-- A host after a node was colored. -/
def nodeColored (host : Host) (function : Address) (id : Nat) (colors : NodeColors) : Host :=
  { host with nodes := host.nodes.insert (function, id) colors }

/-- A host after a table was shown. -/
def shown (host : Host) (table : Table) : Host :=
  { host with tables := host.tables ++ [table] }

/-- The color of an item. -/
def itemColor? (host : Host) (a : Address) : Option Color := host.itemColors[a]?

end Host

namespace Action

/-- Changes the host. -/
def modifyHost (f : Host → Host) : Action Unit :=
  modify fun w => { w with host := f w.host }

/-- The host as it is. -/
def host : Action Host := return (← get).host

/-- Stops with an error of the host. -/
def refuse {α : Type} (error : HostError) : Action α := throw (.error error)

/-- What is known up front, or the reason to stop. -/
def ofExcept {α : Type} : Except Stop α → Action α
  | .ok a => pure a
  | .error stop => throw stop

/-- Panics when a primitive is made to. -/
def guarded (p : Primitive) : Action Unit := do
  match (← host).faults p with
  | some (.panic text) => throw (.panic (some text))
  | _ => pure ()

/-- Panics or fails when a primitive is made to. -/
def refusable (p : Primitive) : Action Unit := do
  match (← host).faults p with
  | some (.panic text) => throw (.panic (some text))
  | some (.fail reason) => refuse (.failed reason)
  | _ => pure ()

/-! ## Primitives -/

/-- Where the image is loaded. -/
def imageBase : Action Address := do
  guarded .imageBase
  return (← host).image.base

/-- The size of the item at an address. -/
def itemSize (a : Address) : Action UInt64 := do
  guarded .itemSize
  return (← host).image.itemSize a

/-- The name of the function that starts at an address. -/
def shortName? (a : Address) : Action (Option String) := do
  guarded .shortName
  return (← host).image.shortName? a

/-- The address that the user looks at. -/
def current : Action Address := return (← host).current

/-- Moves the user to an absolute address. -/
def jumpTo (a : Address) : Action Unit := do
  refusable .jumpTo
  if (← host).image.contains a then modifyHost (·.jumped a) else refuse (.invalidAddress a)

/-- Colors the item at an address. -/
def setItemColor (a : Address) (color : Color) : Action Unit := do
  guarded .setItemColor
  modifyHost (·.colored a color)

/-- The flow chart of the function that covers an address. -/
def flowchart (a : Address) : Action (Option FlowChart) := do
  guarded .flowchart
  ofExcept ((← host).image.flowchart a)

/-- Colors a node of the function that starts at an address. -/
def setNodeColors (function : Address) (id : Nat) (colors : NodeColors) : Action Unit := do
  refusable .setNodeColors
  let chart ← ofExcept ((← host).image.flowchart function)
  match chart with
  | some chart =>
    if chart.function ≠ function then refuse (.functionNotFound function)
    else if id < chart.blocks.length then modifyHost (·.nodeColored function id colors)
    else refuse (.notFound ("block " ++ Text.decimal id ++ " of function " ++ function.text))
  | none => refuse (.functionNotFound function)

/-- The name of the analysed file. -/
def rootFilename : Action String := do
  guarded .rootFilename
  return (← host).image.rootFilename

/-- The path of the analysed file. -/
def inputPath : Action String := return (← host).image.inputPath

/-- The hash of the analysed file. -/
def contentHash : Action String := do
  guarded .contentHash
  return (← host).image.hash

/-- Writes an export of the image to a file. A host without exports says so. -/
def exportAnalysis (path : String) : Action Unit := do
  refusable .exportAnalysis
  if (← host).faults .exportAnalysis = some .plain then refuse (.notSupported "export")
  else
    let w ← get
    match w.files.write path w.host.image.exported.pretty.toUTF8 with
    | .ok files =>
      set { w with files := files, host := { w.host with exports := w.host.exports ++ [path] } }
    | .error error => refuse (.failed (path ++ ": " ++ error.message))

/-- Shows a table. A host without tables takes no notice of it. -/
def showTable (table : Table) : Action Unit := do
  refusable .showMatchView
  if (← host).faults .showMatchView = some .plain then pure ()
  else modifyHost (·.shown table)

/-- Puts a command into the outbox, and tells whether there is a worker for it. -/
def enqueue (command : SyncCommand) : Action Bool := do
  let w ← get
  let (accepted, outbox) := w.outbox.enqueue command
  set { w with outbox := outbox }
  return accepted

end Action

namespace NodeColors

def record : Record NodeColors where
  name := "struct NodeColors"
  blank := ⟨0, 0⟩
  fields := [
    .required "bg_color" .word32 fun c n => { n with background := c },
    .required "frame_color" .word32 fun c n => { n with frame := c }]

def toJson (n : NodeColors) : Json :=
  .object [("bg_color", .word32 n.background), ("frame_color", .word32 n.frame)]

end NodeColors

end Tandem
