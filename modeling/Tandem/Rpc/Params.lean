import Tandem.View.Row

/-! # Parameters

The parameters of the methods, by name or by position, and the commands of a batch. -/

namespace Tandem.Rpc

/-- Where to navigate, as an offset. -/
structure JumptoParams where
  address : Address
  deriving DecidableEq, Repr

/-- The absolute address of an item, and its color. -/
structure SetItemColorParams where
  address : Address
  color : UInt32
  deriving DecidableEq, Repr

/-- The path of a file. -/
structure FilenameParams where
  filename : String
  deriving DecidableEq, Repr

/-- The commands of a batch, each to be decoded by itself. -/
structure RunCommandsParams where
  commands : List Json

/-- One task, or all of them. -/
structure TaskStatusParams where
  id : Option String
  deriving DecidableEq, Repr

/-- A row of a view, or of the view opened last. -/
structure ActivateRowParams where
  view : Option Nat
  row : Nat
  deriving DecidableEq, Repr

/-- A view, or the view opened last, and how to sort it first. -/
structure ViewRowsParams where
  view : Option Nat
  sort : Option SortColumn
  descending : Bool
  deriving DecidableEq, Repr

namespace JumptoParams

def record : Record JumptoParams where
  name := "struct JumptoParams"
  blank := ⟨0⟩
  fields := [.required "address" Address.decode fun a _ => ⟨a⟩]

end JumptoParams

namespace SetItemColorParams

def record : Record SetItemColorParams where
  name := "struct SetItemColorParams"
  blank := ⟨0, 0⟩
  fields := [
    .required "address" Address.decode fun a p => { p with address := a },
    .required "color" .word32 fun c p => { p with color := c }]

end SetItemColorParams

namespace FilenameParams

def record : Record FilenameParams where
  name := "struct FilenameParams"
  blank := ⟨""⟩
  fields := [.required "filename" .string (fun s _ => ⟨s⟩) ["path"]]

end FilenameParams

namespace RunCommandsParams

def record : Record RunCommandsParams where
  name := "struct RunCommandsParams"
  blank := ⟨[]⟩
  fields := [.required "commands" (.list .any) fun vs _ => ⟨vs⟩]

end RunCommandsParams

namespace TaskStatusParams

def record : Record TaskStatusParams where
  name := "struct TaskStatusParams"
  blank := ⟨none⟩
  fields := [.defaulted "id" (.optional .string) fun s _ => ⟨s⟩]

end TaskStatusParams

namespace ActivateRowParams

def record : Record ActivateRowParams where
  name := "struct ActivateRowParams"
  blank := ⟨none, 0⟩
  fields := [
    .defaulted "view" (.optional .count) fun n p => { p with view := n.map (·.toNat) },
    .required "row" .count fun n p => { p with row := n.toNat }]

end ActivateRowParams

namespace ViewRowsParams

def record : Record ViewRowsParams where
  name := "struct ViewRowsParams"
  blank := ⟨none, none, false⟩
  fields := [
    .defaulted "view" (.optional .count) fun n p => { p with view := n.map (·.toNat) },
    .defaulted "sort" (.optional SortColumn.decode) fun c p => { p with sort := c },
    .defaulted "descending" .bool fun b p => { p with descending := b }]

end ViewRowsParams

/-! ## Batches -/

/-- A command of a batch. All addresses are offsets. -/
inductive BatchCommand where
  | jumpto (address : Address)
  | colorLines (start stop : Address) (color : UInt32)
  | colorNode (addresses : List Address) (background frame : UInt32)
  deriving DecidableEq, Repr

namespace BatchCommand

/-- The frame color of nodes for which none is given. -/
def defaultFrame : UInt32 := 0

def jumptoRecord : Record BatchCommand where
  name := "struct variant BatchCommand::Jumpto"
  blank := .jumpto 0
  fields := [.required "address" Address.decode fun a _ => .jumpto a]

def colorLinesRecord : Record BatchCommand where
  name := "struct variant BatchCommand::ColorLines"
  blank := .colorLines 0 0 0
  fields := [
    .required "start" Address.decode fun a c =>
      match c with
      | .colorLines _ stop color => .colorLines a stop color
      | other => other,
    .required "end" Address.decode fun a c =>
      match c with
      | .colorLines start _ color => .colorLines start a color
      | other => other,
    .required "color" .word32 fun color c =>
      match c with
      | .colorLines start stop _ => .colorLines start stop color
      | other => other]

def colorNodeRecord : Record BatchCommand where
  name := "struct variant BatchCommand::ColorNode"
  blank := .colorNode [] 0 defaultFrame
  fields := [
    .required "addresses" (.list Address.decode) fun as c =>
      match c with
      | .colorNode _ background frame => .colorNode as background frame
      | other => other,
    .required "bg_color" .word32 fun color c =>
      match c with
      | .colorNode as _ frame => .colorNode as color frame
      | other => other,
    .defaulted "frame_color" .word32 fun color c =>
      match c with
      | .colorNode as background _ => .colorNode as background color
      | other => other]

/-- A command told apart by the field `name`. -/
def decode : Decoder BatchCommand :=
  .tagged "BatchCommand" "name"
    [("jumpto", jumptoRecord), ("color_lines", colorLinesRecord), ("color_node", colorNodeRecord)]

def toJson : BatchCommand → Json
  | .jumpto a => .object [("name", .string "jumpto"), ("address", .word a)]
  | .colorLines start stop color =>
    .object [("name", .string "color_lines"), ("start", .word start), ("end", .word stop),
      ("color", .word32 color)]
  | .colorNode as background frame =>
    .object [("name", .string "color_node"), ("addresses", .array (as.map .word)),
      ("bg_color", .word32 background), ("frame_color", .word32 frame)]

end BatchCommand

end Tandem.Rpc
