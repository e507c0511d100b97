import Tandem.Host.Basic

/-! # Handling offsets

Requests speak of offsets. These actions add the base of the image, and then navigate, color items
one after the other, or color the nodes of a flow chart. -/

namespace Tandem.Action

/-- Moves the user to an offset, and tells the absolute address. -/
def jumpToOffset (offset : Address) : Action Address := do
  let address := (← imageBase).plus offset
  jumpTo address
  return address

/-- Before the end of a range, the next item starts further on. -/
theorem lt_plus_of_lt {a stop size : Address} (h : a < stop) (hs : 0 < size) : a < a.plus size := by
  rw [UInt64.lt_iff_toNat_lt] at h hs ⊢
  have := stop.toNat_lt
  simp only [Address.plus, Address.greatest, UInt64.size, UInt64.toNat_ofNat'] at *
  omega

/-- How far a walk steps over an item. One without size counts as a byte, lest the walk stall. -/
def stride (size : UInt64) : UInt64 := if size = 0 then 1 else size

theorem stride_pos (size : UInt64) : 0 < stride size := by
  unfold stride
  split
  · decide
  · rename_i h
    rw [UInt64.lt_iff_toNat_lt]
    exact Nat.pos_of_ne_zero fun h0 => h (UInt64.toNat_inj.1 h0)

/-- Colors every item from an address up to `stop`, and counts them. -/
def colorFrom (stop : Address) (color : Color) (address : Address) (count : Nat) : Action Nat :=
  if h : address < stop then do
    setItemColor address color
    let size ← itemSize address
    colorFrom stop color (address.plus (stride size)) (count + 1)
  else return count
termination_by stop.toNat - address.toNat
decreasing_by
  have := UInt64.lt_iff_toNat_lt.1 (lt_plus_of_lt h (stride_pos size))
  have := UInt64.lt_iff_toNat_lt.1 h
  omega

/-- Colors every item of a range of offsets, and counts them. -/
def colorRange (start stop : Address) (color : Color) : Action Nat := do
  let base ← imageBase
  colorFrom (base.plus stop) color (base.plus start) 0

/-- Colors nodes of a function one after the other, and counts them. -/
def colorBlocks (function : Address) (colors : NodeColors) : List FlowBlock → Nat → Action Nat
  | [], count => return count
  | b :: rest, count => do
    setNodeColors function b.id colors
    colorBlocks function colors rest (count + 1)

/-- Colors the nodes that start at the given offsets, and counts them. All are sought in the
function of the first one. -/
def colorNodes (offsets : List Address) (colors : NodeColors) : Action Nat := do
  match offsets with
  | [] => return 0
  | first :: _ =>
    let base ← imageBase
    let anchor := base.plus first
    match ← flowchart anchor with
    | none => refuse (.functionNotFound anchor)
    | some chart =>
      let wanted := offsets.map base.plus
      colorBlocks chart.function colors (chart.blocks.filter (wanted.contains ·.start)) 0

/-- What a session tells about its image. -/
def identity : Action HostIdentity := do
  let hash ← contentHash
  let root ← rootFilename
  let input ← inputPath
  return ⟨ContentHash.key hash, root, input⟩

end Tandem.Action
