import Mathlib.Algebra.BigOperators.Group.Finset.Basic
import Mathlib.Data.FinEnum
import Mathlib.Data.List.Chain
import Mathlib.Logic.ExistsUnique
import Tandem.Proofs.Host.Arithmetic

/-! # Walks over items

A range is colored item by item: a walk starts at the first address of the range and steps over one
item after the other until it has come to the end. `Image.walk` lists the addresses that are visited,
and `Image.Walked` says what such a list is like: it rises, its items lie end to end, and every address
of the range lies in exactly one of them.

What coloring does to a host is a list of strokes. `Host.painted` is the host after strokes. The last
stroke at an address gives the color there, and every stroke there counts as a write. -/

namespace Tandem

theorem Address.toNat_plus (a b : Address) :
    (a.plus b).toNat = min (a.toNat + b.toNat) Address.greatest := by
  simp only [Address.plus, Address.greatest, UInt64.size, UInt64.toNat_ofNat']
  omega

theorem Address.toNat_le_greatest (a : Address) : a.toNat ≤ Address.greatest := by
  have := a.toNat_lt
  simp only [Address.greatest, UInt64.size]
  omega

theorem Action.toNat_stride (size : UInt64) : (stride size).toNat = max 1 size.toNat := by
  by_cases zero : size = 0
  · simp [stride, zero]
  · have : size.toNat ≠ 0 := fun none => zero (UInt64.toNat_inj.1 none)
    simp only [stride, zero, if_false]
    omega

/-! ## Strokes -/

/-- A color that the item at an address is given. -/
structure Stroke where
  address : Address
  color : Color
  deriving DecidableEq, Repr

/-- The color that the last of the strokes at an address gives. -/
def Stroke.last? (strokes : List Stroke) (a : Address) : Option Color :=
  (strokes.reverse.find? (·.address = a)).map (·.color)

namespace Stroke

variable {strokes strokes' : List Stroke} {a : Address}

theorem last?_append : last? (strokes ++ strokes') a = (last? strokes' a).or (last? strokes a) := by
  simp [last?, List.find?_append, Option.map_or]

theorem last?_cons (stroke : Stroke) :
    last? (stroke :: strokes) a =
      (last? strokes a).or (if stroke.address = a then some stroke.color else none) := by
  rw [← List.singleton_append, last?_append]
  by_cases here : stroke.address = a <;> simp [last?, here]

theorem last?_of_not_mem (absent : a ∉ strokes.map address) : last? strokes a = none := by
  simp only [last?, Option.map_eq_none_iff, List.find?_eq_none, List.mem_reverse, decide_eq_true_eq]
  intro stroke member here
  exact absent (here ▸ List.mem_map_of_mem member)

/-- Where all strokes have one color, the last one has it. -/
theorem last?_of_mem {color : Color} (same : ∀ stroke ∈ strokes, stroke.color = color)
    (member : a ∈ strokes.map address) : last? strokes a = some color := by
  obtain ⟨stroke, there, rfl⟩ := List.mem_map.1 member
  cases found : strokes.reverse.find? (·.address = stroke.address) with
  | none => simpa using List.find?_eq_none.1 found stroke (List.mem_reverse.2 there)
  | some last =>
    have : last ∈ strokes := List.mem_reverse.1 (List.mem_of_find?_eq_some found)
    simp [last?, found, same last this]

/-- Every stroke is at some address. -/
theorem sum_count (strokes : List Stroke) :
    ∑ a : Address, (strokes.map address).count a = strokes.length := by
  have all := Multiset.sum_count_eq_card (s := Finset.univ) (m := (strokes.map address : Multiset Address))
    fun a _ => Finset.mem_univ a
  simpa only [Multiset.coe_count, Multiset.coe_card, List.length_map] using all

end Stroke

namespace Host

variable {host : Host}

/-- A host after strokes, one after the other. -/
def painted (host : Host) (strokes : List Stroke) : Host :=
  strokes.foldl (fun host stroke => host.colored stroke.address stroke.color) host

@[simp] theorem painted_nil (host : Host) : host.painted [] = host := rfl

theorem painted_cons (host : Host) (stroke : Stroke) (strokes : List Stroke) :
    host.painted (stroke :: strokes) = (host.colored stroke.address stroke.color).painted strokes := rfl

theorem painted_append (host : Host) (strokes strokes' : List Stroke) :
    host.painted (strokes ++ strokes') = (host.painted strokes).painted strokes' :=
  List.foldl_append

/-- Strokes change nothing but the colors of items. -/
theorem painted_eq (host : Host) (strokes : List Stroke) :
    host.painted strokes = { host with
      itemColors := (host.painted strokes).itemColors
      colorWrites := (host.painted strokes).colorWrites } := by
  induction strokes generalizing host with
  | nil => rfl
  | cons stroke strokes ih => exact ih (host.colored stroke.address stroke.color)

@[simp] theorem painted_image (host : Host) (strokes : List Stroke) :
    (host.painted strokes).image = host.image := by
  rw [painted_eq]

theorem itemColor?_colored (host : Host) (b a : Address) (color : Color) :
    (host.colored b color).itemColor? a = if b = a then some color else host.itemColor? a := by
  rw [itemColor?, colored, Std.ExtTreeMap.getElem?_insert]
  by_cases here : b = a <;> simp [here, itemColor?]

/-- An item has the color of the last stroke at its address, and without one the color it had. -/
theorem itemColor?_painted (host : Host) (strokes : List Stroke) (a : Address) :
    (host.painted strokes).itemColor? a = (Stroke.last? strokes a).or (host.itemColor? a) := by
  induction strokes generalizing host with
  | nil => simp [Stroke.last?]
  | cons stroke strokes ih =>
    rw [painted_cons, ih, itemColor?_colored, Stroke.last?_cons, Option.or_assoc]
    by_cases here : stroke.address = a <;> simp [here]

/-- Every stroke at an address counts. -/
theorem writesAt_painted (host : Host) (strokes : List Stroke) (a : Address) :
    (host.painted strokes).writesAt a = host.writesAt a + (strokes.map Stroke.address).count a := by
  induction strokes generalizing host with
  | nil => simp
  | cons stroke strokes ih =>
    rw [painted_cons, ih, writesAt_colored, List.map_cons, List.count_cons]
    simp only [beq_iff_eq]
    omega

theorem writes_painted (host : Host) (strokes : List Stroke) :
    (host.painted strokes).writes = host.writes + strokes.length := by
  induction strokes generalizing host with
  | nil => rfl
  | cons stroke strokes ih =>
    rw [painted_cons, ih, writes_colored, List.length_cons]
    omega

/-- What is known of an item without a stroke at its address stays. -/
theorem getElem?_painted_of_not_mem (host : Host) {strokes : List Stroke} {a : Address}
    (absent : a ∉ strokes.map Stroke.address) :
    (host.painted strokes).itemColors[a]? = host.itemColors[a]? ∧
      (host.painted strokes).colorWrites[a]? = host.colorWrites[a]? := by
  induction strokes generalizing host with
  | nil => exact ⟨rfl, rfl⟩
  | cons stroke strokes ih =>
    rw [List.map_cons, List.mem_cons, not_or] at absent
    obtain ⟨colors, writes⟩ := ih (host.colored stroke.address stroke.color) absent.2
    rw [painted_cons, colors, writes, colored]
    simp [Std.ExtTreeMap.getElem?_insert, Ne.symm absent.1]

/-- The same items, with the same colors and counts. -/
structure SameItems (host host' : Host) : Prop where
  colors : host'.itemColors = host.itemColors
  writes : host'.colorWrites = host.colorWrites

namespace SameItems

variable {host' host'' : Host}

@[refl] theorem refl (host : Host) : host.SameItems host := ⟨rfl, rfl⟩

theorem trans (first : host.SameItems host') (second : host'.SameItems host'') : host.SameItems host'' :=
  ⟨second.colors.trans first.colors, second.writes.trans first.writes⟩

/-- What strokes do to items depends on nothing else. -/
theorem painted (same : host.SameItems host') (strokes : List Stroke) :
    (host.painted strokes).SameItems (host'.painted strokes) := by
  induction strokes generalizing host host' with
  | nil => exact same
  | cons stroke strokes ih =>
    refine ih ⟨?_, ?_⟩
    · simp only [colored, same.colors]
    · simp only [colored, same.writes]

end SameItems

end Host

/-- A workspace after its host was painted. -/
def Workspace.painted (w : Workspace) (strokes : List Stroke) : Workspace :=
  { w with host := w.host.painted strokes }

theorem Workspace.painted_append (w : Workspace) (strokes strokes' : List Stroke) :
    w.painted (strokes ++ strokes') = (w.painted strokes).painted strokes' := by
  simp [painted, Host.painted_append]

theorem Workspace.repainted_painted (w : Workspace) (strokes : List Stroke) :
    w.Repainted (w.painted strokes) :=
  ⟨_, _, congrArg (fun host => { w with host := host }) (w.host.painted_eq strokes)⟩

/-! ## Walks -/

namespace Image

variable {image : Image} {stop a b : Address}

/-- How many bytes an item takes on a walk. One without size takes a byte. -/
def extent (image : Image) (a : Address) : Nat := max 1 (image.itemSize a).toNat

/-- The address behind an item. -/
def next (image : Image) (a : Address) : Address := a.plus (Action.stride (image.itemSize a))

/-- The addresses that a walk from an absolute address visits before it comes to `stop`. -/
def walkFrom (image : Image) (stop a : Address) : List Address :=
  if _before : a < stop then a :: image.walkFrom stop (image.next a) else []
termination_by stop.toNat - a.toNat
decreasing_by
  have := UInt64.lt_iff_toNat_lt.1 (Action.lt_plus_of_lt _before (Action.stride_pos (image.itemSize a)))
  have := UInt64.lt_iff_toNat_lt.1 _before
  simp only [next]
  omega

/-- The addresses that a walk over a range of offsets visits. -/
def walk (image : Image) (start stop : Address) : List Address :=
  image.walkFrom (image.base.plus stop) (image.base.plus start)

theorem toNat_next (image : Image) (a : Address) :
    (image.next a).toNat = min (a.toNat + image.extent a) Address.greatest := by
  rw [next, Address.toNat_plus, Action.toNat_stride, extent]

theorem extent_pos (image : Image) (a : Address) : 0 < image.extent a := by
  simp only [extent]
  omega

theorem walkFrom_of_lt (before : a < stop) :
    image.walkFrom stop a = a :: image.walkFrom stop (image.next a) := by
  rw [walkFrom, dif_pos before]

theorem walkFrom_of_not_lt (done : ¬a < stop) : image.walkFrom stop a = [] := by
  rw [walkFrom, dif_neg done]

/-- What is visited from an address up to, and without, another one, both given as numbers. -/
structure Walked (image : Image) (first stop : Nat) (visited : List Address) : Prop where
  begins : first < stop → visited.head?.map UInt64.toNat = some first
  rises : visited.Pairwise (· < ·)
  steps : visited.IsChain fun a b => b.toNat = a.toNat + image.extent a
  inside : ∀ a ∈ visited, first ≤ a.toNat ∧ a.toNat < stop
  covers : ∀ x : Nat, first ≤ x → x < stop →
    ∃! a, a ∈ visited ∧ a.toNat ≤ x ∧ x < a.toNat + image.extent a
  empty : stop ≤ first → visited = []

theorem mem_walkFrom (member : b ∈ image.walkFrom stop a) : a.toNat ≤ b.toNat ∧ b.toNat < stop.toNat := by
  induction a using walkFrom.induct image stop with
  | case1 a before ih =>
    rw [walkFrom_of_lt before] at member
    rw [UInt64.lt_iff_toNat_lt] at before
    rcases List.mem_cons.1 member with rfl | later
    · exact ⟨Nat.le_refl _, before⟩
    · have := ih later
      have := image.toNat_next a
      have := stop.toNat_le_greatest
      omega
  | case2 a done => simp [walkFrom_of_not_lt done] at member

/-- What is visited after an item lies behind it. -/
theorem le_of_mem_next (member : b ∈ image.walkFrom stop (image.next a)) :
    a.toNat + image.extent a ≤ b.toNat := by
  have bounds := mem_walkFrom member
  have := image.toNat_next a
  have := stop.toNat_le_greatest
  omega

theorem rises_walkFrom (image : Image) (stop a : Address) :
    (image.walkFrom stop a).Pairwise (· < ·) := by
  induction a using walkFrom.induct image stop with
  | case1 a before ih =>
    rw [walkFrom_of_lt before, List.pairwise_cons]
    refine ⟨fun b later => ?_, ih⟩
    have := le_of_mem_next later
    have := image.extent_pos a
    rw [UInt64.lt_iff_toNat_lt]
    omega
  | case2 a done => simp [walkFrom_of_not_lt done]

theorem steps_walkFrom (image : Image) (stop a : Address) :
    (image.walkFrom stop a).IsChain fun a b => b.toNat = a.toNat + image.extent a := by
  induction a using walkFrom.induct image stop with
  | case1 a before ih =>
    rw [walkFrom_of_lt before]
    by_cases again : image.next a < stop
    · rw [walkFrom_of_lt again] at ih ⊢
      refine List.isChain_cons_cons.2 ⟨?_, ih⟩
      -- there is something behind the next item, so its address was not cut off
      rw [UInt64.lt_iff_toNat_lt] at again
      have := image.toNat_next a
      have := stop.toNat_le_greatest
      omega
    · rw [walkFrom_of_not_lt again]
      exact List.isChain_singleton a
  | case2 a done => simp [walkFrom_of_not_lt done]

theorem covers_walkFrom (image : Image) (stop a : Address) {x : Nat} (low : a.toNat ≤ x)
    (high : x < stop.toNat) :
    ∃! b, b ∈ image.walkFrom stop a ∧ b.toNat ≤ x ∧ x < b.toNat + image.extent b := by
  induction a using walkFrom.induct image stop with
  | case1 a before ih =>
    rw [walkFrom_of_lt before]
    by_cases here : x < a.toNat + image.extent a
    · refine ⟨a, ⟨List.mem_cons_self, low, here⟩, ?_⟩
      rintro b ⟨member, below, -⟩
      rcases List.mem_cons.1 member with rfl | later
      · rfl
      · have := le_of_mem_next later
        omega
    · -- then the next item starts at or below `x`, and the rest of the walk has it
      have next : (image.next a).toNat ≤ x := by
        rw [toNat_next]
        omega
      obtain ⟨b, ⟨later, holds⟩, only⟩ := ih next
      refine ⟨b, ⟨List.mem_cons_of_mem _ later, holds⟩, ?_⟩
      rintro c ⟨member, below, above⟩
      rcases List.mem_cons.1 member with rfl | later'
      · exact absurd above here
      · exact only c ⟨later', below, above⟩
  | case2 a done =>
    rw [UInt64.lt_iff_toNat_lt] at done
    omega

theorem walked_walkFrom (image : Image) (stop a : Address) :
    image.Walked a.toNat stop.toNat (image.walkFrom stop a) where
  begins before := by simp [walkFrom_of_lt (UInt64.lt_iff_toNat_lt.2 before)]
  rises := image.rises_walkFrom stop a
  steps := image.steps_walkFrom stop a
  inside _ := mem_walkFrom
  covers _ := image.covers_walkFrom stop a
  empty done := walkFrom_of_not_lt fun before => by
    rw [UInt64.lt_iff_toNat_lt] at before
    omega

theorem nodup_walk (image : Image) (start stop : Address) : (image.walk start stop).Nodup :=
  (image.rises_walkFrom _ _).imp fun before same => by
    rw [same] at before
    exact absurd before (UInt64.lt_irrefl _)

/-- The strokes of a walk over a block. -/
def strokes (image : Image) (color : Color) (block : Block) : List Stroke :=
  (image.walk block.start block.stop).map fun a => ⟨a, color⟩

@[simp] theorem address_strokes (image : Image) (color : Color) (block : Block) :
    (image.strokes color block).map Stroke.address = image.walk block.start block.stop := by
  simp [strokes, Function.comp_def]

theorem color_of_mem_strokes {color : Color} {block : Block} {stroke : Stroke}
    (member : stroke ∈ image.strokes color block) : stroke.color = color := by
  obtain ⟨_, -, rfl⟩ := List.mem_map.1 member
  rfl

end Image

/-! ## Coloring a range -/

/-- The primitives that coloring asks of a host do not panic. -/
structure Host.Paintable (host : Host) : Prop where
  imageBase : host.Returns .imageBase
  itemSize : host.Returns .itemSize
  setItemColor : host.Returns .setItemColor

theorem Host.Faultless.paintable {host : Host} (sound : host.Faultless) : host.Paintable :=
  ⟨sound.returns _, sound.returns _, sound.returns _⟩

theorem Host.Paintable.painted {host : Host} (paintable : host.Paintable) (strokes : List Stroke) :
    (host.painted strokes).Paintable := by
  rw [painted_eq]
  exact ⟨paintable.imageBase, paintable.itemSize, paintable.setItemColor⟩

namespace Action

variable {w : Workspace} (paintable : w.host.Paintable)
include paintable

theorem colorFrom_paintable (stop : Address) (color : Color) (a : Address) (count : Nat) :
    colorFrom stop color a count w =
      .ok (count + (w.host.image.walkFrom stop a).length)
        (w.painted ((w.host.image.walkFrom stop a).map fun a => ⟨a, color⟩)) := by
  -- along the walk; the host changes with every stroke, but its image does not
  induction a, count using colorFrom.induct stop generalizing w with
  | case1 a count before ih =>
    have colored : setItemColor a color w = .ok () (w.painted [⟨a, color⟩]) :=
      setItemColor_returns paintable.setItemColor a color
    have paintable' : (w.painted [⟨a, color⟩]).host.Paintable := paintable.painted _
    have sized := itemSize_returns paintable'.itemSize a
    rw [colorFrom, dif_pos before, bind_of_ok colored, bind_of_ok sized, ih _ paintable', Image.walkFrom_of_lt before, List.length_cons, List.map_cons,
      Nat.add_right_comm, Nat.add_assoc]
    rfl
  | case2 a count done =>
    rw [colorFrom, dif_neg done, Image.walkFrom_of_not_lt done]
    rfl

/-- Coloring a range walks it and counts what it has visited. -/
theorem colorRange_paintable (start stop : Address) (color : Color) :
    colorRange start stop color w =
      .ok (w.host.image.walk start stop).length
        (w.painted (w.host.image.strokes color ⟨start, stop⟩)) := by
  rw [colorRange, bind_of_ok (imageBase_returns paintable.imageBase), colorFrom_paintable paintable,
    Nat.zero_add]
  rfl

end Action

/-- Coloring a range visits its items one after the other, from its first address on and each behind
the one before it. The items that it visits are colored once, and nothing else is touched. -/
theorem items_are_colored_once {w : Workspace} (paintable : w.host.Paintable) (start stop : Address)
    (color : Color) :
    ∃ w', Action.colorRange start stop color w = .ok (w.host.image.walk start stop).length w' ∧
      w' = w.painted ((w.host.image.walk start stop).map fun a => ⟨a, color⟩) ∧
      w.host.image.Walked (min (w.host.image.base.toNat + start.toNat) Address.greatest)
        (min (w.host.image.base.toNat + stop.toNat) Address.greatest)
        (w.host.image.walk start stop) ∧
      w.Repainted w' ∧
      ∀ a, if a ∈ w.host.image.walk start stop then
          w'.host.itemColor? a = some color ∧ w'.host.writesAt a = w.host.writesAt a + 1
        else w'.host.itemColors[a]? = w.host.itemColors[a]? ∧
          w'.host.colorWrites[a]? = w.host.colorWrites[a]? := by
  refine ⟨_, Action.colorRange_paintable paintable start stop color, rfl, ?_,
    w.repainted_painted _, ?_⟩
  · rw [← Address.toNat_plus, ← Address.toNat_plus]
    exact w.host.image.walked_walkFrom _ _
  intro a
  split
  · rename_i visited
    have colors := w.host.itemColor?_painted (w.host.image.strokes color ⟨start, stop⟩) a
    have writes := w.host.writesAt_painted (w.host.image.strokes color ⟨start, stop⟩) a
    rw [Image.address_strokes] at writes
    rw [Stroke.last?_of_mem (fun _ => Image.color_of_mem_strokes) (by simpa using visited)] at colors
    rw [(w.host.image.nodup_walk start stop).count, if_pos visited] at writes
    exact ⟨colors, writes⟩
  · rename_i absent
    have spared : a ∉ (w.host.image.strokes color ⟨start, stop⟩).map Stroke.address := by
      rwa [Image.address_strokes]
    exact w.host.getElem?_painted_of_not_mem spared

namespace Image.Sample

/-- An image before the greatest address, with an item without size and one that reaches beyond it. -/
def verge : Image :=
  ⟨"0a1b", "left", "", 0xfffffffffffffff0, 0x10, 4,
    [⟨0xfffffffffffffff0, 0⟩, ⟨0xfffffffffffffff5, 0xffffffffffffffff⟩], []⟩

theorem walk_verge :
    verge.walk 0 0xff = [0xfffffffffffffff0, 0xfffffffffffffff1, 0xfffffffffffffff5] := by
  cbv

end Image.Sample

open Image.Sample in
/-- The range ends at the greatest address, where the last item is cut off. -/
theorem items_at_the_verge_are_colored_once :
    (Host.load verge).Paintable ∧
      ∃ w', Action.colorRange 0 0xff 7 ⟨.load verge, .empty, {}⟩ = .ok 3 w' ∧
        verge.Walked 0xfffffffffffffff0 0xffffffffffffffff
          [0xfffffffffffffff0, 0xfffffffffffffff1, 0xfffffffffffffff5] ∧
        w'.host.itemColor? 0xfffffffffffffff1 = some 7 ∧ w'.host.writesAt 0xfffffffffffffff1 = 1 ∧
        w'.host.itemColor? 0xfffffffffffffff2 = none := by
  have paintable : (Host.load verge).Paintable := Host.Faultless.paintable fun _ => rfl
  obtain ⟨w', done, -, walked, -, items⟩ :=
    items_are_colored_once (w := ⟨.load verge, .empty, {}⟩) paintable 0 0xff 7
  have visited : (Host.load verge).image.walk 0 0xff = _ := walk_verge
  rw [visited] at done walked items
  have on := items 0xfffffffffffffff1
  have off := items 0xfffffffffffffff2
  rw [if_pos (by decide)] at on
  rw [if_neg (by decide)] at off
  refine ⟨paintable, w', done, walked, on.1, on.2, ?_⟩
  rw [Host.itemColor?, off.1]
  rfl

end Tandem
