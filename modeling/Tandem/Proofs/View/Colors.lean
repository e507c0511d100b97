import Mathlib.Data.List.Permutation
import Tandem.Proofs.Document.Validity
import Tandem.Proofs.Host.Walks
import Tandem.Proofs.View.Activation

/-! # The colors of a document

A view colors the matches of its document one after the other, and of each match the matched blocks
before the unidentified ones. Blocks may share items, within a match or across matches, since an item
may reach beyond the end of a block. So the color that an item has in the end is decided by the last
match that visits it, where an unidentified block outdoes a matched one. -/

namespace Tandem

/-- The primitives that activating a row asks of a host do not panic. A jump may be rejected. -/
structure Host.Activable (host : Host) : Prop extends host.Paintable where
  jumpTo : host.Returns .jumpTo

theorem Host.Faultless.activable {host : Host} (sound : host.Faultless) : host.Activable :=
  ⟨sound.paintable, sound.returns _⟩

/-- Whether the walk over a block visits an address. -/
def Image.visits (image : Image) (a : Address) (b : Block) : Bool :=
  (image.walk b.start b.stop).contains a

/-- What a match has on a side: the matched blocks there and the unidentified ones. -/
def FunctionMatch.side (m : FunctionMatch) (role : Role) : List Block × List Block :=
  (m.matchedBlocks role, m.unidentified.on role)

/-! ## Blocks -/

namespace Image

variable (image : Image) (a : Address)

theorem last?_strokes (color : Color) (b : Block) :
    Stroke.last? (image.strokes color b) a = if image.visits a b then some color else none := by
  by_cases visited : a ∈ image.walk b.start b.stop
  · rw [Stroke.last?_of_mem (fun _ => color_of_mem_strokes) (by simpa using visited)]
    simp [visits, visited]
  · rw [Stroke.last?_of_not_mem (by simpa using visited)]
    simp [visits, visited]

theorem last?_flatMap_strokes (color : Color) (blocks : List Block) :
    Stroke.last? (blocks.flatMap (image.strokes color)) a =
      if blocks.any (image.visits a) then some color else none := by
  induction blocks with
  | nil => rfl
  | cons b blocks ih =>
    rw [List.flatMap_cons, Stroke.last?_append, ih, last?_strokes, List.any_cons]
    by_cases later : blocks.any (image.visits a) = true <;> simp [later]

/-- A walk comes to an address at most once. -/
theorem count_flatMap_strokes (color : Color) (blocks : List Block) :
    ((blocks.flatMap (image.strokes color)).map Stroke.address).count a =
      blocks.countP (image.visits a) := by
  induction blocks with
  | nil => rfl
  | cons b blocks ih =>
    rw [List.flatMap_cons, List.map_append, List.count_append, ih, address_strokes,
      (image.nodup_walk _ _).count, List.countP_cons]
    simp only [visits, List.contains_iff_mem]
    omega

end Image

/-- The strokes over one side of a match. -/
def Palette.strokes (palette : Palette) (image : Image) (side : List Block × List Block) :
    List Stroke :=
  side.1.flatMap (image.strokes palette.matched) ++ side.2.flatMap (image.strokes palette.unmatched)

/-! ## Matches -/

namespace MatchView

variable {w : Workspace} (view : MatchView) (image : Image) (a : Address)

/-- The strokes over the own side of a match. -/
def strokes (m : FunctionMatch) : List Stroke := view.palette.strokes image (m.side view.role)

/-- Whether a block of the own side of a match is walked through an address. -/
def visits (m : FunctionMatch) : Bool := (m.blocks view.role).any (image.visits a)

/-- The color that a match gives to the items that it visits. -/
def colorOf (m : FunctionMatch) : Color :=
  if (m.unidentified.on view.role).any (image.visits a) then view.palette.unmatched
  else view.palette.matched

theorem last?_strokes (m : FunctionMatch) :
    Stroke.last? (view.strokes image m) a =
      if view.visits image a m then some (view.colorOf image a m) else none := by
  rw [strokes, Palette.strokes, Stroke.last?_append, Image.last?_flatMap_strokes,
    Image.last?_flatMap_strokes, visits, FunctionMatch.blocks, List.any_append, colorOf,
    FunctionMatch.side]
  by_cases unidentified : (m.unidentified.on view.role).any (image.visits a) = true <;>
    simp [unidentified]

/-- The last match that visits an address decides. -/
theorem last?_flatMap_strokes (ms : List FunctionMatch) :
    Stroke.last? (ms.flatMap (view.strokes image)) a =
      (ms.reverse.find? (view.visits image a)).map (view.colorOf image a) := by
  induction ms with
  | nil => rfl
  | cons m ms ih =>
    rw [List.flatMap_cons, Stroke.last?_append, ih, last?_strokes, List.reverse_cons, List.find?_append,
      Option.map_or]
    by_cases visited : view.visits image a m = true <;> simp [visited]

theorem count_strokes (m : FunctionMatch) :
    ((view.strokes image m).map Stroke.address).count a =
      (m.blocks view.role).countP (image.visits a) := by
  rw [strokes, Palette.strokes, List.map_append, List.count_append, Image.count_flatMap_strokes,
    Image.count_flatMap_strokes, FunctionMatch.blocks, List.countP_append, FunctionMatch.side]

theorem count_flatMap_strokes (ms : List FunctionMatch) :
    ((ms.flatMap (view.strokes image)).map Stroke.address).count a =
      (ms.flatMap (·.blocks view.role)).countP (image.visits a) := by
  induction ms with
  | nil => rfl
  | cons m ms ih =>
    rw [List.flatMap_cons, List.map_append, List.count_append, ih, count_strokes, List.flatMap_cons,
      List.countP_append]

/-! ## Coloring -/

variable {image a} (paintable : w.host.Paintable)
include paintable

theorem colorBlocks_paintable (color : Color) (blocks : List Block) (count : Nat) :
    colorBlocks color blocks count w =
      .ok (count + (blocks.flatMap (w.host.image.strokes color)).length)
        (w.painted (blocks.flatMap (w.host.image.strokes color))) := by
  induction blocks generalizing w count with
  | nil => rfl
  | cons b blocks ih =>
    have paintable' : (w.painted (w.host.image.strokes color b)).host.Paintable := paintable.painted _
    rw [colorBlocks, bind_of_ok (Action.colorRange_paintable paintable b.start b.stop color),
      ih paintable', List.flatMap_cons, Workspace.painted_append, List.length_append, Nat.add_assoc]
    simp [Workspace.painted, Image.strokes]

theorem colorMatch_paintable (m : FunctionMatch) :
    view.colorMatch m w =
      .ok (view.strokes w.host.image m).length (w.painted (view.strokes w.host.image m)) := by
  have paintable' := paintable.painted
    ((m.matchedBlocks view.role).flatMap (w.host.image.strokes view.palette.matched))
  rw [colorMatch, bind_of_ok (colorBlocks_paintable paintable _ _ _),
    colorBlocks_paintable paintable', strokes, Palette.strokes, Workspace.painted_append,
    List.length_append]
  simp [Workspace.painted, FunctionMatch.side]

theorem colorMatches_paintable (ms : List FunctionMatch) (count : Nat) :
    view.colorMatches ms count w =
      .ok (count + (ms.flatMap (view.strokes w.host.image)).length)
        (w.painted (ms.flatMap (view.strokes w.host.image))) := by
  induction ms generalizing w count with
  | nil => rfl
  | cons m ms ih =>
    have paintable' : (w.painted (view.strokes w.host.image m)).host.Paintable := paintable.painted _
    rw [colorMatches, bind_of_ok (colorMatch_paintable view paintable m), ih paintable',
      List.flatMap_cons, Workspace.painted_append, List.length_append, Nat.add_assoc]
    simp [Workspace.painted]

theorem applyColors_paintable :
    view.applyColors w =
      .ok (view.document.functions.flatMap (view.strokes w.host.image)).length
        (w.painted (view.document.functions.flatMap (view.strokes w.host.image))) := by
  rw [applyColors, colorMatches_paintable view paintable, Nat.zero_add]

omit paintable

/-- The strokes over a document come from the own side of its matches. -/
theorem flatMap_strokes (image : Image) (ms : List FunctionMatch) :
    ms.flatMap (view.strokes image) =
      (ms.map (·.side view.role)).flatMap (view.palette.strokes image) := by
  rw [List.flatMap_map]
  rfl

/-- The strokes over the match that a row shows. -/
def rowStrokes (image : Image) (row : Row) : List Stroke :=
  (view.document.functions[row.index]?).toList.flatMap (view.strokes image)

/-- A workspace after a row was activated, but for colors: the host has jumped unless it rejected that,
and the command for the peer waits. -/
def navigated (row : Row) (w : Workspace) : Workspace :=
  { (Action.jumpTo row.ownAddress).outcome w with
    outbox := { w.outbox with waiting := w.outbox.waiting ++ (view.command? w.outbox row).toList } }

theorem navigated_faultless (sound : w.host.Faultless) (row : Row) :
    view.navigated row w = view.followed row w := by
  rw [navigated, followed, outcome_jumpTo_faultless sound]

/-- A jump changes neither the image nor the colors, and no primitive panics for it. -/
theorem navigated_host (activable : w.host.Activable) (row : Row) :
    (view.navigated row w).host.Activable ∧ (view.navigated row w).host.image = w.host.image ∧
      w.host.SameItems (view.navigated row w).host := by
  rw [navigated]
  obtain made | ⟨error, rejected⟩ := Action.jumpTo_cases activable.jumpTo row.ownAddress
  · rw [Action.outcome_of_ok made]
    exact ⟨⟨⟨activable.imageBase, activable.itemSize, activable.setItemColor⟩, activable.jumpTo⟩,
      rfl, ⟨rfl, rfl⟩⟩
  · rw [Action.outcome_of_error rejected]
    exact ⟨activable, rfl, .refl _⟩

/-- Activating a row tries a jump, asks the peer, and colors the match again. -/
theorem activate_activable (activable : w.host.Activable) {position : Nat} {row : Row}
    (shown : view.rows[position]? = some row) :
    view.activate position w =
      .ok (view.command? w.outbox row)
        ((view.navigated row w).painted (view.rowStrokes w.host.image row)) := by
  have jump := tryJump_returns activable.jumpTo row.ownAddress
  have asked : view.askPeer row ((Action.jumpTo row.ownAddress).outcome w) =
      .ok (view.command? w.outbox row) (view.navigated row w) := by
    rw [askPeer_eq, navigated]
    obtain made | ⟨error, rejected⟩ := Action.jumpTo_cases activable.jumpTo row.ownAddress
    · rw [Action.outcome_of_ok made]
    · rw [Action.outcome_of_error rejected]
  obtain ⟨activable', same, -⟩ := view.navigated_host activable row
  rw [activate, shown]
  simp only
  rw [bind_of_ok jump, bind_of_ok asked, rowStrokes]
  cases view.document.functions[row.index]? with
  | none => rfl
  | some m =>
    have colored := view.colorMatch_paintable activable'.toPaintable m
    rw [same] at colored
    refine (bind_of_ok (discard_of_ok colored)).trans ?_
    simp only [Option.toList_some, List.flatMap_singleton]
    rfl

theorem activate_painted (sound : w.host.Faultless) {position : Nat} {row : Row}
    (shown : view.rows[position]? = some row) :
    view.activate position w =
      .ok (view.command? w.outbox row)
        ((view.followed row w).painted (view.rowStrokes w.host.image row)) := by
  rw [view.activate_activable sound.activable shown, view.navigated_faultless sound]

end MatchView

open MatchView in
/-- After a document was colored, an item has the color that the last match to visit it gives, and
without one the color it had. Every block that visits an item is a write to it, the writes are what is
counted, nothing else changes, and the peer's side of the document plays no part. -/
theorem last_match_decides_the_color {w : Workspace} (paintable : w.host.Paintable)
    (view : MatchView) :
    ∃ n w', view.applyColors w = .ok n w' ∧ w.Repainted w' ∧
      (∀ a, w'.host.itemColor? a =
        ((view.document.functions.reverse.find? (view.visits w.host.image a)).map
          (view.colorOf w.host.image a)).or (w.host.itemColor? a)) ∧
      (∀ a, w'.host.writesAt a = w.host.writesAt a +
        (view.document.functions.flatMap (·.blocks view.role)).countP (w.host.image.visits a)) ∧
      n = ∑ a : Address, (w'.host.writesAt a - w.host.writesAt a) ∧
      ∀ other : MatchView, other.role = view.role → other.palette = view.palette →
        other.document.functions.map (·.side view.role) =
            view.document.functions.map (·.side view.role) →
          other.applyColors w = view.applyColors w := by
  have writes := w.host.writesAt_painted (view.document.functions.flatMap (view.strokes w.host.image))
  refine ⟨_, _, applyColors_paintable view paintable, w.repainted_painted _, fun a => ?_, fun a => ?_,
    ?_, fun other role palette sides => ?_⟩
  · rw [← last?_flatMap_strokes]
    exact w.host.itemColor?_painted _ a
  · rw [← count_flatMap_strokes]
    exact writes a
  · rw [← Stroke.sum_count]
    refine Finset.sum_congr rfl fun a _ => ?_
    exact Nat.eq_sub_of_add_eq' (writes a).symm
  · rw [applyColors_paintable other paintable, applyColors_paintable view paintable,
      flatMap_strokes other, flatMap_strokes view, role, palette, sides]

namespace MatchView.Sample

/-- A host where the item behind the blocks below has a color already. -/
def used : Workspace := (⟨.load Image.Sample.bare, .empty, {}⟩ : Workspace).painted [⟨0x1008, 9⟩]

/-- Two functions that share the item at offset 4, and a peer with blocks of some length. -/
def shared (length : Address) : MatchDocument :=
  ⟨⟨none, none⟩,
    [⟨⟨0, 0⟩, ⟨none, none⟩, [⟨⟨0, 8⟩, ⟨0, length⟩⟩], ⟨[⟨0, 1⟩, ⟨4, 5⟩], []⟩⟩,
      ⟨⟨4, 0⟩, ⟨none, none⟩, [⟨⟨4, 6⟩, ⟨0x20, 0x20 + length⟩⟩], ⟨[], [⟨0x40, 0x40 + length⟩]⟩⟩]⟩

def sharing (length : Address) : MatchView := ⟨shared length, .source, none, ⟨1, 2⟩, []⟩

end MatchView.Sample

open MatchView.Sample in
/-- The item that two functions share is unmatched in the first and matched in the second. -/
theorem shared_item_takes_the_later_color :
    used.host.Paintable ∧
      ∃ w', (sharing 1).applyColors used = .ok 5 w' ∧
        w'.host.itemColor? 0x1000 = some 2 ∧ w'.host.writesAt 0x1000 = 2 ∧
        w'.host.itemColor? 0x1004 = some 1 ∧ w'.host.writesAt 0x1004 = 3 ∧
        w'.host.itemColor? 0x1008 = some 9 ∧ w'.host.writesAt 0x1008 = 1 ∧
        (sharing 7).applyColors used = .ok 5 w' := by
  have paintable : used.host.Paintable := Host.Faultless.paintable fun _ => rfl
  obtain ⟨n, w', done, -, colors, writes, -, independent⟩ :=
    last_match_decides_the_color paintable (sharing 1)
  have same := independent (sharing 7) rfl rfl rfl
  have counted := MatchView.applyColors_paintable (sharing 1) paintable
  obtain rfl : n = 5 := by
    rw [done] at counted
    injection counted with count
    rw [count]
    cbv
  exact ⟨paintable, w', done, (colors _).trans (by cbv), (writes _).trans (by cbv),
    (colors _).trans (by cbv), (writes _).trans (by cbv), (colors _).trans (by cbv),
    (writes _).trans (by cbv), same.trans done⟩

end Tandem
