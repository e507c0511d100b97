import Mathlib.Algebra.Order.BigOperators.Group.List
import Mathlib.Algebra.Order.Group.Nat
import Tandem.Proofs.View.Colors

/-! # The work of coloring

A view colors block after block, each by one walk. `MatchView.layers` lists these walks, and
`MatchView.applyColors_eq` and `MatchView.activate_eq` say that they are all the coloring that is done.

A walk takes at least a byte with every step, so it visits no more addresses than its range is long. The
base of the image is added to both ends of a block, and where this is cut off at the greatest address the
range only shrinks. So the longest block that a valid document may have bounds every walk. -/

namespace Tandem

/-! ## Walks -/

namespace Image

theorem length_walkFrom_le (image : Image) (stop a : Address) :
    (image.walkFrom stop a).length ≤ stop.toNat - a.toNat := by
  induction a using walkFrom.induct image stop with
  | case1 a before ih =>
    rw [walkFrom_of_lt before, List.length_cons]
    rw [UInt64.lt_iff_toNat_lt] at before
    have := image.toNat_next a
    have := image.extent_pos a
    have := stop.toNat_le_greatest
    omega
  | case2 a done => simp [walkFrom_of_not_lt done]

theorem length_walk_le (image : Image) (start stop : Address) :
    (image.walk start stop).length ≤ stop.toNat - start.toNat := by
  calc (image.walk start stop).length
      ≤ (image.base.plus stop).toNat - (image.base.plus start).toNat := image.length_walkFrom_le _ _
    _ ≤ stop.toNat - start.toNat := by
      rw [Address.toNat_plus, Address.toNat_plus]
      omega

end Image

/-- The counts of all addresses together grow by one with every stroke. -/
theorem Host.sum_writesAt_painted (host : Host) (strokes : List Stroke) :
    ∑ a : Address, ((host.painted strokes).writesAt a - host.writesAt a) = strokes.length := by
  rw [← Stroke.sum_count]
  refine Finset.sum_congr rfl fun a _ => ?_
  rw [host.writesAt_painted, Nat.add_sub_cancel_left]

/-! ## Layers -/

/-- A block that is to be colored. -/
structure Layer where
  block : Block
  color : Color
  deriving DecidableEq, Repr

/-- Colors the block, and counts the items. -/
def Layer.paint (layer : Layer) : Action Nat :=
  Action.colorRange layer.block.start layer.block.stop layer.color

/-- A block in range takes no more strokes than it is long, and no more than the longest block. -/
theorem Layer.paint_inRange {layer : Layer} (inRange : layer.block.InRange) {w : Workspace}
    (paintable : w.host.Paintable) :
    ∃ n w', layer.paint w = .ok n w' ∧ n ≤ Block.longest ∧
      n ≤ layer.block.stop.toNat - layer.block.start.toNat ∧
      w'.host.writes = w.host.writes + n := by
  have short := w.host.image.length_walk_le layer.block.start layer.block.stop
  refine ⟨_, _, Action.colorRange_paintable paintable _ _ _, short.trans inRange.2, short, ?_⟩
  refine (w.host.writes_painted _).trans ?_
  rw [Image.strokes, List.length_map]

namespace MatchView

variable (view : MatchView)

/-- What is colored for a match: the matched blocks of the own side, then the unidentified ones. -/
def layers (m : FunctionMatch) : List Layer :=
  (m.matchedBlocks view.role).map (⟨·, view.palette.matched⟩) ++
    (m.unidentified.on view.role).map (⟨·, view.palette.unmatched⟩)

@[simp] theorem block_layers (m : FunctionMatch) :
    (view.layers m).map Layer.block = m.blocks view.role := by
  simp [layers, FunctionMatch.blocks, Function.comp_def]

theorem block_flatMap_layers (ms : List FunctionMatch) :
    (ms.flatMap view.layers).map Layer.block = ms.flatMap (·.blocks view.role) := by
  simp [List.map_flatMap]

theorem colorBlocks_eq (color : Color) (blocks : List Block) (count : Nat) :
    colorBlocks color blocks count =
      (fun counts => count + counts.sum) <$> (blocks.map (Layer.mk · color)).mapM Layer.paint := by
  induction blocks generalizing count with
  | nil => simp [colorBlocks]
  | cons b blocks ih =>
    simp only [colorBlocks, ih, List.map_cons, List.mapM_cons, Layer.paint, map_bind,
      bind_pure_comp, Functor.map_map, List.sum_cons, Nat.add_assoc]

theorem colorMatch_eq (m : FunctionMatch) :
    view.colorMatch m = List.sum <$> (view.layers m).mapM Layer.paint := by
  simp only [colorMatch, colorBlocks_eq, layers, List.mapM_append, bind_map_left, map_bind,
    bind_pure_comp, Functor.map_map, List.sum_append, Nat.zero_add]

theorem colorMatches_eq (ms : List FunctionMatch) (count : Nat) :
    view.colorMatches ms count =
      (fun counts => count + counts.sum) <$> (ms.flatMap view.layers).mapM Layer.paint := by
  induction ms generalizing count with
  | nil => simp [colorMatches]
  | cons m ms ih =>
    simp only [colorMatches, ih, colorMatch_eq, List.flatMap_cons, List.mapM_append, bind_map_left,
      map_bind, bind_pure_comp, Functor.map_map, List.sum_append, Nat.add_assoc]

/-- A document is colored layer by layer. -/
theorem applyColors_eq :
    view.applyColors =
      List.sum <$> (view.document.functions.flatMap view.layers).mapM Layer.paint := by
  simp only [applyColors, colorMatches_eq, Nat.zero_add]

/-- What is colored for the match that a row shows. -/
def rowLayers (row : Row) : List Layer :=
  (view.document.functions[row.index]?).toList.flatMap view.layers

/-- All that activating a row colors are the layers of its match. -/
theorem activate_eq {position : Nat} {row : Row} (shown : view.rows[position]? = some row) :
    view.activate position = (do
      tryJump row.ownAddress
      let command ← view.askPeer row
      discard ((view.rowLayers row).mapM Layer.paint)
      return command) := by
  simp only [activate, shown, rowLayers]
  cases view.document.functions[row.index]? with
  | none => simp [discard, LawfulFunctor.map_const]
  | some m => simp [discard, LawfulFunctor.map_const, colorMatch_eq]

theorem block_mem_of_mem_layers {m : FunctionMatch} {layer : Layer} (member : layer ∈ view.layers m) :
    layer.block ∈ m.blocks view.role := by
  rw [← block_layers]
  exact List.mem_map_of_mem member

/-- No layer of a valid document is too long. -/
theorem inRange_of_mem_layers (valid : view.document.validate = .ok ()) {layer : Layer}
    (member : layer ∈ view.document.functions.flatMap view.layers) : layer.block.InRange := by
  obtain ⟨m, listed, inside⟩ := List.mem_flatMap.1 member
  have checked := forM_eq_ok_iff.1 valid m listed
  exact (((m.validate_eq_ok_iff).1 checked view.role).inRange _ (view.block_mem_of_mem_layers inside))

theorem rowLayers_subset (row : Row) :
    view.rowLayers row ⊆ view.document.functions.flatMap view.layers := by
  intro layer member
  obtain ⟨m, shown, inside⟩ := List.mem_flatMap.1 member
  exact List.mem_flatMap.2 ⟨m, List.mem_of_getElem? (Option.mem_toList.1 shown), inside⟩

/-- The strokes over matches are those over their layers. -/
theorem flatMap_strokes_eq (image : Image) (ms : List FunctionMatch) :
    ms.flatMap (view.strokes image) =
      (ms.flatMap view.layers).flatMap fun layer => image.strokes layer.color layer.block := by
  rw [List.flatMap_assoc]
  congr 1
  funext m
  simp [strokes, Palette.strokes, layers, FunctionMatch.side, List.flatMap_map]

theorem length_strokes_le (valid : view.document.validate = .ok ()) (image : Image) :
    (view.document.functions.flatMap (view.strokes image)).length ≤
      Block.longest * (view.document.functions.flatMap (·.blocks view.role)).length := by
  have short : ∀ n ∈ (view.document.functions.flatMap view.layers).map
      (fun layer => (image.strokes layer.color layer.block).length), n ≤ Block.longest := by
    intro n member
    obtain ⟨layer, inside, rfl⟩ := List.mem_map.1 member
    rw [Image.strokes, List.length_map]
    exact (image.length_walk_le _ _).trans (view.inRange_of_mem_layers valid inside).2
  rw [flatMap_strokes_eq, List.length_flatMap, ← block_flatMap_layers, List.length_map]
  simpa [Nat.mul_comm] using List.sum_le_card_nsmul _ _ short

end MatchView

open MatchView in
/-- A view of a valid document colors block after block of its own side, and so does activating a row.
Each block takes at most as many strokes as it is long, and never more than the longest block may. So
the strokes over the whole document are bounded by the number of blocks, and they are what is counted. -/
theorem valid_documents_bound_the_work (view : MatchView) (valid : view.document.validate = .ok ()) :
    view.applyColors =
        List.sum <$> (view.document.functions.flatMap view.layers).mapM Layer.paint ∧
      (view.document.functions.flatMap view.layers).map Layer.block =
        view.document.functions.flatMap (·.blocks view.role) ∧
      (∀ position row, view.rows[position]? = some row →
        view.activate position = (do
          tryJump row.ownAddress
          let command ← view.askPeer row
          discard ((view.rowLayers row).mapM Layer.paint)
          return command) ∧
        view.rowLayers row ⊆ view.document.functions.flatMap view.layers) ∧
      (∀ layer ∈ view.document.functions.flatMap view.layers, ∀ w : Workspace, w.host.Paintable →
        ∃ n w', layer.paint w = .ok n w' ∧ n ≤ Block.longest ∧
          n ≤ layer.block.stop.toNat - layer.block.start.toNat ∧
          w'.host.writes = w.host.writes + n) ∧
      ∀ w : Workspace, w.host.Paintable →
        ∃ n w', view.applyColors w = .ok n w' ∧
          n ≤ Block.longest * (view.document.functions.flatMap (·.blocks view.role)).length ∧
          w'.host.writes = w.host.writes + n ∧
          n = ∑ a : Address, (w'.host.writesAt a - w.host.writesAt a) := by
  refine ⟨view.applyColors_eq, view.block_flatMap_layers _, fun position row shown =>
    ⟨view.activate_eq shown, view.rowLayers_subset row⟩, fun layer member w paintable =>
    layer.paint_inRange (view.inRange_of_mem_layers valid member) paintable, fun w paintable => ?_⟩
  exact ⟨_, _, view.applyColors_paintable paintable, view.length_strokes_le valid _,
    w.host.writes_painted _, (w.host.sum_writesAt_painted _).symm⟩

namespace MatchView.Sample

/-- A function whose matched block is as long as can be, and one that lies behind it. -/
def wide : MatchDocument :=
  ⟨⟨none, none⟩,
    [⟨⟨0, 0⟩, ⟨none, none⟩, [⟨⟨0, 0x100000⟩, ⟨0, 8⟩⟩], ⟨[⟨1, 6⟩], []⟩⟩,
      ⟨⟨0x100000, 0⟩, ⟨none, none⟩, [⟨⟨0x100000, 0x100005⟩, ⟨8, 9⟩⟩], ⟨[], []⟩⟩]⟩

def widely : MatchView :=
  ⟨wide, .source, none, ⟨1, 2⟩, [⟨0, "f", 0xfffffffffffffff0, "g", 0, 2, 1, 0⟩]⟩

end MatchView.Sample

open MatchView.Sample in
/-- In an image before the greatest address, with an item without size, the longest block takes three
strokes and a block behind the end takes none. -/
theorem wide_document_takes_few_strokes :
    widely.document.validate = .ok () ∧ (Host.load Image.Sample.verge).Paintable ∧
      (∃ w', widely.applyColors ⟨.load Image.Sample.verge, .empty, {}⟩ = .ok 5 w' ∧
        5 ≤ Block.longest * 3 ∧ w'.host.writes = 5) ∧
      (∃ n w', Layer.paint ⟨⟨1, 6⟩, 2⟩ ⟨.load Image.Sample.verge, .empty, {}⟩ = .ok n w' ∧ n ≤ 5) ∧
      widely.activate 0 = (do
        MatchView.tryJump 0xfffffffffffffff0
        let command ← widely.askPeer ⟨0, "f", 0xfffffffffffffff0, "g", 0, 2, 1, 0⟩
        discard ([⟨⟨0, 0x100000⟩, 1⟩, ⟨⟨1, 6⟩, 2⟩].mapM Layer.paint)
        return command) := by
  have valid : widely.document.validate = .ok () := by cbv
  have paintable : (Host.load Image.Sample.verge).Paintable :=
    Host.Faultless.paintable fun _ => rfl
  obtain ⟨-, -, activation, layers, whole⟩ := valid_documents_bound_the_work widely valid
  refine ⟨valid, paintable, ?_, ?_, (activation 0 _ rfl).1⟩
  · obtain ⟨n, w', done, few, writes, -⟩ := whole ⟨.load Image.Sample.verge, .empty, {}⟩ paintable
    have counted := widely.applyColors_paintable (w := ⟨.load Image.Sample.verge, .empty, {}⟩) paintable
    obtain rfl : n = 5 := by
      rw [done] at counted
      injection counted with count
      rw [count]
      cbv
    exact ⟨w', done, few, writes⟩
  · obtain ⟨n, w', done, -, few, -⟩ :=
      layers ⟨⟨1, 6⟩, 2⟩ (by decide) ⟨.load Image.Sample.verge, .empty, {}⟩ paintable
    exact ⟨n, w', done, few⟩

end Tandem
