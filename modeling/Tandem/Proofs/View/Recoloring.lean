import Tandem.Proofs.Host.Reachable
import Tandem.Proofs.View.Sorting

/-! # Activation and recoloring

A row points back to its match by an index, while the addresses that it leads to were copied into it
when the view was built. Since sorting does nothing but move rows, all that is done when a row is
activated comes from the one match that is displayed there.

Activating a row colors its match again, as it was when the whole document was colored, but without the
matches behind it in the document. So an item that another match has the last word on may change its
color. `Host.itemColors_painted_iff` says when strokes leave all colors as they are, and what is shown
about colors here follows from it. -/

namespace Tandem

/-! ## Strokes over what is there -/

namespace Host

theorem itemColors_eq_iff {host host' : Host} :
    host'.itemColors = host.itemColors ↔ ∀ a, host'.itemColor? a = host.itemColor? a := by
  constructor
  · intro same a
    rw [itemColor?, itemColor?, same]
  · exact Std.ExtTreeMap.ext_getElem?

/-- Strokes leave the colors as they are when at every address the last one gives the color that is
there. -/
theorem itemColors_painted_iff (host : Host) (strokes : List Stroke) :
    (host.painted strokes).itemColors = host.itemColors ↔
      ∀ a color, Stroke.last? strokes a = some color → host.itemColor? a = some color := by
  rw [itemColors_eq_iff]
  apply forall_congr'
  intro a
  rw [itemColor?_painted]
  cases Stroke.last? strokes a with
  | none => simp
  | some color => simp [eq_comm]

theorem itemColors_painted_again {host host' : Host} {strokes : List Stroke}
    (once : host'.itemColors = (host.painted strokes).itemColors) :
    (host'.painted strokes).itemColors = host'.itemColors := by
  rw [itemColors_painted_iff]
  intro a color last
  rw [itemColors_eq_iff.1 once a, itemColor?_painted, last]
  rfl

theorem Activable.painted {host : Host} (activable : host.Activable) (strokes : List Stroke) :
    (host.painted strokes).Activable where
  toPaintable := activable.toPaintable.painted strokes
  jumpTo := by
    rw [painted_eq]
    exact activable.jumpTo

end Host

namespace MatchView

variable {w : Workspace} {view : MatchView}

/-! ## One activation -/

/-- Strokes after a jump come to what they come to without it. -/
theorem navigated_painted (activable : w.host.Activable) (row : Row) (strokes : List Stroke) :
    (view.navigated row w).painted strokes =
      { view.navigated row w with
        host := { (view.navigated row w).host with
          itemColors := (w.host.painted strokes).itemColors
          colorWrites := (w.host.painted strokes).colorWrites } } := by
  obtain ⟨-, -, same⟩ := view.navigated_host activable row
  rw [Workspace.painted, Host.painted_eq, (same.painted strokes).colors, (same.painted strokes).writes]

/-- The strokes of activating the row at a position, if there is one. -/
def strokesAt (view : MatchView) (image : Image) (position : Nat) : List Stroke :=
  (view.rows[position]?).toList.flatMap (view.rowStrokes image)

theorem outcome_activate (view : MatchView) (activable : w.host.Activable) (position : Nat) :
    ((view.activate position).outcome w).host.Activable ∧
      ((view.activate position).outcome w).host.image = w.host.image ∧
      ((view.activate position).outcome w).host.itemColors =
        (w.host.painted (view.strokesAt w.host.image position)).itemColors := by
  cases shown : view.rows[position]? with
  | none =>
    rw [Action.outcome_of_error (activate_none shown), strokesAt, shown]
    exact ⟨activable, rfl, rfl⟩
  | some row =>
    -- the jump comes first, and leaves the items to be painted on
    obtain ⟨activable', image, items⟩ := view.navigated_host activable row
    rw [Action.outcome_of_ok (view.activate_activable activable shown), strokesAt, shown,
      Option.toList_some, List.flatMap_singleton]
    exact ⟨activable'.painted _, (Host.painted_image _ _).trans image,
      (items.painted _).colors⟩

theorem activate_eq_outcome (activable : w.host.Activable) {position : Nat} {row : Row}
    (shown : view.rows[position]? = some row) :
    ∃ command, view.activate position w = .ok command ((view.activate position).outcome w) := by
  have done := view.activate_activable activable shown
  rw [Action.outcome_of_ok done]
  exact ⟨_, done⟩

theorem itemColors_activate_again (view : MatchView) (activable : w.host.Activable) (position : Nat) :
    ((view.activate position).outcome ((view.activate position).outcome w)).host.itemColors =
      ((view.activate position).outcome w).host.itemColors := by
  obtain ⟨activable', image, once⟩ := view.outcome_activate activable position
  obtain ⟨-, -, again⟩ := view.outcome_activate activable' position
  -- both times the walks are of the same image, so these are the same strokes
  rw [image] at again
  exact again.trans (Host.itemColors_painted_again once)

theorem activate_match (activable : w.host.Activable) {position : Nat} {row : Row} {m : FunctionMatch}
    (shown : view.rows[position]? = some row)
    (entry : view.document.functions[row.index]? = some m) :
    ∃ tried count colored,
      (Action.jumpTo row.ownAddress w = .ok () tried ∨
        (∃ error, Action.jumpTo row.ownAddress w = .error (.error error) w) ∧ tried = w) ∧
      view.colorMatch m w = .ok count colored ∧
      view.activate position w = .ok (view.command? w.outbox row) { tried with
        host := { tried.host with
          itemColors := colored.host.itemColors
          colorWrites := colored.host.colorWrites }
        outbox := { w.outbox with
          waiting := w.outbox.waiting ++ (view.command? w.outbox row).toList } } := by
  have colored := view.colorMatch_paintable activable.toPaintable m
  have activated := view.activate_activable activable shown
  rw [navigated_painted activable, rowStrokes, entry, Option.toList_some, List.flatMap_singleton]
    at activated
  refine ⟨(Action.jumpTo row.ownAddress).outcome w, _, _, ?_, colored, activated⟩
  obtain made | ⟨error, rejected⟩ := Action.jumpTo_cases activable.jumpTo row.ownAddress
  · exact .inl (made.trans (congrArg _ (Action.outcome_of_ok made).symm))
  · exact .inr ⟨⟨error, rejected⟩, Action.outcome_of_error rejected⟩

/-- A row of a view that was built stands at its index, and shows the match there. -/
theorem row_of_built {w₀ w₁ : Workspace} {document : MatchDocument} {role : Role}
    {peer : Option String} {palette : Palette}
    (builds : build document role peer palette w₀ = .ok view w₁) {row : Row}
    (member : row ∈ view.rows) :
    view.rows[row.index]? = some row ∧
      ∃ m, document.functions[row.index]? = some m ∧
        row.ownAddress = w₀.host.image.base.plus (m.address.on role) ∧
        row.peerAddress = m.address.on role.peer := by
  obtain ⟨rfl, rfl⟩ := build_of_ok builds
  obtain ⟨i, here⟩ := List.getElem?_of_mem member
  have made := here
  simp only [getElem?_ofDocument] at made
  obtain ⟨m, entry, rfl⟩ := Option.map_eq_some_iff.1 made
  exact ⟨here, m, entry, rfl, rfl⟩

end MatchView

/-- A view is built, and its rows are sorted in any ways. They are the same rows as before, one for each
index. A position behind the last row is refused, and nothing changes. At any other position, whatever
has become of the host since, the match that is displayed there is activated: its own function is jumped
to unless the host rejects that, the command for its function on the other side goes into the outbox
unless nobody is there to take it or to be asked, and its blocks are colored. -/
theorem sorted_rows_lead_to_their_matches {w₀ w₁ w : Workspace} {document : MatchDocument}
    {role : Role} {peer : Option String} {palette : Palette} {built : MatchView}
    (builds : MatchView.build document role peer palette w₀ = .ok built w₁) (sortings : List Sorting)
    (activable : w.host.Activable) :
    (built.sorted sortings).rows.Perm built.rows ∧
    ((built.sorted sortings).rows.map Row.index).Perm (List.range document.functions.length) ∧
    (∀ row ∈ (built.sorted sortings).rows, built.rows[row.index]? = some row) ∧
    ∀ position,
      (document.functions.length ≤ position →
        ∃ error, (built.sorted sortings).activate position w = .error (.error error) w) ∧
      (position < document.functions.length →
        ∃ row m own tried command count colored,
          (built.sorted sortings).rows[position]? = some row ∧
          document.functions[row.index]? = some m ∧
          own.toNat =
            min (w₀.host.image.base.toNat + (m.address.on role).toNat) Address.greatest ∧
          (Action.jumpTo own w = .ok () tried ∨
            (∃ error, Action.jumpTo own w = .error (.error error) w) ∧ tried = w) ∧
          command = (if w.outbox.isOpen then
            peer.map fun hash => .jumpto hash (m.address.on role.peer) else none) ∧
          (built.sorted sortings).colorMatch m w = .ok count colored ∧
          (built.sorted sortings).activate position w = .ok command { tried with
            host := { tried.host with
              itemColors := colored.host.itemColors
              colorWrites := colored.host.colorWrites }
            outbox := { w.outbox with waiting := w.outbox.waiting ++ command.toList } }) := by
  have rearranged := built.rearranged_sorted sortings
  obtain ⟨made, -⟩ := MatchView.build_of_ok builds
  have sameDocument : (built.sorted sortings).document = document := by rw [rearranged.document, made]
  have samePeer : (built.sorted sortings).peer = peer := by rw [rearranged.peer, made]
  have indexes : ((built.sorted sortings).rows.map Row.index).Perm
      (List.range document.functions.length) := by
    refine (rearranged.rows.map Row.index).trans (.of_eq ?_)
    rw [made]
    exact MatchView.map_index_ofDocument _ document role peer
  have length := indexes.length_eq
  rw [List.length_map, List.length_range] at length
  refine ⟨rearranged.rows, indexes, ?_, fun position => ⟨?_, ?_⟩⟩
  · intro row member
    exact (MatchView.row_of_built builds (rearranged.rows.mem_iff.1 member)).1
  · intro behind
    rw [← length] at behind
    exact ⟨_, MatchView.activate_none (List.getElem?_eq_none behind)⟩
  · intro inside
    rw [← length] at inside
    have shown := List.getElem?_eq_getElem inside
    -- the row is one of those that were built, so it shows the match at its index
    obtain ⟨-, m, entry, own, there⟩ :=
      MatchView.row_of_built builds (rearranged.rows.mem_iff.1 (List.mem_of_getElem? shown))
    obtain ⟨tried, count, colored, jump, colors, activated⟩ :=
      MatchView.activate_match activable shown (by rw [sameDocument]; exact entry)
    refine ⟨_, m, _, tried, _, count, colored, shown, entry, ?_, jump, ?_, colors, activated⟩
    · rw [own, Address.toNat_plus]
    · rw [MatchView.command?, samePeer, there]

namespace Sorting.Sample

/-- A host that rejects all jumps. -/
def stuck : Workspace :=
  ⟨.load Image.Sample.bare fun p => if p = .jumpTo then some (.fail "stuck") else none, .empty, {}⟩

theorem activable_stuck : stuck.host.Activable := by
  have returns (p : Primitive) : stuck.host.Returns p := by
    intro text fault
    cases p <;> cases fault
  exact ⟨⟨returns _, returns _, returns _⟩, returns _⟩

theorem index_by_matched :
    (built.sorted [⟨.matched, false⟩]).rows.map Row.index = [1, 2, 3, 0] := by
  cbv

end Sorting.Sample

open Sorting.Sample in
/-- The first match of the document is displayed in the last row. -/
theorem last_row_leads_to_the_first_match :
    MatchView.build document .source (some "2c3d") .standard desk = .ok built desk ∧
      stuck.host.Activable ∧
      (∃ w', (built.sorted [⟨.matched, false⟩]).activate 3 stuck =
          .ok (some (.jumpto "2c3d" 0x40)) w' ∧
        w'.host.jumps = [] ∧ w'.outbox.waiting = [.jumpto "2c3d" 0x40] ∧
        w'.host.itemColor? 0x1000 = some 0xCCFFFF) ∧
      ∃ error,
        (built.sorted [⟨.matched, false⟩]).activate 4 stuck = .error (.error error) stuck := by
  obtain ⟨-, -, -, positions⟩ :=
    sorted_rows_lead_to_their_matches build_desk [⟨.matched, false⟩] activable_stuck
  obtain ⟨row, m, own, tried, command, count, colored, shown, entry, -, jump, asked, colors,
    activated⟩ := (positions 3).2 (by decide)
  have first : row.index = 0 := by
    have place := congrArg (·[3]?) index_by_matched
    simpa [shown] using place
  rw [first] at entry
  cases entry
  have rejected : Action.jumpTo own stuck = .error (.error (.failed "stuck")) stuck := rfl
  rcases jump with made | ⟨-, rfl⟩
  · rw [rejected] at made
    cases made
  subst asked
  refine ⟨build_desk, activable_stuck, ⟨_, activated, rfl, rfl, ?_⟩, (positions 4).1 (by decide)⟩
  rw [MatchView.colorMatch_paintable _ activable_stuck.toPaintable] at colors
  cases colors
  exact (Host.itemColor?_painted _ _ _).trans (by cbv)

/-! ## Colors -/

namespace MatchView

variable {w : Workspace} {host : Host} {view view' : MatchView} {m : FunctionMatch}

/-- Wherever a match colors items, they have the colors that it gives. -/
def Finds (view : MatchView) (host : Host) (m : FunctionMatch) : Prop :=
  ∀ a, view.visits host.image a m = true → host.itemColor? a = some (view.colorOf host.image a m)

/-- No two matches give one address different colors. -/
def Undisputed (view : MatchView) (image : Image) : Prop :=
  ∀ a, ∀ m ∈ view.document.functions, ∀ m' ∈ view.document.functions,
    view.visits image a m = true → view.visits image a m' = true →
      view.colorOf image a m = view.colorOf image a m'

theorem itemColors_strokes_iff (view : MatchView) (host : Host) (m : FunctionMatch) :
    (host.painted (view.strokes host.image m)).itemColors = host.itemColors ↔ view.Finds host m := by
  rw [Host.itemColors_painted_iff]
  apply forall_congr'
  intro a
  rw [last?_strokes]
  by_cases visited : view.visits host.image a m = true <;> simp [visited]

theorem Finds.congr (finds : view.Finds host m) {host' : Host} (image : host'.image = host.image)
    (colors : host'.itemColors = host.itemColors) : view.Finds host' m := by
  intro a visited
  rw [image] at visited ⊢
  rw [Host.itemColors_eq_iff.1 colors a]
  exact finds a visited

theorem Rearranged.finds (rearranged : view.Rearranged view') (finds : view.Finds host m) :
    view'.Finds host m := by
  intro a
  rw [visits, colorOf, rearranged.role, rearranged.palette]
  exact finds a

/-- A workspace after the document was colored. -/
def colored (view : MatchView) (w : Workspace) : Workspace :=
  w.painted (view.document.functions.flatMap (view.strokes w.host.image))

theorem exists_last (member : m ∈ view.document.functions) {image : Image} {a : Address}
    (visited : view.visits image a m = true) :
    ∃ last ∈ view.document.functions, view.visits image a last = true ∧
      view.document.functions.reverse.find? (view.visits image a) = some last := by
  have found : (view.document.functions.reverse.find? (view.visits image a)).isSome = true :=
    List.find?_isSome.2 ⟨m, List.mem_reverse.2 member, visited⟩
  obtain ⟨last, found⟩ := Option.isSome_iff_exists.1 found
  exact ⟨last, List.mem_reverse.1 (List.mem_of_find?_eq_some found), List.find?_some found, found⟩

/-- In a document that was colored, a match finds its colors where the last match agrees with it. -/
theorem finds_colored_iff (member : m ∈ view.document.functions) :
    view.Finds (view.colored w).host m ↔
      ∀ a, view.visits w.host.image a m = true →
        (view.document.functions.reverse.find? (view.visits w.host.image a)).map
          (view.colorOf w.host.image a) = some (view.colorOf w.host.image a m) := by
  simp only [Finds, colored, Workspace.painted, Host.painted_image]
  refine forall_congr' fun a => imp_congr_right fun visited => ?_
  obtain ⟨last, -, -, found⟩ := exists_last member visited
  rw [Host.itemColor?_painted, last?_flatMap_strokes, found, Option.map_some, Option.some_or]

theorem Undisputed.finds (undisputed : view.Undisputed w.host.image)
    (member : m ∈ view.document.functions) : view.Finds (view.colored w).host m := by
  rw [finds_colored_iff member]
  intro a visited
  obtain ⟨last, listed, visited', found⟩ := exists_last member visited
  rw [found, Option.map_some, undisputed a last listed m member visited' visited]

/-! ## Gestures and colors -/

def performed (view : MatchView) (w : Workspace) : Gesture → Workspace
  | .look .. => w
  | .activate position => (view.activate position).outcome w

/-- The workspace after gestures. The view may be sorted between them. -/
def pursued (view : MatchView) (w : Workspace) : List Gesture → Workspace
  | [] => w
  | gesture :: rest => (view.after gesture).pursued (view.performed w gesture) rest

theorem rearranged_after (view : MatchView) (gesture : Gesture) :
    view.Rearranged (view.after gesture) := by
  fun_cases after view gesture with
  | case1 column descending => exact .sort view column descending
  | case2 => exact .refl view
  | case3 => exact .refl view

theorem itemColors_performed (activable : w.host.Activable)
    (finds : ∀ m ∈ view.document.functions, view.Finds w.host m) (gesture : Gesture) :
    (view.performed w gesture).host.Activable ∧
      (view.performed w gesture).host.image = w.host.image ∧
      (view.performed w gesture).host.itemColors = w.host.itemColors := by
  cases gesture with
  | look sort descending => exact ⟨activable, rfl, rfl⟩
  | activate position =>
    obtain ⟨activable', image, colors⟩ := view.outcome_activate activable position
    refine ⟨activable', image, colors.trans ?_⟩
    rw [strokesAt]
    cases shown : view.rows[position]? with
    | none => rfl
    | some row =>
      rw [Option.toList_some, List.flatMap_singleton, rowStrokes]
      cases entry : view.document.functions[row.index]? with
      | none => rfl
      | some m =>
        rw [Option.toList_some, List.flatMap_singleton, itemColors_strokes_iff]
        exact finds m (List.mem_of_getElem? entry)

theorem itemColors_pursued (activable : w.host.Activable)
    (finds : ∀ m ∈ view.document.functions, view.Finds w.host m) (gestures : List Gesture) :
    (view.pursued w gestures).host.itemColors = w.host.itemColors := by
  induction gestures generalizing view w with
  | nil => rfl
  | cons gesture gestures ih =>
    obtain ⟨activable', image, colors⟩ := itemColors_performed activable finds gesture
    have rearranged := view.rearranged_after gesture
    rw [pursued, ih activable' ?_, colors]
    -- neither the document nor the colors have changed, so each match still finds its own
    intro m member
    rw [rearranged.document] at member
    exact rearranged.finds ((finds m member).congr image colors)

end MatchView

open MatchView in
/-- Coloring a document twice gives the colors that coloring it once gives, and so does activating a row
twice. After a document was colored, activating a row leaves all colors as they are exactly when its
match has the same color for each item that it visits as the last match to visit the item. So where no
two matches disagree, nothing that is done with the view changes the colors any more. -/
theorem recoloring_is_idempotent {w : Workspace} (activable : w.host.Activable) (view : MatchView) :
    (∀ (position : Nat) (row : Row), view.rows[position]? = some row →
      ∃ command w', view.activate position w = .ok command w' ∧
        ∃ command' w'', view.activate position w' = .ok command' w'' ∧
          w''.host.itemColors = w'.host.itemColors) ∧
    ∃ count colored, view.applyColors w = .ok count colored ∧
      (∃ again, view.applyColors colored = .ok count again ∧
        again.host.itemColors = colored.host.itemColors) ∧
      (∀ (position : Nat) (row : Row) (m : FunctionMatch), view.rows[position]? = some row →
        view.document.functions[row.index]? = some m →
        ∃ command w', view.activate position colored = .ok command w' ∧
          (w'.host.itemColors = colored.host.itemColors ↔
            ∀ a, view.visits w.host.image a m = true →
              (view.document.functions.reverse.find? (view.visits w.host.image a)).map
                (view.colorOf w.host.image a) = some (view.colorOf w.host.image a m))) ∧
      (view.Undisputed w.host.image → ∀ gestures,
        (view.pursued colored gestures).host.itemColors = colored.host.itemColors) := by
  have colors := view.applyColors_paintable activable.toPaintable
  have activable' : (view.colored w).host.Activable := activable.painted _
  have again := view.applyColors_paintable activable'.toPaintable
  -- the image is still the same, and so are the walks
  simp only [colored, Workspace.painted, Host.painted_image] at again
  refine ⟨?_, _, view.colored w, colors, ⟨_, again, Host.itemColors_painted_again rfl⟩, ?_, ?_⟩
  · intro position row shown
    obtain ⟨command, done⟩ := activate_eq_outcome activable shown
    obtain ⟨activable', -, -⟩ := view.outcome_activate activable position
    obtain ⟨command', again⟩ := activate_eq_outcome activable' shown
    exact ⟨command, _, done, command', _, again, view.itemColors_activate_again activable position⟩
  · intro position row m shown entry
    obtain ⟨command, done⟩ := activate_eq_outcome activable' shown
    obtain ⟨-, -, after⟩ := view.outcome_activate activable' position
    refine ⟨command, _, done, ?_⟩
    rw [strokesAt, shown, Option.toList_some, List.flatMap_singleton, rowStrokes, entry,
      Option.toList_some, List.flatMap_singleton] at after
    rw [after, itemColors_strokes_iff, finds_colored_iff (List.mem_of_getElem? entry)]
  · intro undisputed gestures
    exact itemColors_pursued activable' (fun m member => undisputed.finds member) gestures

namespace MatchView.Sample

/-- The two functions that share an item, as rows. -/
def sharingRows : MatchView :=
  { sharing 1 with rows := (ofDocument Image.Sample.bare (shared 1) .source none).rows }

/-- The second function visits nothing but the item that it shares. -/
theorem eq_of_visits {a : Address} {m : FunctionMatch} (second : (shared 1).functions[1]? = some m)
    (visited : sharingRows.visits Image.Sample.bare a m = true) : a = 0x1004 := by
  have walk : Image.Sample.bare.walk 4 6 = [0x1004] := by cbv
  cases second
  simpa [visits, FunctionMatch.blocks, FunctionMatch.matchedBlocks, Sided.on, sharingRows, sharing,
    Image.visits, walk] using visited

end MatchView.Sample

open MatchView.Sample in
/-- The first function takes the item that it shares back from the second, and the second has nothing to
take back. -/
theorem first_row_recolors_the_shared_item :
    used.host.Activable ∧
      ∃ count colored, sharingRows.applyColors used = .ok count colored ∧
        (∃ command w', sharingRows.activate 0 colored = .ok command w' ∧
          w'.host.itemColors ≠ colored.host.itemColors) ∧
        ∃ command w', sharingRows.activate 1 colored = .ok command w' ∧
          w'.host.itemColors = colored.host.itemColors := by
  have activable : used.host.Activable := Host.Faultless.activable fun _ => rfl
  obtain ⟨-, count, colored, colors, -, rows, -⟩ := recoloring_is_idempotent activable sharingRows
  obtain ⟨command, w', first, changed⟩ := rows 0 _ _ rfl rfl
  obtain ⟨command', w'', second, unchanged⟩ := rows 1 _ _ rfl rfl
  refine ⟨activable, count, colored, colors, ⟨command, w', first, fun same => ?_⟩,
    command', w'', second, unchanged.2 fun a visited => ?_⟩
  · have given := changed.1 same 0x1004 (by cbv)
    cbv at given
    exact absurd given (by decide)
  · obtain rfl := eq_of_visits rfl visited
    cbv

end Tandem
