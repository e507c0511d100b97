import Tandem.View.Basic

/-! # Open views

Views are opened under the next number and sorted in place. So the view under a number is always the
one that was opened under it, with its rows in one order or another. -/

namespace Tandem

/-! ## Views in another order -/

/-- The same view, with its rows in another order. -/
structure MatchView.Rearranged (view view' : MatchView) : Prop where
  document : view'.document = view.document
  role : view'.role = view.role
  peer : view'.peer = view.peer
  palette : view'.palette = view.palette
  rows : view'.rows.Perm view.rows

namespace MatchView.Rearranged

variable {view view' view'' : MatchView}

theorem refl (view : MatchView) : view.Rearranged view := ⟨rfl, rfl, rfl, rfl, .refl _⟩

theorem trans (first : view.Rearranged view') (second : view'.Rearranged view'') :
    view.Rearranged view'' where
  document := second.document.trans first.document
  role := second.role.trans first.role
  peer := second.peer.trans first.peer
  palette := second.palette.trans first.palette
  rows := second.rows.trans first.rows

theorem sort (view : MatchView) (column : SortColumn) (descending : Bool) :
    view.Rearranged (view.sort column descending) :=
  ⟨rfl, rfl, rfl, rfl, List.mergeSort_perm _ _⟩

end MatchView.Rearranged

namespace Views

variable {views : Views} {id : Nat} {view : MatchView}

theorem get?_of_latest? (last : views.latest? = some (id, view)) : views.get? id = some view := by
  obtain ⟨_, found, same⟩ := Option.map_eq_some_iff.1 last
  cases same
  rw [get?, ← List.getLast?_eq_getElem?, found]

theorem get?_sort_self (there : views.get? id = some view) (column : SortColumn) (descending : Bool) :
    (views.sort id column descending).2.get? id = some (view.sort column descending) := by
  have inside : id < views.all.length := (List.getElem?_eq_some_iff.1 there).1
  rw [sort, there]
  exact List.getElem?_set_self inside

theorem get?_sort_other {other : Nat} (apart : id ≠ other) (column : SortColumn) (descending : Bool) :
    (views.sort id column descending).2.get? other = views.get? other := by
  rw [sort]
  split
  · exact List.getElem?_set_ne apart
  · rfl

theorem get?_append (there : views.get? id = some view) (more : List MatchView) :
    get? ⟨views.all ++ more⟩ id = some view := by
  have inside : id < views.all.length := (List.getElem?_eq_some_iff.1 there).1
  rw [get?, List.getElem?_append_left inside]
  exact there

/-- The number of every view, and of its rows, as tasks tell them. -/
def openings (views : Views) : List (Option Json × Option Json) :=
  views.all.zipIdx.map fun (view, id) => (some (.nat id), some (.nat view.rows.length))

theorem getElem?_openings (views : Views) (id : Nat) :
    views.openings[id]? =
      (views.get? id).map fun view => (some (.nat id), some (.nat view.rows.length)) := by
  simp [openings, get?, List.getElem?_zipIdx, Function.comp_def]

theorem openings_append (views : Views) (view : MatchView) :
    openings ⟨views.all ++ [view]⟩ =
      views.openings ++ [(some (.nat views.all.length), some (.nat view.rows.length))] := by
  simp [openings, List.zipIdx_append]

/-- Sorting a view leaves as many rows as there were. -/
theorem openings_sort (views : Views) (id : Nat) (column : SortColumn) (descending : Bool) :
    (views.sort id column descending).2.openings = views.openings := by
  refine List.ext_getElem? fun other => ?_
  rw [getElem?_openings, getElem?_openings]
  by_cases same : id = other
  · subst same
    cases there : views.get? id with
    | none => rw [sort, there, there]
    | some view =>
      have rows := (MatchView.Rearranged.sort view column descending).rows.length_eq
      rw [get?_sort_self there, Option.map_some, Option.map_some, rows]
  · rw [get?_sort_other same]

end Views

end Tandem
