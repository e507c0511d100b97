import Mathlib.Data.String.Basic
import Tandem.Proofs.MergeSort
import Tandem.Proofs.View.Activation
import Tandem.Proofs.View.Registry

/-! # Sorting again and again

A view can be sorted by one column after the other. Each time, rows that agree in the column keep the
order that they had (`Sorting.filter_sort`), in falling order as well as in rising order. So the last
sorting decides, one before it decides between rows that all later ones leave tied, and rows that all
of them leave tied stand in the order of the document. `Sorting.precedence` is this order. A single
sorting puts itself in front of it (`Sorting.pairwise_sort_precedence`), hence so do many. -/

namespace Tandem

/-! ## Columns -/

namespace SortColumn

/-- How two rows compare in a column. -/
def compare : SortColumn → Row → Row → Ordering
  | .ownName => compareOn Row.ownName
  | .ownAddress => compareOn Row.ownAddress
  | .peerName => compareOn Row.peerName
  | .peerAddress => compareOn Row.peerAddress
  | .matched => compareOn Row.matched
  | .ownUnidentified => compareOn Row.ownUnidentified
  | .peerUnidentified => compareOn Row.peerUnidentified

instance (column : SortColumn) : Std.TransCmp column.compare := by
  cases column <;> exact inferInstanceAs (Std.TransCmp (compareOn _))

theorem compare_swap (column : SortColumn) (a b : Row) :
    (column.compare a b).swap = column.compare b a :=
  Std.OrientedCmp.eq_swap.symm

theorem le_eq_isLE (column : SortColumn) (a b : Row) : column.le a b = (column.compare a b).isLE := by
  rw [Bool.eq_iff_iff]
  cases column with
  | ownName | peerName =>
    simp only [le, decide_eq_true_eq, compare, compareOn, Ordering.isLE_iff_ne_gt]
    exact compare_le_iff_le.symm
  | _ =>
    simp only [le, decide_eq_true_eq, compare, compareOn, Std.isLE_compare]

end SortColumn

/-! ## Sortings -/

/-- A column to sort rows by, and whether they are to fall in it. -/
structure Sorting where
  column : SortColumn
  descending : Bool
  deriving DecidableEq, Repr

namespace Sorting

/-- How a sorting compares two rows. -/
def compare (s : Sorting) (a b : Row) : Ordering :=
  if s.descending then (s.column.compare a b).swap else s.column.compare a b

/-- Rows in the order of a sorting. -/
def sort (s : Sorting) (rows : List Row) : List Row := s.column.sort s.descending rows

variable {s : Sorting} {rows : List Row} {a b : Row}

instance (s : Sorting) : Std.TransCmp s.compare := by
  obtain ⟨column, descending⟩ := s
  cases descending with
  | false => exact inferInstanceAs (Std.TransCmp column.compare)
  | true =>
    have turned : (Sorting.mk column true).compare = fun a b => column.compare b a := by
      funext a b
      exact column.compare_swap a b
    rw [turned]
    exact Std.TransCmp.opposite

theorem compare_swap (s : Sorting) (a b : Row) : (s.compare a b).swap = s.compare b a :=
  Std.OrientedCmp.eq_swap.symm

/-- Falling order turns the comparison around, and not the list. -/
theorem sort_eq (s : Sorting) (rows : List Row) :
    s.sort rows = rows.mergeSort fun a b => (s.compare a b).isLE := by
  have same : (fun a b => if s.descending then s.column.le b a else s.column.le a b) =
      fun a b => (s.compare a b).isLE := by
    funext a b
    rw [compare, SortColumn.le_eq_isLE, SortColumn.le_eq_isLE, SortColumn.compare_swap]
    split <;> rfl
  rw [sort, SortColumn.sort, same]

theorem isLE_trans (s : Sorting) (a b c : Row) (first : (s.compare a b).isLE = true)
    (second : (s.compare b c).isLE = true) : (s.compare a c).isLE = true :=
  Std.TransCmp.isLE_trans first second

theorem isLE_total (s : Sorting) (a b : Row) :
    ((s.compare a b).isLE || (s.compare b a).isLE) = true := by
  rw [← s.compare_swap a b]
  cases s.compare a b <;> rfl

theorem sort_perm (s : Sorting) (rows : List Row) : (s.sort rows).Perm rows :=
  List.mergeSort_perm _ _

theorem pairwise_sort (s : Sorting) (rows : List Row) :
    (s.sort rows).Pairwise fun a b => (s.compare a b).isLE = true := by
  rw [sort_eq]
  exact List.pairwise_mergeSort s.isLE_trans s.isLE_total rows

theorem sort_sort (s : Sorting) (rows : List Row) : s.sort (s.sort rows) = s.sort rows := by
  rw [sort_eq s (s.sort rows)]
  exact List.mergeSort_of_pairwise (s.pairwise_sort rows)

/-- Rows that a sorting does not tell apart keep their order. -/
theorem filter_sort (s : Sorting) (a : Row) (rows : List Row) :
    (s.sort rows).filter (s.compare a · = .eq) = rows.filter (s.compare a · = .eq) := by
  rw [sort_eq]
  apply filter_mergeSort_of_tied s.isLE_trans s.isLE_total
  intro b c here there
  simp only [decide_eq_true_eq] at here there
  rw [Std.TransCmp.eq_trans (Std.OrientedCmp.eq_symm here) there]
  rfl

/-! ## Many sortings -/

/-- The order by many sortings, the one that counts most in front. Rows that all of them leave tied go
by their indexes. -/
def precedence : List Sorting → Row → Row → Ordering
  | [], a, b => compareOn Row.index a b
  | s :: rest, a, b => (s.compare a b).then (precedence rest a b)

theorem precedence_swap (sortings : List Sorting) (a b : Row) :
    (precedence sortings a b).swap = precedence sortings b a := by
  induction sortings with
  | nil => exact Nat.compare_swap a.index b.index
  | cons s rest ih => rw [precedence, precedence, Ordering.swap_then, ih, compare_swap]

/-- A sorting comes first, and what ordered the rows before decides between those it leaves tied. -/
theorem pairwise_sort_precedence {rest : List Sorting} (s : Sorting)
    (ordered : rows.Pairwise fun a b => precedence rest a b = .lt) :
    (s.sort rows).Pairwise fun a b => precedence (s :: rest) a b = .lt := by
  have sorted := pairwise_mergeSort_then s.isLE_trans s.isLE_total ordered
  rw [← sort_eq] at sorted
  refine sorted.imp fun {a b} both => ?_
  rw [precedence, Ordering.then_eq_lt]
  cases order : s.compare a b with
  | lt => exact .inl rfl
  | gt => simp [order] at both
  | eq =>
    have tied : (s.compare b a).isLE = true := by
      rw [← s.compare_swap, order]
      rfl
    exact .inr ⟨rfl, both.2 tied⟩

/-- No two arrangements of the same rows are in the order of the same sortings. -/
theorem eq_of_pairwise_precedence {sortings : List Sorting} {rows' : List Row} (perm : rows'.Perm rows)
    (ordered' : rows'.Pairwise fun a b => precedence sortings a b = .lt)
    (ordered : rows.Pairwise fun a b => precedence sortings a b = .lt) : rows' = rows := by
  refine List.Perm.eq_of_pairwise (fun a b _ _ first second => ?_) ordered' ordered perm
  -- two rows cannot come before each other
  rw [← precedence_swap, first] at second
  cases second

end Sorting

/-! ## Views -/

namespace MatchView

variable {view : MatchView}

/-- A view that is sorted again and again. -/
def sorted (view : MatchView) (sortings : List Sorting) : MatchView :=
  sortings.foldl (fun view s => view.sort s.column s.descending) view

theorem rearranged_sorted (view : MatchView) (sortings : List Sorting) :
    view.Rearranged (view.sorted sortings) := by
  induction sortings generalizing view with
  | nil => exact .refl view
  | cons s sortings ih => exact (Rearranged.sort view s.column s.descending).trans (ih _)

theorem sorted_concat (view : MatchView) (sortings : List Sorting) (s : Sorting) :
    view.sorted (sortings ++ [s]) = (view.sorted sortings).sort s.column s.descending := by
  simp [sorted]

theorem pairwise_sorted {earlier : List Sorting}
    (ordered : view.rows.Pairwise fun a b => Sorting.precedence earlier a b = .lt)
    (sortings : List Sorting) :
    (view.sorted sortings).rows.Pairwise fun a b =>
      Sorting.precedence (sortings.reverse ++ earlier) a b = .lt := by
  induction sortings generalizing view earlier with
  | nil => exact ordered
  | cons s sortings ih =>
    rw [List.reverse_cons, List.append_assoc]
    exact ih (Sorting.pairwise_sort_precedence s ordered)

/-- A view that was just built has its rows in the order of the document. -/
theorem pairwise_built {w w' : Workspace} {document : MatchDocument} {role : Role}
    {peer : Option String} {palette : Palette}
    (builds : build document role peer palette w = .ok view w') :
    view.rows.Pairwise fun a b => Sorting.precedence [] a b = .lt := by
  obtain ⟨rfl, rfl⟩ := build_of_ok builds
  have rising : (List.range document.functions.length).Pairwise (· < ·) := List.pairwise_lt_range
  rw [← map_index_ofDocument w'.host.image document role peer, List.pairwise_map] at rising
  apply rising.imp
  intro a b before
  exact Nat.compare_eq_lt.2 before

end MatchView

/-- A view is built and sorted again and again. The rows are then in the one order of theirs that goes
by the last sorting, in ties by the one before it, and so on, and by the document in the end. Sorting
once more in the same way changes nothing, and sorting in another way, be it rising or falling, leaves
rows that are tied in it in the order that they have. -/
theorem sortings_compose {w w' : Workspace} {document : MatchDocument} {role : Role}
    {peer : Option String} {palette : Palette} {built : MatchView}
    (builds : MatchView.build document role peer palette w = .ok built w')
    (sortings : List Sorting) :
    (∀ rows, rows = (built.sorted sortings).rows ↔
      rows.Perm built.rows ∧
        rows.Pairwise fun a b => Sorting.precedence sortings.reverse a b = .lt) ∧
    (∀ s, sortings.getLast? = some s →
      (built.sorted sortings).sort s.column s.descending = built.sorted sortings) ∧
    ∀ (s : Sorting) (row : Row),
      ((built.sorted sortings).sort s.column s.descending).rows.filter (s.compare row · = .eq) =
        (built.sorted sortings).rows.filter (s.compare row · = .eq) := by
  have perm := (built.rearranged_sorted sortings).rows
  have ordered := MatchView.pairwise_sorted (MatchView.pairwise_built builds) sortings
  rw [List.append_nil] at ordered
  refine ⟨fun rows => ⟨?_, ?_⟩, fun s last => ?_, fun s row => s.filter_sort row _⟩
  · rintro rfl
    exact ⟨perm, ordered⟩
  · rintro ⟨perm', ordered'⟩
    exact Sorting.eq_of_pairwise_precedence (perm'.trans perm.symm) ordered' ordered
  · obtain ⟨earlier, rfl⟩ := List.getLast?_eq_some_iff.1 last
    rw [MatchView.sorted_concat, MatchView.sort, MatchView.sort]
    exact congrArg _ (s.sort_sort (built.sorted earlier).rows)

namespace Sorting.Sample

def desk : Workspace := ⟨.load Image.Sample.bare, .empty, {}⟩

/-- A match with a function at an offset of the other side, with or without a pair of blocks. -/
def entry (peer : Address) (pairs : List (Sided Block)) : FunctionMatch :=
  ⟨⟨0x10, peer⟩, ⟨none, none⟩, pairs, ⟨[], []⟩⟩

def document : MatchDocument where
  hash := ⟨none, none⟩
  functions := [entry 0x40 [⟨⟨0, 4⟩, ⟨0, 4⟩⟩], entry 0x30 [], entry 0x40 [], entry 0x30 []]

/-- The document as the source side sees it. -/
def built : MatchView := .ofDocument Image.Sample.bare document .source (some "2c3d")

theorem build_desk :
    MatchView.build document .source (some "2c3d") .standard desk = .ok built desk :=
  MatchView.build_faultless (fun _ => rfl) document .source _

/-- First falling by the address on the other side, then rising by the matched blocks. -/
def sortings : List Sorting := [⟨.peerAddress, true⟩, ⟨.matched, false⟩]

end Sorting.Sample

open Sorting.Sample in
/-- Rows 1 and 3 are tied in both columns, and fall in one of them without changing places. -/
theorem falling_rows_stay_in_order :
    MatchView.build document .source (some "2c3d") .standard desk = .ok built desk ∧
      (built.sorted sortings).rows.map Row.index = [2, 1, 3, 0] ∧
      (built.sorted sortings).sort .matched false = built.sorted sortings := by
  obtain ⟨order, again, -⟩ := sortings_compose build_desk sortings
  have expected := (order ([2, 1, 3, 0].filterMap (built.rows[·]?))).2 ⟨by decide, by decide⟩
  refine ⟨build_desk, ?_, again ⟨.matched, false⟩ rfl⟩
  rw [← expected]
  rfl

end Tandem
