import Mathlib.Data.List.Sort

/-! # Sorted lists

Lists are sorted by a total order that may leave elements tied. Where it leaves none, the sorted list
depends only on what is in it. Where it does, sorting keeps the order that was there: a list that was in
some order is then in that of the sorting, and in the old one wherever the sorting ties.

Lists that are in one strict order already give the same results in the same order, if each element with
a result in one of them is in the other and has the same result there. -/

namespace Tandem

theorem filterMap_eq_of_ordered {α β : Type} {r : α → α → Prop} (asymm : ∀ a b, r a b → ¬ r b a)
    {xs ys : List α} (ordered : xs.Pairwise r) (ordered' : ys.Pairwise r) {f g : α → Option β}
    (there : ∀ x ∈ xs, (f x).isSome → x ∈ ys ∧ g x = f x)
    (back : ∀ y ∈ ys, (g y).isSome → y ∈ xs ∧ f y = g y) :
    xs.filterMap f = ys.filterMap g := by
  -- only elements with a result count, and these are the same in both lists
  have onlySome : ∀ (zs : List α) (h : α → Option β),
      zs.filterMap h = (zs.filter fun z => (h z).isSome).filterMap h := by
    intro zs h
    rw [List.filterMap_filter]
    exact List.filterMap_congr fun z _ => by cases h z <;> rfl
  have once {zs : List α} (ordered : zs.Pairwise r) : zs.Nodup :=
    ordered.imp fun {a b} less => by
      rintro rfl
      exact asymm a a less less
  have perm : (xs.filter fun x => (f x).isSome).Perm (ys.filter fun y => (g y).isSome) := by
    refine (List.perm_ext_iff_of_nodup (once (ordered.filter _)) (once (ordered'.filter _))).2 fun x => ?_
    rw [List.mem_filter, List.mem_filter]
    constructor
    · rintro ⟨inside, some⟩
      obtain ⟨member, same⟩ := there x inside some
      exact ⟨member, by rw [same]; exact some⟩
    · rintro ⟨inside, some⟩
      obtain ⟨member, same⟩ := back x inside some
      exact ⟨member, by rw [same]; exact some⟩
  have same := perm.eq_of_pairwise (fun a b _ _ less more => absurd more (asymm a b less))
    (ordered.filter _) (ordered'.filter _)
  rw [onlySome xs, onlySome ys, same]
  refine List.filterMap_congr fun y member => ?_
  obtain ⟨inside, some⟩ := List.mem_filter.1 member
  exact (back y inside some).2

variable {α : Type} {le : α → α → Bool} (trans : ∀ a b c, le a b = true → le b c = true → le a c = true)
  (total : ∀ a b, (le a b || le b a) = true)
include trans total

theorem mergeSort_congr_of_antisymm (antisymm : ∀ a b, le a b = true → le b a = true → a = b)
    {l l' : List α} (perm : l.Perm l') : l.mergeSort le = l'.mergeSort le := by
  have same : (l.mergeSort le).Perm (l'.mergeSort le) :=
    (List.mergeSort_perm l le).trans (perm.trans (List.mergeSort_perm l' le).symm)
  apply same.eq_of_pairwise (fun a b _ _ => antisymm a b)
  · exact List.pairwise_mergeSort trans total l
  · exact List.pairwise_mergeSort trans total l'

theorem filter_mergeSort_of_tied {p : α → Bool} (tied : ∀ a b, p a = true → p b = true → le a b = true)
    (l : List α) : (l.mergeSort le).filter p = l.filter p := by
  -- the tied part is sorted as it is, so that sorting leaves it in this order among the others
  have sorted : (l.filter p).Pairwise fun a b => le a b = true := by
    rw [List.pairwise_filter]
    exact List.pairwise_of_forall fun a b => tied a b
  have among := (List.sublist_mergeSort trans total sorted List.filter_sublist).filter p
  simp only [List.filter_filter, Bool.and_self] at among
  exact (among.eq_of_length ((List.mergeSort_perm l le).filter p).length_eq.symm).symm

theorem pairwise_mergeSort_then {r : α → α → Prop} {l : List α} (ordered : l.Pairwise r) :
    (l.mergeSort le).Pairwise fun a b => le a b = true ∧ (le b a = true → r a b) := by
  rw [List.pairwise_iff_forall_sublist] at ordered ⊢
  intro a b both
  have first := List.pairwise_iff_forall_sublist.1 (List.pairwise_mergeSort trans total l) both
  refine ⟨first, fun second => ordered ?_⟩
  -- both are among what `a` is tied with, and that keeps its order
  have itself : le a a = true := by simpa using total a a
  have tied := both.filter fun c => le a c && le c a
  rw [filter_mergeSort_of_tied trans total] at tied
  · simpa [first, second, itself] using tied.trans List.filter_sublist
  · intro b c with_b with_c
    rw [Bool.and_eq_true] at with_b with_c
    exact trans b a c with_b.2 with_c.1

end Tandem
