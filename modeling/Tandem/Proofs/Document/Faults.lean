import Mathlib.Data.List.Permutation
import Tandem.Proofs.Document.Validity
import Tandem.Proofs.MergeSort

/-! # Why documents are refused

A document is refused for a fault that it has, and the error leads to it: to the first match with a fault,
to its source side if that has one, and to the blocks (`FunctionMatch.Faulty`). Overlaps are sought in a
sorted copy of the unidentified blocks. The copy is the same for every order of the blocks, so the order
in which a document lists them does not matter to what is reported, unless a block is reported by itself. -/

namespace Tandem

/-! ## Checks that fail -/

section

variable {ε α : Type}

theorem bind_eq_error_iff {x y : Except ε Unit} {e : ε} :
    (do x; y) = .error e ↔ x = .error e ∨ x = .ok () ∧ y = .error e := by
  cases x with
  | error e' => simp [bind, Except.bind]
  | ok u => simp [bind, Except.bind]

/-- A list of checks fails with the first one that does. -/
theorem of_forM_eq_error {f : α → Except ε Unit} {items : List α} {e : ε}
    (refused : items.forM f = .error e) :
    ∃ before a after, items = before ++ a :: after ∧ (∀ b ∈ before, f b = .ok ()) ∧ f a = .error e := by
  induction items with
  | nil => cases refused
  | cons a items ih =>
    rw [List.forM_eq_forM] at ih refused
    rw [List.forM_cons, bind_eq_error_iff] at refused
    rcases refused with here | ⟨passed, later⟩
    · exact ⟨[], a, items, rfl, by simp, here⟩
    · obtain ⟨before, b, after, rfl, passes, fails⟩ := ih later
      exact ⟨a :: before, b, after, rfl, List.forall_mem_cons.2 ⟨passed, passes⟩, fails⟩

end

/-! ## Blocks -/

namespace Block

instance (b : Block) : Decidable b.InRange :=
  inferInstanceAs (Decidable (b.start ≤ b.stop ∧ b.stop.toNat - b.start.toNat ≤ longest))

variable {a b : Block} {blocks blocks' : List Block}

theorem le_antisymm (first : le a b = true) (second : le b a = true) : a = b := by
  obtain ⟨start, stop⟩ := a
  obtain ⟨start', stop'⟩ := b
  simp only [le_iff, UInt64.lt_iff_toNat_lt, UInt64.le_iff_toNat_le, ← UInt64.toNat_inj,
    Block.mk.injEq] at *
  omega

/-- The sorted copy of a list depends only on which blocks there are. -/
theorem mergeSort_congr (perm : blocks.Perm blocks') : blocks.mergeSort le = blocks'.mergeSort le :=
  mergeSort_congr_of_antisymm le_trans le_total (fun _ _ => le_antisymm) perm

/-- Two blocks that are listed one after the other in some order stand at two places in any order. -/
theorem exists_places {before after : List Block} (perm : blocks.Perm (before ++ a :: b :: after)) :
    ∃ i j : Nat, i ≠ j ∧ blocks[i]? = some a ∧ blocks[j]? = some b := by
  obtain ⟨left, right, rfl⟩ := List.append_of_mem (perm.mem_iff.2 (show a ∈ _ by simp))
  have rest : (left ++ right).Perm (before ++ b :: after) :=
    (List.perm_middle.symm.trans (perm.trans List.perm_middle)).cons_inv
  rcases List.mem_append.1 (rest.mem_iff.2 (show b ∈ _ by simp)) with inLeft | inRight
  · obtain ⟨j, inside, rfl⟩ := List.getElem_of_mem inLeft
    refine ⟨left.length, j, by omega, by simp, ?_⟩
    rw [List.getElem?_append_left inside, List.getElem?_eq_getElem inside]
  · obtain ⟨j, inside, rfl⟩ := List.getElem_of_mem inRight
    refine ⟨left.length, left.length + (j + 1), by omega, by simp, ?_⟩
    rw [List.getElem?_append_right (by omega), Nat.add_sub_cancel_left, List.getElem?_cons_succ,
      List.getElem?_eq_getElem inside]

end Block

/-! ## Matches -/

namespace FunctionMatch

/-- An error tells a fault that a side of a match has. -/
inductive Faulty (m : FunctionMatch) (role : Role) : DocumentError → Prop where
  | inverted {b : Block} (member : b ∈ m.blocks role) (inverted : b.stop < b.start) :
    m.Faulty role (.inverted (m.address.on role) role b)
  | oversized {b : Block} (member : b ∈ m.blocks role)
      (oversized : Block.longest < b.stop.toNat - b.start.toNat) :
    m.Faulty role (.oversized (m.address.on role) role b)
  | overlapping {i j : Nat} {a b : Block} (different : i ≠ j)
      (first : (m.unidentified.on role)[i]? = some a) (second : (m.unidentified.on role)[j]? = some b)
      (order : a.start ≤ b.start) (overlap : b.start < a.stop)
      (inRange : ∀ b ∈ m.blocks role, b.InRange) :
    m.Faulty role (.overlapping (m.address.on role) role a.start b.start)

variable {m : FunctionMatch} {role : Role} {e : DocumentError}

theorem of_checkBlock_eq_error {b : Block} (refused : m.checkBlock role b = .error e)
    (member : b ∈ m.blocks role) : m.Faulty role e := by
  rw [checkBlock] at refused
  split at refused
  · rename_i inverted
    cases refused
    exact .inverted member inverted
  · rename_i straight
    split at refused
    · rename_i oversized
      cases refused
      rw [UInt64.toNat_sub_of_le _ _ (UInt64.not_lt.1 straight)] at oversized
      exact .oversized member oversized
    · cases refused

theorem of_checkDisjoint_eq_error {blocks : List Block}
    (refused : m.checkDisjoint role blocks = .error e) :
    ∃ before a b after, blocks = before ++ a :: b :: after ∧ b.start < a.stop ∧
      e = .overlapping (m.address.on role) role a.start b.start := by
  induction blocks with
  | nil => cases refused
  | cons a blocks ih =>
    cases blocks with
    | nil => cases refused
    | cons b blocks =>
      rw [checkDisjoint] at refused
      split at refused
      · rename_i overlap
        cases refused
        exact ⟨[], a, b, blocks, rfl, overlap, rfl⟩
      · obtain ⟨before, c, d, after, listed, found⟩ := ih refused
        exact ⟨a :: before, c, d, after, by rw [listed, List.cons_append], found⟩

/-- A side that is refused has the fault that is told. -/
theorem faulty_of_validateSide (refused : m.validateSide role = .error e) : m.Faulty role e := by
  rw [validateSide, bind_eq_error_iff, bind_eq_error_iff] at refused
  rcases refused with matched | ⟨matched, unidentified | ⟨unidentified, disjoint⟩⟩
  · obtain ⟨before, b, after, listed, -, refused⟩ := of_forM_eq_error matched
    exact of_checkBlock_eq_error refused (by simp [blocks, listed])
  · obtain ⟨before, b, after, listed, -, refused⟩ := of_forM_eq_error unidentified
    exact of_checkBlock_eq_error refused (by simp [blocks, listed])
  · simp only [forM_eq_ok_iff, checkBlock_eq_ok_iff] at matched unidentified
    obtain ⟨before, a, b, after, listed, overlap, rfl⟩ := of_checkDisjoint_eq_error disjoint
    have perm := (List.mergeSort_perm (m.unidentified.on role) Block.le).symm
    have sorted := List.pairwise_mergeSort Block.le_trans Block.le_total (m.unidentified.on role)
    rw [listed] at perm sorted
    -- neighbors in the sorted copy stand in order
    have order : Block.le a b = true :=
      List.rel_of_pairwise_cons (List.pairwise_append.1 sorted).2.1 List.mem_cons_self
    obtain ⟨i, j, different, first, second⟩ := Block.exists_places perm
    refine .overlapping different first second ?_ overlap fun c member =>
      (List.mem_append.1 member).elim (matched c) (unidentified c)
    rcases Block.le_iff.1 order with before | ⟨same, -⟩
    · exact UInt64.le_of_lt before
    · exact UInt64.le_of_eq same

/-- A match that is refused is refused for its first side with a fault. -/
theorem faulty_of_validate (refused : m.validate = .error e) :
    ∃ role, m.Faulty role e ∧ ¬m.WellFormed role ∧ (¬m.WellFormed .source → role = .source) := by
  rw [validate, bind_eq_error_iff] at refused
  have faulty {role : Role} (refused : m.validateSide role = .error e) : ¬m.WellFormed role := by
    rw [← validateSide_eq_ok_iff, refused]
    simp
  rcases refused with source | ⟨source, target⟩
  · exact ⟨.source, faulty_of_validateSide source, faulty source, fun _ => rfl⟩
  · rw [validateSide_eq_ok_iff] at source
    exact ⟨.target, faulty_of_validateSide target, faulty target, fun invalid => absurd source invalid⟩

/-! ## Other orders -/

/-- A match that lists the unidentified blocks of a side in another order, if they are in range. -/
structure Rearranged (m m' : FunctionMatch) : Prop where
  address : m'.address = m.address
  pairs : m'.pairs = m.pairs
  unidentified : ∀ role, m'.unidentified.on role = m.unidentified.on role ∨
    (m'.unidentified.on role).Perm (m.unidentified.on role) ∧
      ∀ b ∈ m.unidentified.on role, b.InRange

theorem checkDisjoint_congr {m' : FunctionMatch} (address : m'.address = m.address)
    (blocks : List Block) : m'.checkDisjoint role blocks = m.checkDisjoint role blocks := by
  induction blocks with
  | nil => rfl
  | cons a blocks ih =>
    cases blocks with
    | nil => rfl
    | cons b blocks => rw [checkDisjoint, checkDisjoint, address, ih]

theorem Rearranged.validateSide {m' : FunctionMatch} (rearranged : m.Rearranged m') (role : Role) :
    m'.validateSide role = m.validateSide role := by
  have matched : m'.matchedBlocks role = m.matchedBlocks role := by
    rw [matchedBlocks, matchedBlocks, rearranged.pairs]
  have check : m'.checkBlock role = m.checkBlock role := by
    funext b
    rw [checkBlock, checkBlock, rearranged.address]
  rw [FunctionMatch.validateSide, FunctionMatch.validateSide, matched, check]
  simp only [checkDisjoint_congr rearranged.address]
  rcases rearranged.unidentified role with same | ⟨perm, inRange⟩
  · rw [same]
  · -- blocks in range pass in any order, and the sorted copies are equal
    have passed : (m.unidentified.on role).forM (m.checkBlock role) = .ok () :=
      forM_eq_ok_iff.2 fun b member => (m.checkBlock_eq_ok_iff role).2 (inRange b member)
    have passed' : (m'.unidentified.on role).forM (m.checkBlock role) = .ok () :=
      forM_eq_ok_iff.2 fun b member =>
        (m.checkBlock_eq_ok_iff role).2 (inRange b (perm.mem_iff.1 member))
    rw [passed, passed', Block.mergeSort_congr perm]

theorem Rearranged.validate {m' : FunctionMatch} (rearranged : m.Rearranged m') :
    m'.validate = m.validate := by
  rw [FunctionMatch.validate, FunctionMatch.validate, rearranged.validateSide,
    rearranged.validateSide]

end FunctionMatch

/-- A document whose matches are rearranged. -/
def MatchDocument.Rearranged (document document' : MatchDocument) : Prop :=
  List.Forall₂ FunctionMatch.Rearranged document.functions document'.functions

theorem FunctionMatch.forM_validate_rearranged {ms ms' : List FunctionMatch}
    (rearranged : List.Forall₂ Rearranged ms ms') : ms'.forM validate = ms.forM validate := by
  induction rearranged with
  | nil => rfl
  | cons first _ ih =>
    rw [List.forM_eq_forM] at ih ⊢
    rw [List.forM_cons, List.forM_cons, first.validate, ih]

/-- A document that is refused has the fault that is told, in the first match that is not well formed,
and on its source side if that is not well formed. Listing unidentified blocks that are in range in
another order changes nothing of what is told. -/
theorem refusals_lead_to_the_fault (document : MatchDocument) :
    (∀ e, document.validate = .error e →
      ∃ before m after role, document.functions = before ++ m :: after ∧
        (∀ earlier ∈ before, ∀ role, earlier.WellFormed role) ∧
        m.Faulty role e ∧ ¬m.WellFormed role ∧ (¬m.WellFormed .source → role = .source)) ∧
    ∀ document', document.Rearranged document' → document'.validate = document.validate := by
  refine ⟨fun e refused => ?_, fun document' rearranged =>
    FunctionMatch.forM_validate_rearranged rearranged⟩
  obtain ⟨before, m, after, listed, passed, fails⟩ := of_forM_eq_error refused
  obtain ⟨role, faulty, invalid, source⟩ := FunctionMatch.faulty_of_validate fails
  exact ⟨before, m, after, role, listed,
    fun earlier member => (FunctionMatch.validate_eq_ok_iff earlier).1 (passed earlier member),
    faulty, invalid, source⟩

/-- A well-formed match, and one whose unidentified blocks are given in some order. The second block of
the source overlaps the third. -/
def MatchDocument.Sample.clashing (blocks : List Block) : MatchDocument :=
  ⟨⟨none, none⟩,
    [⟨⟨0x10, 0x20⟩, ⟨none, none⟩, [⟨⟨0, 8⟩, ⟨0, 8⟩⟩], ⟨[⟨4, 4⟩, ⟨4, 8⟩], []⟩⟩,
      ⟨⟨0x30, 0x40⟩, ⟨none, none⟩, [], ⟨blocks, [⟨8, 4⟩]⟩⟩]⟩

open MatchDocument.Sample in
/-- The overlap on the source side is told, not the block of the target that ends before it starts, and
it is told whatever the order of the blocks. -/
theorem clash_is_told_in_any_order :
    (clashing [⟨8, 9⟩, ⟨0, 4⟩, ⟨2, 6⟩]).validate = .error (.overlapping 0x30 .source 0 2) ∧
      (∃ before m after role,
        (clashing [⟨8, 9⟩, ⟨0, 4⟩, ⟨2, 6⟩]).functions = before ++ m :: after ∧
        (∀ earlier ∈ before, ∀ role, earlier.WellFormed role) ∧
        m.Faulty role (.overlapping 0x30 .source 0 2) ∧ ¬m.WellFormed role ∧
        (¬m.WellFormed .source → role = .source)) ∧
      (clashing [⟨2, 6⟩, ⟨8, 9⟩, ⟨0, 4⟩]).validate = .error (.overlapping 0x30 .source 0 2) := by
  have refused : (clashing [⟨8, 9⟩, ⟨0, 4⟩, ⟨2, 6⟩]).validate =
      .error (.overlapping 0x30 .source 0 2) := by
    cbv
  obtain ⟨fault, order⟩ := refusals_lead_to_the_fault (clashing [⟨8, 9⟩, ⟨0, 4⟩, ⟨2, 6⟩])
  refine ⟨refused, fault _ refused, (order _ ?_).trans refused⟩
  refine .cons ⟨rfl, rfl, fun role => .inl rfl⟩ (.cons ⟨rfl, rfl, fun role => ?_⟩ .nil)
  cases role with
  | source => exact .inr ⟨by decide, by decide⟩
  | target => exact .inl rfl

end Tandem
