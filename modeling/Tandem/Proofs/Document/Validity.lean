import Mathlib.Data.List.Chain
import Tandem.Document.Validity

/-! # Which documents are valid

A document is checked one block after the other, and overlaps are sought between neighbors only, once
the unidentified blocks of a side are sorted. That suffices: in a sorted list of blocks that do not end
before they start, the ends rise along with the starts, so that blocks which leave their neighbors alone
leave all others alone. Empty blocks need care, since they may share their start with other blocks. The
order by ends puts them in front of those. -/

namespace Tandem

/-! ## Blocks -/

namespace Block

/-- A block that does not end before it starts and is not too long. -/
def InRange (b : Block) : Prop := b.start ≤ b.stop ∧ b.stop.toNat - b.start.toNat ≤ longest

/-- One of two blocks ends at or before the start of the other. -/
def Apart (a b : Block) : Prop := a.stop ≤ b.start ∨ b.stop ≤ a.start

variable {a b : Block}

theorem Apart.symm (apart : a.Apart b) : b.Apart a := Or.symm apart

theorem le_iff : le a b = true ↔ a.start < b.start ∨ a.start = b.start ∧ a.stop ≤ b.stop := by
  simp [le]

theorem le_trans (a b c : Block) (first : le a b = true) (second : le b c = true) :
    le a c = true := by
  simp only [le_iff, UInt64.lt_iff_toNat_lt, UInt64.le_iff_toNat_le, ← UInt64.toNat_inj] at *
  omega

theorem le_total (a b : Block) : (le a b || le b a) = true := by
  simp only [Bool.or_eq_true, le_iff, UInt64.lt_iff_toNat_lt, UInt64.le_iff_toNat_le,
    ← UInt64.toNat_inj]
  omega

/-- Of two blocks that are apart, the one that goes first ends where the other starts or before. -/
theorem stop_le_of_le (straight : b.start ≤ b.stop) (order : le a b = true) (apart : a.Apart b) :
    a.stop ≤ b.start := by
  -- if the second ends before the first starts, both start in one place and both are empty
  rw [le_iff] at order
  simp only [Apart, UInt64.lt_iff_toNat_lt, UInt64.le_iff_toNat_le, ← UInt64.toNat_inj] at *
  omega

/-- A chain of blocks in which each ends before the next one starts. -/
theorem pairwise_of_isChain {blocks : List Block} (straight : ∀ b ∈ blocks, b.start ≤ b.stop)
    (chain : blocks.IsChain fun a b => a.stop ≤ b.start) :
    blocks.Pairwise fun a b => a.stop ≤ b.start := by
  induction blocks with
  | nil => exact .nil
  | cons a blocks ih =>
    have rest := ih (fun b member => straight b (List.mem_cons_of_mem _ member)) chain.tail
    cases blocks with
    | nil => exact List.pairwise_singleton _ a
    | cons b blocks =>
      obtain ⟨near, -⟩ := List.isChain_cons_cons.1 chain
      refine List.pairwise_cons.2 ⟨fun c member => ?_, rest⟩
      rcases List.mem_cons.1 member with rfl | later
      · exact near
      · calc a.stop ≤ b.start := near
          _ ≤ b.stop := straight b (by simp)
          _ ≤ c.start := List.rel_of_pairwise_cons rest later

/-- A chain in sorted order keeps all blocks apart. -/
theorem isChain_iff_apart {blocks : List Block} (straight : ∀ b ∈ blocks, b.start ≤ b.stop)
    (sorted : blocks.Pairwise (le · ·)) :
    (blocks.IsChain fun a b => a.stop ≤ b.start) ↔ blocks.Pairwise Apart := by
  constructor
  · intro chain
    exact (pairwise_of_isChain straight chain).imp .inl
  · intro apart
    apply List.Pairwise.isChain
    refine (sorted.and apart).imp_of_mem fun {a b} _ member both => ?_
    exact stop_le_of_le (straight b member) both.1 both.2

theorem pairwise_apart_iff {blocks : List Block} :
    blocks.Pairwise Apart ↔
      ∀ (i j : Nat) (a b : Block), i ≠ j → blocks[i]? = some a → blocks[j]? = some b → a.Apart b := by
  rw [List.pairwise_iff_getElem]
  constructor
  · intro apart i j a b different atI atJ
    obtain ⟨inI, rfl⟩ := List.getElem?_eq_some_iff.1 atI
    obtain ⟨inJ, rfl⟩ := List.getElem?_eq_some_iff.1 atJ
    rcases Nat.lt_or_gt_of_ne different with before | behind
    · exact apart i j inI inJ before
    · exact (apart j i inJ inI behind).symm
  · intro apart i j inI inJ before
    exact apart i j _ _ (Nat.ne_of_lt before) (List.getElem?_eq_getElem inI)
      (List.getElem?_eq_getElem inJ)

end Block

/-! ## Checks -/

section

variable {ε α : Type}

theorem bind_eq_ok_iff {x y : Except ε Unit} :
    (do x; y) = .ok () ↔ x = .ok () ∧ y = .ok () := by
  cases x with
  | error e => simp [bind, Except.bind]
  | ok u => simp [bind, Except.bind]

theorem forM_eq_ok_iff {f : α → Except ε Unit} {items : List α} :
    items.forM f = .ok () ↔ ∀ a ∈ items, f a = .ok () := by
  induction items with
  | nil => simp [pure, Except.pure]
  | cons a items ih =>
    rw [List.forM_eq_forM] at ih ⊢
    rw [List.forM_cons, bind_eq_ok_iff, ih, List.forall_mem_cons]

end

namespace FunctionMatch

variable (m : FunctionMatch) (role : Role)

/-- The blocks of a side, the matched ones first. -/
def blocks : List Block := m.matchedBlocks role ++ m.unidentified.on role

theorem checkBlock_eq_ok_iff {b : Block} : m.checkBlock role b = .ok () ↔ b.InRange := by
  rw [checkBlock, Block.InRange]
  by_cases inverted : b.stop < b.start
  · simp [inverted]
  · have straight : b.start ≤ b.stop := UInt64.not_lt.1 inverted
    simp [inverted, straight, UInt64.toNat_sub_of_le b.stop b.start straight]

theorem checkDisjoint_eq_ok_iff {blocks : List Block} :
    m.checkDisjoint role blocks = .ok () ↔ blocks.IsChain fun a b => a.stop ≤ b.start := by
  induction blocks with
  | nil => simp [checkDisjoint]
  | cons a blocks ih =>
    cases blocks with
    | nil => simp [checkDisjoint]
    | cons b blocks =>
      rw [checkDisjoint, List.isChain_cons_cons, ← ih]
      by_cases overlap : b.start < a.stop
      · simp [overlap]
      · simp [overlap, UInt64.not_lt.1 overlap]

/-- Sorting changes neither which blocks there are nor whether they are apart. -/
theorem checkDisjoint_mergeSort {blocks : List Block} (straight : ∀ b ∈ blocks, b.start ≤ b.stop) :
    m.checkDisjoint role (blocks.mergeSort Block.le) = .ok () ↔ blocks.Pairwise Block.Apart := by
  have perm := List.mergeSort_perm blocks Block.le
  have sorted := List.pairwise_mergeSort Block.le_trans Block.le_total blocks
  rw [checkDisjoint_eq_ok_iff,
    Block.isChain_iff_apart (fun b member => straight b (perm.mem_iff.1 member)) sorted]
  exact perm.pairwise_iff Block.Apart.symm

/-- The blocks of a side are in range, and no two of the unidentified ones overlap. -/
structure WellFormed : Prop where
  inRange : ∀ b ∈ m.blocks role, b.InRange
  apart : ∀ (i j : Nat) (a b : Block), i ≠ j → (m.unidentified.on role)[i]? = some a →
    (m.unidentified.on role)[j]? = some b → a.stop ≤ b.start ∨ b.stop ≤ a.start

theorem validateSide_eq_ok_iff : m.validateSide role = .ok () ↔ m.WellFormed role := by
  rw [validateSide, bind_eq_ok_iff, bind_eq_ok_iff, forM_eq_ok_iff,
    forM_eq_ok_iff]
  simp only [checkBlock_eq_ok_iff]
  constructor
  · rintro ⟨matched, unidentified, disjoint⟩
    rw [checkDisjoint_mergeSort m role fun b member => (unidentified b member).1] at disjoint
    exact ⟨fun b member => (List.mem_append.1 member).elim (matched b) (unidentified b),
      Block.pairwise_apart_iff.1 disjoint⟩
  · rintro ⟨inRange, apart⟩
    have unidentified b (member : b ∈ m.unidentified.on role) : b.InRange :=
      inRange b (List.mem_append_right _ member)
    refine ⟨fun b member => inRange b (List.mem_append_left _ member), unidentified, ?_⟩
    rw [checkDisjoint_mergeSort m role fun b member => (unidentified b member).1]
    exact Block.pairwise_apart_iff.2 apart

theorem validate_eq_ok_iff : m.validate = .ok () ↔ ∀ role, m.WellFormed role := by
  rw [validate, bind_eq_ok_iff, validateSide_eq_ok_iff, validateSide_eq_ok_iff]
  constructor
  · rintro ⟨source, target⟩ role
    cases role with
    | source => exact source
    | target => exact target
  · intro both
    exact ⟨both .source, both .target⟩

end FunctionMatch

/-- Exactly the well-formed documents are accepted. -/
theorem well_formed_documents_are_accepted (document : MatchDocument) :
    document.validate = .ok () ↔ ∀ m ∈ document.functions, ∀ role, m.WellFormed role := by
  rw [MatchDocument.validate, forM_eq_ok_iff]
  simp only [FunctionMatch.validate_eq_ok_iff]

-- an empty block may stand at either end of another block, but not inside it
example :
    let side (b : Block) : FunctionMatch := ⟨⟨0, 0⟩, ⟨none, none⟩, [], ⟨[⟨4, 8⟩, b, b], []⟩⟩
    (side ⟨4, 4⟩).validate = .ok () ∧ (side ⟨8, 8⟩).validate = .ok () ∧
      (side ⟨6, 6⟩).validate = .error (.overlapping 0 .source 4 6) := by
  cbv

end Tandem
