import Tandem.Proofs.Address
import Tandem.Proofs.View.Sorting

/-! # The cells of rows

A row shows its addresses in hexadecimal and its counts in decimal, each filled up with zeros to eight
digits. Nothing is lost: a cell is never shorter than that, and behind the mark of its base it is read
back as the number that it shows.

As long as the digits fit into the width, all cells of a column have the same length, and their order as
texts is that of the numbers (`Text.padded_lt`), because the characters of digits rise with the digits,
over the gap between figures and letters too. So a column that was sorted by its numbers is sorted as it
is read. Beyond the width this fails: a longer number can come before a shorter one. -/

namespace Tandem

namespace Text

variable {base width m n : Nat}

/-! ## Digits of a fixed width -/

/-- The digits of a number, filled up with zeros to a least width. -/
def padded (base width n : Nat) : List Char := (Nat.toDigits base n).leftpad width '0'

theorem toList_zeroPadded_hex (width n : Nat) : (zeroPadded width (hex n)).toList = padded 16 width n := by
  simp [zeroPadded, hex, padded]

theorem toList_zeroPadded_decimal (width n : Nat) :
    (zeroPadded width (decimal n)).toList = padded 10 width n := by
  simp [zeroPadded, decimal, padded]

theorem le_length_padded (base width n : Nat) : width ≤ (padded base width n).length := by
  rw [padded, List.length_leftpad]
  omega

theorem length_padded (two : 1 < base) (fits : n < base ^ (width + 1)) :
    (padded base (width + 1) n).length = width + 1 := by
  have short := (Nat.length_toDigits_le_iff two (Nat.succ_pos width)).2 fits
  rw [padded, List.length_leftpad]
  omega

-- The last digit stands behind those of the quotient, with the same zeros in front of them.
theorem padded_concat (two : 1 < base) (width n : Nat) :
    padded base (width + 2) n = padded base (width + 1) (n / base) ++ [Nat.digitChar (n % base)] := by
  simp only [padded, List.leftpad]
  by_cases small : n < base
  · -- there is no quotient, and its digit is one more zero
    rw [Nat.div_eq_of_lt small, Nat.mod_eq_of_lt small, Nat.toDigits_of_lt_base small,
      Nat.toDigits_of_lt_base (Nat.zero_lt_of_lt two)]
    simp [List.replicate_succ']
  · have zeros (k : Nat) : width + 2 - (k + 1) = width + 1 - k := by omega
    rw [Nat.toDigits_of_base_le two (Nat.le_of_not_lt small), List.length_append, List.length_singleton,
      zeros, List.append_assoc]

theorem digitChar_lt {d e : Nat} (less : d < e) (small : e < 16) : Nat.digitChar d < Nat.digitChar e := by
  rw [Char.lt_def, UInt32.lt_iff_toNat_lt]
  change (Nat.digitChar d).toNat < (Nat.digitChar e).toNat
  rw [toNat_digitChar (less.trans small), toNat_digitChar small]
  split_ifs <;> omega

theorem append_lt_append {s t : List Char} (same : s.length = t.length) (less : s < t)
    (s' t' : List Char) : s ++ s' < t ++ t' := by
  induction s generalizing t with
  | nil =>
    rw [List.eq_nil_of_length_eq_zero same.symm] at less
    exact absurd less (List.lt_irrefl _)
  | cons c s ih =>
    cases t with
    | nil => cases same
    | cons d t =>
      rw [List.cons_lt_cons_iff] at less
      rw [List.cons_append, List.cons_append, List.cons_lt_cons_iff]
      exact less.imp_right fun ⟨first, rest⟩ => ⟨first, ih (Nat.succ.inj same) rest⟩

/-- Among numbers whose digits fit into the width, the greater one has the greater text. -/
theorem padded_lt (two : 1 < base) (low : base ≤ 16) (less : m < n) (fits : n < base ^ (width + 1)) :
    padded base (width + 1) m < padded base (width + 1) n := by
  -- on the width: either the quotients tell the numbers apart, or they agree and the last digits do
  induction width generalizing m n with
  | zero =>
    rw [Nat.zero_add, Nat.pow_one] at fits
    simp only [padded, Nat.toDigits_of_lt_base fits, Nat.toDigits_of_lt_base (less.trans fits)]
    exact List.cons_lt_cons_iff.2 (.inl (digitChar_lt less (by omega)))
  | succ width ih =>
    have fits' : n / base < base ^ (width + 1) := Nat.div_lt_of_lt_mul (by rwa [← Nat.pow_succ'])
    rw [padded_concat two, padded_concat two]
    rcases Nat.lt_or_eq_of_le (Nat.div_le_div_right less.le) with quotients | quotients
    · have same : (padded base (width + 1) (m / base)).length = (padded base (width + 1) (n / base)).length := by
        rw [length_padded two (quotients.trans fits'), length_padded two fits']
      exact append_lt_append same (ih quotients fits') _ _
    · have last : m % base < n % base := by
        have := Nat.div_add_mod m base
        have := Nat.div_add_mod n base
        rw [quotients] at *
        omega
      have small : n % base < 16 := (Nat.mod_lt n (by omega)).trans_le low
      rw [quotients]
      exact List.append_left_lt (List.cons_lt_cons_iff.2 (.inl (digitChar_lt last small)))

theorem compare_of_padded {s t : String} (two : 1 < base) (low : base ≤ 16)
    (written : s.toList = padded base (width + 1) m) (written' : t.toList = padded base (width + 1) n)
    (fits : m < base ^ (width + 1)) (fits' : n < base ^ (width + 1)) : compare s t = compare m n := by
  have rises : StrictMonoOn (fun n => String.ofList (padded base (width + 1) n)) {n | n < base ^ (width + 1)} := by
    intro m _ n bounded less
    rw [String.lt_iff_toList_lt, String.toList_ofList, String.toList_ofList]
    exact padded_lt two low less bounded
  have ordered := rises.cmp_map_eq fits fits'
  rw [cmp_eq_compare, cmp_eq_compare] at ordered
  simpa only [← written, ← written', String.ofList_toList] using ordered

/-! ## Reading digits back -/

theorem toLower_digitChar {d : Nat} (small : d < 16) : (Nat.digitChar d).toLower = Nat.digitChar d := by
  decide +revert

theorem digitChar_ne_underscore {d : Nat} (small : d < 16) : Nat.digitChar d ≠ '_' := by
  decide +revert

theorem exists_of_mem_padded (two : 1 < base) {c : Char} (member : c ∈ padded base width n) :
    ∃ d < base, c = Nat.digitChar d := by
  rcases List.mem_append.1 member with front | back
  · exact ⟨0, by omega, List.eq_of_mem_replicate front⟩
  · obtain ⟨ds, spelled, bounded, -⟩ := exists_toDigits two n
    rw [spelled] at back
    obtain ⟨d, there, rfl⟩ := List.mem_map.1 back
    exact ⟨d, bounded d there, rfl⟩

end Text

namespace Address

theorem compare_eq (a b : Address) : compare a b = compare a.toNat b.toNat := by
  change compareOfLessAndEq a b = compareOfLessAndEq a.toNat b.toNat
  simp only [compareOfLessAndEq, UInt64.lt_iff_toNat_lt, ← UInt64.toNat_inj]

/-- The digits of an address are read back behind a mark of their base, and decimal ones without a mark. -/
theorem ofText_of_padded {mark digits : String} {base width : Nat} {a : Address}
    (known : (mark.toList, base) ∈ ([], 10) :: marks)
    (written : digits.toList = Text.padded base width a.toNat) : ofText (mark ++ digits) = .ok a := by
  obtain ⟨two, low⟩ := base_of_mem_marks known
  have figure {c : Char} (member : c ∈ digits.toList) : ∃ d < 16, c = Nat.digitChar d := by
    rw [written] at member
    obtain ⟨d, small, rfl⟩ := Text.exists_of_mem_padded two member
    exact ⟨d, small.trans_le low, rfl⟩
  -- neither the mark nor the digits have underscores, and the digits are in lower case already
  have marks_plain : ∀ m ∈ ([], 10) :: marks, ∀ c ∈ m.1, c ≠ '_' := by simp [marks]
  have plain : (mark.toList ++ [] ++ digits.toList).filter (· ≠ '_') = mark.toList ++ [] ++ digits.toList := by
    simp only [List.append_nil, List.filter_eq_self, List.mem_append, decide_eq_true_eq]
    rintro c (front | back)
    · exact marks_plain _ known c front
    · obtain ⟨d, small, rfl⟩ := figure back
      exact Text.digitChar_ne_underscore small
  have lower : digits.toList.map Char.toLower = digits.toList := by
    refine (List.map_congr_left fun c member => ?_).trans (List.map_id _)
    obtain ⟨d, small, rfl⟩ := figure member
    exact Text.toLower_digitChar small
  have writes : Writes a ([] ++ (mark.toList ++ [] ++ digits.toList) ++ []) :=
    .intro (by simp) plain known (by simp [signs]) (lower.trans written)
  apply ofText_of_parse
  apply parse_of_writes
  simpa using writes

end Address

/-! ## Columns of numbers -/

namespace SortColumn

/-- The place of a column among the cells of a row. -/
def position : SortColumn → Nat
  | .ownName => 0
  | .ownAddress => 1
  | .peerName => 2
  | .peerAddress => 3
  | .matched => 4
  | .ownUnidentified => 5
  | .peerUnidentified => 6

def cell (column : SortColumn) (r : Row) : String := r.cells.getD column.position ""

/-- The columns of numbers: the mark and the base that the numbers are written in, and the number that a
row has there. -/
inductive Numeric : SortColumn → String → Nat → (Row → Nat) → Prop
  | ownAddress : Numeric .ownAddress "0x" 16 fun r => r.ownAddress.toNat
  | peerAddress : Numeric .peerAddress "0x" 16 fun r => r.peerAddress.toNat
  | matched : Numeric .matched "" 10 Row.matched
  | ownUnidentified : Numeric .ownUnidentified "" 10 Row.ownUnidentified
  | peerUnidentified : Numeric .peerUnidentified "" 10 Row.peerUnidentified

namespace Numeric

variable {column : SortColumn} {mark : String} {base : Nat} {number : Row → Nat}
  (numeric : column.Numeric mark base number)
include numeric

theorem mem_marks : (mark.toList, base) ∈ ([], 10) :: Address.marks := by
  cases numeric <;> decide

theorem toList_cell (r : Row) : (column.cell r).toList = Text.padded base Row.cellWidth (number r) := by
  cases numeric with
  | ownAddress | peerAddress => exact Text.toList_zeroPadded_hex _ _
  | matched | ownUnidentified | peerUnidentified => exact Text.toList_zeroPadded_decimal _ _

theorem le_length_cell (r : Row) : Row.cellWidth ≤ (column.cell r).length := by
  rw [← String.length_toList, numeric.toList_cell]
  exact Text.le_length_padded _ _ _

theorem ofText_cell {r : Row} {a : Address} (same : a.toNat = number r) :
    Address.ofText (mark ++ column.cell r) = .ok a :=
  Address.ofText_of_padded numeric.mem_marks (same ▸ numeric.toList_cell r)

theorem compare_eq (a b : Row) : column.compare a b = Ord.compare (number a) (number b) := by
  cases numeric with
  | ownAddress | peerAddress => exact Address.compare_eq _ _
  | matched | ownUnidentified | peerUnidentified => rfl

theorem compare_cell {a b : Row} (fits : number a < base ^ Row.cellWidth)
    (fits' : number b < base ^ Row.cellWidth) :
    Ord.compare (column.cell a) (column.cell b) = column.compare a b := by
  obtain ⟨two, low⟩ := Address.base_of_mem_marks numeric.mem_marks
  rw [numeric.compare_eq]
  exact Text.compare_of_padded two low (numeric.toList_cell a) (numeric.toList_cell b) fits fits'

theorem pairwise_cell_sort {rows : List Row} (fits : ∀ r ∈ rows, number r < base ^ Row.cellWidth)
    (descending : Bool) :
    ((column.sort descending rows).map column.cell).Pairwise fun s t => if descending then t ≤ s else s ≤ t := by
  have ordered := Sorting.pairwise_sort ⟨column, descending⟩ rows
  have fits' {r : Row} (member : r ∈ column.sort descending rows) : number r < base ^ Row.cellWidth :=
    fits r ((Sorting.sort_perm ⟨column, descending⟩ rows).mem_iff.1 member)
  rw [List.pairwise_map]
  refine ordered.imp_of_mem fun {a b} here there le => ?_
  have texts := numeric.compare_cell (fits' here) (fits' there)
  simp only [Sorting.compare, ← texts] at le
  cases descending with
  | false => exact compare_le_iff_le.1 (Ordering.isLE_iff_ne_gt.1 le)
  | true =>
    rw [if_pos rfl, Ordering.isLE_swap] at le
    exact compare_ge_iff_ge.1 (Ordering.isGE_iff_ne_lt.1 le)

end Numeric

/-- What a row shows of a number is read back, however long it is. While the digits of a column fit into
the width of its cells, the cells are in the order of the column as texts too, so that the column, once it
was sorted, is sorted as it is read. -/
theorem cells_are_faithful {column : SortColumn} {mark : String} {base : Nat} {number : Row → Nat}
    (numeric : column.Numeric mark base number) :
    (∀ r, 8 ≤ (column.cell r).length ∧
      ∀ a : Address, a.toNat = number r → Address.ofText (mark ++ column.cell r) = .ok a) ∧
    (∀ a b, number a < base ^ 8 → number b < base ^ 8 →
      Ord.compare (column.cell a) (column.cell b) = column.compare a b) ∧
    ∀ (rows : List Row) (descending : Bool), (∀ r ∈ rows, number r < base ^ 8) →
      ((column.sort descending rows).map column.cell).Pairwise fun s t =>
        if descending then t ≤ s else s ≤ t := by
  refine ⟨fun r => ⟨numeric.le_length_cell r, fun a same => numeric.ofText_cell same⟩, ?_, ?_⟩
  · intro a b fits fits'
    exact numeric.compare_cell fits fits'
  · intro rows descending fits
    exact numeric.pairwise_cell_sort fits descending

end SortColumn

namespace Row.Sample

/-- The last address without a letter, one with as many digits as there are, the last count that fits, and
one with zeros in front. -/
def low : Row := ⟨0, "", 0x9fffffff, "", 0xffffffffffffffff, 99999999, 10, 0⟩

/-- The first address with a letter in front, and the first count that does not fit. -/
def high : Row := ⟨1, "", 0xa0000000, "", 0, 100000000, 0, 0⟩

end Row.Sample

open Row.Sample in
theorem SortColumn.letters_follow_figures :
    Numeric .ownAddress "0x" 16 (fun r => r.ownAddress.toNat) ∧
      (∀ r ∈ [low, high], r.ownAddress.toNat < 16 ^ 8) ∧
      Ord.compare "9fffffff" "a0000000" = SortColumn.compare .ownAddress low high ∧
      ((SortColumn.sort .ownAddress true [low, high]).map (cell .ownAddress)).Pairwise (· ≥ ·) ∧
      Address.ofText "0xffffffffffffffff" = .ok 0xffffffffffffffff ∧
      Address.ofText "00000010" = .ok 10 := by
  obtain ⟨-, order, sorted⟩ := cells_are_faithful .ownAddress
  obtain ⟨addresses, -, -⟩ := cells_are_faithful .peerAddress
  obtain ⟨counts, -, -⟩ := cells_are_faithful .ownUnidentified
  have fits : ∀ r ∈ [low, high], r.ownAddress.toNat < 16 ^ 8 := by decide
  exact ⟨.ownAddress, fits, order low high (by decide) (by decide), sorted _ true fits,
    (addresses low).2 0xffffffffffffffff rfl, (counts low).2 10 rfl⟩

open Row.Sample in
-- counts that do not fit are out of order as texts
example : compare (SortColumn.cell .matched high) (SortColumn.cell .matched low) = .lt ∧
    SortColumn.compare .matched high low = .gt := by
  decide

end Tandem
