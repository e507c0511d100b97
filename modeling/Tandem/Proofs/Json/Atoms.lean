import Tandem.Json.Reading
import Tandem.Json.Text

/-! # Reading numbers and strings back

The text of an integer that fits a machine word is read as this integer, and the text of a string as
this string, whatever follows. Behind a number there must be nothing that could belong to it. -/

namespace Tandem

open Text (Symbol)

/-! ## Bytes -/

theorem Text.fromUTF8?_toUTF8 (s : String) : String.fromUTF8? s.toUTF8 = some s := by
  have valid : s.toUTF8.IsValidUTF8 := s.isValidUTF8
  rw [String.fromUTF8?, dif_pos valid]
  rfl

theorem Text.Symbol.ofBytes_toUTF8 (s : String) : Symbol.ofBytes s.toUTF8 = Symbol.ofString s := by
  rw [Symbol.ofBytes, Text.fromUTF8?_toUTF8]
  rfl

/-! ## Digits -/

/-- The decimal digits of a number. -/
def Text.digits (n : Nat) : List Nat := (Nat.toDigits 10 n).map fun c => c.toNat - 48

theorem Text.digits_of_lt {n : Nat} (small : n < 10) : Text.digits n = [n] := by
  rw [Text.digits, Nat.toDigits_of_lt_base small]
  decide +revert

theorem Text.digits_of_le {n : Nat} (large : 10 ≤ n) :
    Text.digits n = Text.digits (n / 10) ++ [n % 10] := by
  have last := Text.digits_of_lt (Nat.mod_lt n (by decide : 0 < 10))
  rw [Text.digits, Nat.toDigits_of_lt_base (Nat.mod_lt n (by decide))] at last
  rw [Text.digits, Nat.toDigits_of_base_le (by decide) large, List.map_append, last, Text.digits]

/-- No number but zero starts with the digit zero. -/
theorem Text.head_digits {n : Nat} (positive : 0 < n) :
    ∃ d rest, Text.digits n = d :: rest ∧ d ≠ 0 := by
  induction n using Nat.strongRecOn with
  | ind n ih =>
    by_cases small : n < 10
    · exact ⟨n, [], Text.digits_of_lt small, by omega⟩
    · obtain ⟨d, rest, split, nonzero⟩ := ih (n / 10) (by omega) (by omega)
      exact ⟨d, rest ++ [n % 10], by rw [Text.digits_of_le (by omega), split]; rfl, nonzero⟩

namespace Reading

theorem ofDigits_digits (n : Nat) : ofDigits (Text.digits n) = n := by
  induction n using Nat.strongRecOn with
  | ind n ih =>
    by_cases small : n < 10
    · rw [Text.digits_of_lt small]
      simp [ofDigits]
    · have front := ih (n / 10) (by omega)
      rw [ofDigits] at front ⊢
      rw [Text.digits_of_le (by omega), List.foldl_append, front]
      simp only [List.foldl_cons, List.foldl_nil]
      omega

/-- A text that cannot go on with a number. -/
def Stops (text : List Symbol) : Prop :=
  ∀ x ∈ text.head?, digit? x = none ∧ x ≠ .char '.' ∧ x ≠ .char 'e' ∧ x ≠ .char 'E'

theorem stops_nil : Stops [] := nofun

theorem digit?_of_isDigit {c : Char} (digit : c.isDigit = true) :
    digit? (.char c) = some (c.toNat - 48) := by
  simp only [Char.isDigit, Bool.and_eq_true, decide_eq_true_eq] at digit
  exact if_pos digit

theorem scanDigits_append {cs : List Char} {rest : List Symbol}
    (digits : ∀ c ∈ cs, c.isDigit = true) (stops : Stops rest) :
    scanDigits (cs.map .char ++ rest) = (cs.map fun c => c.toNat - 48, rest) := by
  induction cs with
  | nil =>
    cases rest with
    | nil => rfl
    | cons x rest =>
      have none := (stops x rfl).1
      simp [scanDigits, none]
  | cons c cs ih =>
    have first := digit?_of_isDigit (digits c List.mem_cons_self)
    have others := ih fun d member => digits d (List.mem_cons_of_mem _ member)
    simp [scanDigits, first, others]

/-! ## Numbers -/

theorem scanWhole_digits (n : Nat) {rest : List Symbol} (stops : Stops rest) :
    scanWhole ((Nat.toDigits 10 n).map .char ++ rest) = some (Text.digits n, rest) := by
  have scanned : scanDigits ((Nat.toDigits 10 n).map .char ++ rest) = (Text.digits n, rest) :=
    scanDigits_append (fun c => Nat.isDigit_of_mem_toDigits (by decide) (by decide)) stops
  rw [scanWhole, scanned]
  by_cases zero : n = 0
  · subst zero
    rfl
  · obtain ⟨d, others, split, nonzero⟩ := Text.head_digits (by omega : 0 < n)
    rw [split]
    cases d with
    | zero => exact absurd rfl nonzero
    | succ d => rfl

theorem scanFraction_of_stops {rest : List Symbol} (stops : Stops rest) :
    scanFraction rest = some (none, rest) := by
  unfold scanFraction
  split
  · exact absurd rfl (stops _ rfl).2.1
  · rfl

theorem scanExponent_of_stops {rest : List Symbol} (stops : Stops rest) :
    scanExponent rest = some (none, rest) := by
  unfold scanExponent
  split
  · exact absurd rfl (stops _ rfl).2.2.1
  · exact absurd rfl (stops _ rfl).2.2.2
  · rfl

theorem scanMagnitude_digits (negative : Bool) (n : Nat) {rest : List Symbol} (stops : Stops rest) :
    scanMagnitude negative ((Nat.toDigits 10 n).map .char ++ rest) =
      some (⟨negative, Text.digits n, none, none⟩, rest) := by
  simp [scanMagnitude, scanWhole_digits n stops, scanFraction_of_stops stops,
    scanExponent_of_stops stops]

end Reading

namespace Json.Numeral

theorem le_foldl_digits (s : Nat) (ds : List Nat) : s ≤ ds.foldl (fun n d => n * 10 + d) s := by
  induction ds generalizing s with
  | nil => exact Nat.le_refl s
  | cons d ds ih => exact Nat.le_trans (by omega) (ih (s * 10 + d))

theorem gather_eq {s : Nat} {ds : List Nat}
    (fits : ds.foldl (fun n d => n * 10 + d) s ≤ greatest) :
    gather s ds = (ds.foldl (fun n d => n * 10 + d) s, 0) := by
  induction ds generalizing s with
  | nil => rfl
  | cons d ds ih =>
    have first := Nat.le_trans (le_foldl_digits (s * 10 + d) ds) fits
    rw [gather, if_pos first, ih fits, List.foldl_cons]

theorem parts_digits (negative : Bool) {n : Nat} (fits : n ≤ greatest) :
    parts ⟨negative, Text.digits n, none, none⟩ = (n, 0) := by
  have value : (Text.digits n).foldl (fun n d => n * 10 + d) 0 = n := Reading.ofDigits_digits n
  have gathered : gather 0 (Text.digits n) = (n, 0) := by
    rw [gather_eq (by rw [value]; exact fits), value]
  simp [parts, gathered, gather]

end Json.Numeral

/-- Integers that fit a machine word, with or without a sign. -/
def Json.Number.Fits : Json.Number → Prop
  | .integer i => -(UInt64.size : Int) ≤ 2 * i ∧ i < UInt64.size
  | .real _ => False

namespace Reading

theorem scanNumeral_digits (n : Nat) {rest : List Symbol} (stops : Stops rest) :
    scanNumeral ((Nat.toDigits 10 n).map .char ++ rest) =
      some (⟨false, Text.digits n, none, none⟩, rest) := by
  have scanned := scanMagnitude_digits false n stops
  unfold scanNumeral
  split
  -- a text of digits has no minus in front
  · rename_i tail minus
    cases text : Nat.toDigits 10 n with
    | nil => exact absurd text Nat.toDigits_ne_nil
    | cons c cs =>
      have digit : c.isDigit = true :=
        Nat.isDigit_of_mem_toDigits (by decide) (by decide) (text ▸ List.mem_cons_self)
      rw [text] at minus
      cases minus
      exact absurd digit (by decide)
  · exact scanned

theorem ofNumeral_signed {i : Int} (fits : (Json.Number.integer i).Fits) {rest : List Symbol}
    (stops : Stops rest) :
    ofNumeral ((Text.signed i).toList.map .char ++ rest) =
      (.number (some (.integer i)), some rest) := by
  obtain ⟨low, high⟩ := fits
  cases i with
  | ofNat n =>
    have inWord : n ≤ Json.Numeral.greatest := by
      simp only [Int.ofNat_eq_natCast, Json.Numeral.greatest] at high ⊢
      omega
    simp [ofNumeral, Text.signed, Text.decimal, scanNumeral_digits n stops, Json.Numeral.value?,
      Json.Numeral.parts_digits false inWord]
  | negSucc n =>
    have inWord : n + 1 ≤ Json.Numeral.greatest := by
      simp only [UInt64.size, Json.Numeral.greatest] at low ⊢
      omega
    -- below zero there is only half as much room
    have half : 2 * (n + 1) ≤ UInt64.size := by
      simp only [UInt64.size] at low ⊢
      omega
    simp [ofNumeral, Text.signed, Text.decimal, scanNumeral, scanMagnitude_digits true (n + 1) stops,
      Json.Numeral.value?, Json.Numeral.parts_digits true inWord, half]
    omega

/-! ## Strings -/

/-- A piece that stands for a character. -/
def Piece.Spells (p : Piece) (c : Char) : Prop :=
  ∀ pieces, assemble (p :: pieces) = (assemble pieces).map (c :: ·)

theorem spells_char (c : Char) : (Piece.char c).Spells c := by
  intro pieces
  rfl

theorem spells_unit {c : Char} (control : c.toNat < 0x20) : (Piece.unit c.toNat).Spells c := by
  intro pieces
  have scalar : c.toNat < 0xD800 ∨ 0xDFFF < c.toNat := .inl (by omega)
  rw [assemble.eq_def]
  simp only [scalar, if_true, Char.ofNat_toNat]

theorem readDigits?_control {n : Nat} (control : n < 0x20) :
    Text.readDigits? 16 ['0', '0', Nat.digitChar (n / 16), Nat.digitChar (n % 16)] = some n := by
  decide +revert

/-- Every character of a text is read back as one piece. -/
theorem scanPieces_escapedChar (c : Char) :
    ∃ p : Piece, p.Spells c ∧ ∀ rest,
      scanPieces ((Json.escapedChar c).map .char ++ rest) = consPiece p (scanPieces rest) := by
  by_cases short : c ∈ ['"', '\\', '\x08', '\x0c', '\n', '\r', '\t']
  · refine ⟨.char c, spells_char c, ?_⟩
    intro rest
    simp only [List.mem_cons, List.not_mem_nil, or_false] at short
    rcases short with rfl | rfl | rfl | rfl | rfl | rfl | rfl <;> rfl
  · simp only [List.mem_cons, List.not_mem_nil, or_false, not_or] at short
    obtain ⟨quote, slash, bell, feed, line, carriage, tab⟩ := short
    by_cases control : c.toNat < 0x20
    · refine ⟨.unit c.toNat, spells_unit control, ?_⟩
      intro rest
      simp [Json.escapedChar, scanPieces, quote, slash, bell, feed, line, carriage, tab, control,
        readDigits?_control control]
    · refine ⟨.char c, spells_char c, ?_⟩
      intro rest
      simp only [Json.escapedChar, quote, slash, bell, feed, line, carriage, tab, control, if_false,
        List.map_cons, List.map_nil, List.cons_append, List.nil_append]
      rw [scanPieces.eq_def]
      simp only [quote, slash, control, if_false]

theorem scanPieces_escaped (cs : List Char) (rest : List Symbol) :
    ∃ pieces, assemble pieces = some cs ∧
      scanPieces ((cs.flatMap Json.escapedChar).map .char ++ .char '"' :: rest) =
        some (pieces, rest) := by
  induction cs with
  | nil =>
    refine ⟨[], rfl, ?_⟩
    rw [List.flatMap_nil, List.map_nil, List.nil_append, scanPieces.eq_def]
    rfl
  | cons c cs ih =>
    obtain ⟨pieces, spelled, scanned⟩ := ih
    obtain ⟨p, spells, reads⟩ := scanPieces_escapedChar c
    refine ⟨p :: pieces, ?_, ?_⟩
    · rw [spells, spelled]
      rfl
    · rw [List.flatMap_cons, List.map_append, List.append_assoc, reads, scanned]
      rfl

/-- A string in quotes is read back behind its opening quote. -/
theorem scanString_quotedText (s : String) (rest : List Symbol) :
    scanString ((s.toList.flatMap Json.escapedChar).map .char ++ .char '"' :: rest) =
      some (some s, rest) := by
  obtain ⟨pieces, spelled, scanned⟩ := scanPieces_escaped s.toList rest
  simp [scanString, scanned, spelled]

end Reading

end Tandem
