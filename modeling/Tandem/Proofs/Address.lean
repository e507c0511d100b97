import Mathlib.Data.List.DropRight
import Mathlib.Data.Nat.Digits.Lemmas
import Mathlib.Tactic.Ring
import Mathlib.Tactic.SplitIfs
import Tandem.Host.Error
import Tandem.Proofs.Json.Decode

/-! # The grammar of addresses

An address is written as digits of one of four bases. A mark in front tells the base, and without one it
is ten. Between mark and digits there may be a plus sign. Blanks around all this and underscores anywhere
in it do not count.

* `Text.Digits` says which number digits of a base denote, without reading them one by one, and
  `Text.readDigits?_eq_some_iff` compares this with how they are read.
* `Address.Spells` is the grammar, and `Address.Judged` tells what of a text is judged by it.
* `Address.Writes` lists the ways to write an address. -/

namespace Tandem

/-! ## Digits -/

namespace Text

/-- Digits of a base, the letters among them in either case, that denote a number. -/
def Digits (base : Nat) (s : List Char) (n : Nat) : Prop :=
  s ≠ [] ∧ ∃ ds : List Nat, s.map Char.toLower = ds.map Nat.digitChar ∧ (∀ d ∈ ds, d < base) ∧
    Nat.ofDigits base ds.reverse = n

theorem toNat_toLower (c : Char) :
    c.toLower.toNat = if 65 ≤ c.toNat ∧ c.toNat ≤ 90 then c.toNat + 32 else c.toNat := by
  have a : 'A'.val.toNat = 65 := rfl
  have z : 'Z'.val.toNat = 90 := rfl
  have shift : ('a'.val - 'A'.val).toNat = 32 := rfl
  unfold Char.toLower
  split
  · rename_i capital
    obtain ⟨least, most⟩ := capital
    simp only [ge_iff_le, UInt32.le_iff_toNat_le, Char.toNat, UInt32.toNat_add] at least most ⊢
    rw [if_pos (by omega)]
    omega
  · rename_i other
    simp only [ge_iff_le, UInt32.le_iff_toNat_le, Char.toNat] at other ⊢
    rw [if_neg (by omega)]

theorem toNat_digitChar {d : Nat} (small : d < 16) :
    (Nat.digitChar d).toNat = if d < 10 then d + 48 else d + 87 := by
  decide +revert

theorem digitValue?_eq (c : Char) :
    digitValue? c =
      if 48 ≤ c.toNat ∧ c.toNat ≤ 57 then some (c.toNat - 48)
      else if 97 ≤ c.toNat ∧ c.toNat ≤ 122 then some (c.toNat - 87)
      else if 65 ≤ c.toNat ∧ c.toNat ≤ 90 then some (c.toNat - 55)
      else none := rfl

/-- A character has the value of a digit when it is that digit, in either case. -/
theorem digitValue?_eq_some_iff {c : Char} {d : Nat} (small : d < 16) :
    digitValue? c = some d ↔ c.toLower = Nat.digitChar d := by
  rw [← Char.toNat_inj, toNat_toLower, toNat_digitChar small, digitValue?_eq]
  split_ifs <;> simp <;> omega

variable {base : Nat} {s : List Char} {n : Nat}

theorem pushDigit?_eq_some_iff (low : base ≤ 16) {value : Nat} {c : Char} :
    pushDigit? base value c = some n ↔
      ∃ d < base, c.toLower = Nat.digitChar d ∧ n = value * base + d := by
  rw [pushDigit?]
  cases valued : digitValue? c with
  | none =>
    simp only [reduceCtorEq, false_iff]
    rintro ⟨d, small, digit, -⟩
    rw [(digitValue?_eq_some_iff (by omega)).2 digit] at valued
    cases valued
  | some d =>
    simp only
    constructor
    · intro read
      split at read
      · rename_i small
        exact ⟨d, small, (digitValue?_eq_some_iff (by omega)).1 valued, by simpa using read.symm⟩
      · cases read
    · rintro ⟨d', small, digit, rfl⟩
      rw [(digitValue?_eq_some_iff (by omega)).2 digit] at valued
      cases valued
      simp [small]

theorem ofDigits_reverse_cons (base value d : Nat) (ds : List Nat) :
    value * base ^ (d :: ds).length + Nat.ofDigits base (d :: ds).reverse =
      (value * base + d) * base ^ ds.length + Nat.ofDigits base ds.reverse := by
  rw [List.reverse_cons, Nat.ofDigits_append, Nat.ofDigits_singleton, List.length_reverse, List.length_cons,
    Nat.pow_succ]
  ring

/-- Digits are read from the left, each behind those before it. -/
theorem foldlM_pushDigit? (low : base ≤ 16) {value : Nat} :
    s.foldlM (pushDigit? base) value = some n ↔
      ∃ ds : List Nat, s.map Char.toLower = ds.map Nat.digitChar ∧ (∀ d ∈ ds, d < base) ∧
        value * base ^ ds.length + Nat.ofDigits base ds.reverse = n := by
  -- the digits read so far are `value`, which every further digit moves up by one place
  induction s generalizing value with
  | nil =>
    simp only [List.foldlM_nil, List.map_nil, List.nil_eq, List.map_eq_nil_iff]
    constructor
    · rintro ⟨⟩
      exact ⟨[], rfl, by simp, by simp⟩
    · rintro ⟨ds, rfl, -, rfl⟩
      simp
  | cons c s ih =>
    simp only [List.foldlM_cons, Option.bind_eq_bind, Option.bind_eq_some_iff, pushDigit?_eq_some_iff low, ih]
    constructor
    · rintro ⟨_, ⟨d, small, digit, rfl⟩, ds, spelled, others, denotes⟩
      refine ⟨d :: ds, by simp [digit, spelled], by simp_all, ?_⟩
      rw [ofDigits_reverse_cons, denotes]
    · rintro ⟨ds, spelled, small, denotes⟩
      cases ds with
      | nil => simp at spelled
      | cons d ds =>
        simp only [List.map_cons, List.cons.injEq] at spelled
        rw [ofDigits_reverse_cons] at denotes
        exact ⟨_, ⟨d, by simp_all, spelled.1, rfl⟩, ds, spelled.2, by simp_all, denotes⟩

theorem readDigits?_eq_some_iff (low : base ≤ 16) : readDigits? base s = some n ↔ Digits base s n := by
  rw [readDigits?, Digits]
  cases s with
  | nil => simp
  | cons c s =>
    simp only [List.isEmpty_cons, Bool.false_eq_true, if_false, foldlM_pushDigit? low]
    simp

theorem Digits.mem (digits : Digits base s n) {c : Char} (member : c ∈ s) :
    ∃ d < base, c.toLower = Nat.digitChar d := by
  obtain ⟨-, ds, spelled, small, -⟩ := digits
  have lower : c.toLower ∈ ds.map Nat.digitChar := spelled ▸ List.mem_map_of_mem member
  obtain ⟨d, there, same⟩ := List.mem_map.1 lower
  exact ⟨d, small d there, same.symm⟩

/-- Digits are figures and, in a base above ten, the first six letters. None of them is a sign, an
underscore or a blank. -/
theorem Digits.toNat_mem (low : base ≤ 16) (digits : Digits base s n) {c : Char} (member : c ∈ s) :
    48 ≤ c.toNat ∧ c.toNat ≤ 57 ∨
      10 < base ∧ (65 ≤ c.toNat ∧ c.toNat ≤ 70 ∨ 97 ≤ c.toNat ∧ c.toNat ≤ 102) := by
  obtain ⟨d, small, same⟩ := digits.mem member
  rw [← Char.toNat_inj, toNat_toLower, toNat_digitChar (by omega)] at same
  split_ifs at same <;> omega

theorem exists_toDigits (two : 1 < base) (n : Nat) :
    ∃ ds : List Nat, Nat.toDigits base n = ds.map Nat.digitChar ∧ (∀ d ∈ ds, d < base) ∧
      Nat.ofDigits base ds.reverse = n := by
  induction n using Nat.strongRecOn with
  | ind n ih =>
    by_cases small : n < base
    · exact ⟨[n], Nat.toDigits_of_lt_base small, by simpa using small, by simp⟩
    · have less : n / base < n := Nat.div_lt_self (by omega) two
      have last : n % base < base := Nat.mod_lt n (by omega)
      obtain ⟨ds, spelled, bounded, denotes⟩ := ih (n / base) less
      refine ⟨ds ++ [n % base], ?_, ?_, ?_⟩
      · rw [Nat.toDigits_of_base_le two (by omega), spelled, List.map_append]
        rfl
      · intro d member
        rcases List.mem_append.1 member with front | back
        · exact bounded d front
        · rw [List.mem_singleton.1 back]
          exact last
      · rw [List.reverse_append, List.reverse_singleton, List.singleton_append, Nat.ofDigits_cons, denotes]
        exact Nat.mod_add_div n base

/-- The digits of a number denote it, with or without zeros in front of them. -/
theorem digits_of_toDigits (two : 1 < base) {zeros : Nat}
    (written : s.map Char.toLower = List.replicate zeros '0' ++ Nat.toDigits base n) : Digits base s n := by
  obtain ⟨ds, spelled, bounded, denotes⟩ := exists_toDigits two n
  refine ⟨?_, List.replicate zeros 0 ++ ds, ?_, ?_, ?_⟩
  · rintro rfl
    have nonempty : Nat.toDigits base n ≠ [] := Nat.toDigits_ne_nil
    simp_all
  · rw [written, spelled, List.map_append, List.map_replicate]
    rfl
  · intro d member
    rcases List.mem_append.1 member with front | back
    · rw [List.eq_of_mem_replicate front]
      omega
    · exact bounded d back
  · rw [List.reverse_append, List.reverse_replicate, Nat.ofDigits_append_replicate_zero, denotes]

end Text

/-! ## The text that is judged -/

namespace Text

theorem dropWhile_isBlank {lead rest : List Char} (blank : ∀ c ∈ lead, isBlank c = true)
    (first : ∀ c, rest.head? = some c → isBlank c = false) : (lead ++ rest).dropWhile isBlank = rest := by
  rw [List.dropWhile_append_of_pos blank]
  cases rest with
  | nil => rfl
  | cons c rest => exact List.dropWhile_cons_of_neg (by simp [first c rfl])

/-- Blanks are dropped at the ends, and from there on nothing is. -/
theorem trim_append {lead body trail : List Char} (blank : ∀ c ∈ lead ++ trail, isBlank c = true)
    (first : ∀ c, body.head? = some c → isBlank c = false)
    (last : ∀ c, body.getLast? = some c → isBlank c = false) : trim (lead ++ body ++ trail) = body := by
  rw [trim]
  cases body with
  | nil =>
    -- everything is blank and goes at once
    have dropped : (lead ++ trail ++ []).dropWhile isBlank = [] := dropWhile_isBlank blank (by simp)
    rw [List.append_nil] at dropped ⊢
    rw [dropped]
    rfl
  | cons c body =>
    have before : (lead ++ (c :: body ++ trail)).dropWhile isBlank = c :: body ++ trail :=
      dropWhile_isBlank (by simp_all) (by simpa using first)
    have behind : (trail.reverse ++ (c :: body).reverse).dropWhile isBlank = (c :: body).reverse :=
      dropWhile_isBlank (by simp_all) (by rw [List.head?_reverse]; exact last)
    rw [List.append_assoc, before, List.reverse_append, behind, List.reverse_reverse]

theorem exists_trim (s : List Char) :
    ∃ lead trail, s = lead ++ trim s ++ trail ∧ (∀ c ∈ lead ++ trail, isBlank c = true) ∧
      (∀ c, (trim s).head? = some c → isBlank c = false) ∧
      ∀ c, (trim s).getLast? = some c → isBlank c = false := by
  have split : trim s = (s.dropWhile isBlank).rdropWhile isBlank := rfl
  refine ⟨s.takeWhile isBlank, (s.dropWhile isBlank).rtakeWhile isBlank, ?_, ?_, ?_, ?_⟩
  · rw [List.append_assoc, split, List.rdropWhile_append_rtakeWhile, List.takeWhile_append_dropWhile]
  · intro c member
    rcases List.mem_append.1 member with front | back
    · exact List.mem_takeWhile_imp front
    · exact List.mem_rtakeWhile_imp back
  · intro c first
    obtain ⟨rest, whole⟩ := List.rdropWhile_prefix isBlank (s.dropWhile isBlank)
    have head : (s.dropWhile isBlank).head? = some c := by
      rw [← whole, ← split, List.head?_append, first]
      rfl
    have stops := List.head?_dropWhile_not isBlank s
    rw [head] at stops
    exact stops
  · intro c last
    have kept : (s.dropWhile isBlank).rdropWhile isBlank ≠ [] := by
      intro nothing
      simp [split, nothing] at last
    rw [split, List.getLast?_eq_some_getLast kept] at last
    cases last
    simpa using List.rdropWhile_last_not isBlank _ kept

end Text

namespace Address

/-- The second text is the first one without the blanks at its ends and without underscores. -/
def Judged (s t : List Char) : Prop :=
  ∃ lead body trail, s = lead ++ body ++ trail ∧ (∀ c ∈ lead ++ trail, Text.isBlank c = true) ∧
    (∀ c, body.head? = some c → Text.isBlank c = false) ∧
    (∀ c, body.getLast? = some c → Text.isBlank c = false) ∧ t = body.filter (· ≠ '_')

theorem judged_iff {s t : List Char} : Judged s t ↔ t = normalized s := by
  rw [normalized]
  constructor
  · rintro ⟨lead, body, trail, rfl, blank, first, last, rfl⟩
    rw [Text.trim_append blank first last]
  · rintro rfl
    obtain ⟨lead, trail, split, blank, first, last⟩ := Text.exists_trim s
    exact ⟨lead, Text.trim s, trail, split, blank, first, last, rfl⟩

/-! ## The grammar -/

/-- The marks that tell a base. -/
def marks : List (List Char × Nat) :=
  [(['0', 'x'], 16), (['0', 'X'], 16), (['0', 'b'], 2), (['0', 'B'], 2), (['0', 'o'], 8), (['0', 'O'], 8)]

/-- What may stand between a mark and digits. -/
def signs : List (List Char) := [[], ['+']]

/-- A text spells a number: behind a mark in the base of the mark, and in base ten if it starts with
none. -/
inductive Spells : List Char → Nat → Prop
  | marked {mark sign digits : List Char} {base n : Nat} (known : (mark, base) ∈ marks)
      (signed : sign ∈ signs) (denotes : Text.Digits base digits n) : Spells (mark ++ sign ++ digits) n
  | unmarked {sign digits : List Char} {n : Nat} (unmarked : ∀ m ∈ marks, ¬ m.1 <+: sign ++ digits)
      (signed : sign ∈ signs) (denotes : Text.Digits 10 digits n) : Spells (sign ++ digits) n

theorem base_of_mem_marks {mark : List Char} {base : Nat} (known : (mark, base) ∈ ([], 10) :: marks) :
    1 < base ∧ base ≤ 16 := by
  simp only [marks, List.mem_cons, Prod.mk.injEq, List.not_mem_nil, or_false] at known
  omega

theorem letter_of_mem_marks {mark : List Char} {base : Nat} (known : (mark, base) ∈ marks) :
    ∃ letter, mark = ['0', letter] ∧ 65 ≤ letter.toNat ∧ letter.toNat ≤ 122 := by
  simp only [marks, List.mem_cons, Prod.mk.injEq, List.not_mem_nil, or_false] at known
  rcases known with ⟨rfl, -⟩ | ⟨rfl, -⟩ | ⟨rfl, -⟩ | ⟨rfl, -⟩ | ⟨rfl, -⟩ | ⟨rfl, -⟩ <;>
    exact ⟨_, rfl, by decide, by decide⟩

theorem baseAndDigits_of_mark {mark : List Char} {base : Nat} (known : (mark, base) ∈ marks)
    (rest : List Char) : baseAndDigits (mark ++ rest) = (base, rest) := by
  simp only [marks, List.mem_cons, Prod.mk.injEq, List.not_mem_nil, or_false] at known
  rcases known with ⟨rfl, rfl⟩ | ⟨rfl, rfl⟩ | ⟨rfl, rfl⟩ | ⟨rfl, rfl⟩ | ⟨rfl, rfl⟩ | ⟨rfl, rfl⟩ <;> rfl

theorem baseAndDigits_of_unmarked {s : List Char} (unmarked : ∀ m ∈ marks, ¬ m.1 <+: s) :
    baseAndDigits s = (10, s) := by
  simp only [marks, List.forall_mem_cons] at unmarked
  unfold baseAndDigits
  split <;> simp_all

theorem withoutPlus_cases (s : List Char) : ∃ sign ∈ signs, s = sign ++ withoutPlus s := by
  unfold withoutPlus
  split
  · exact ⟨['+'], by simp [signs], rfl⟩
  · exact ⟨[], by simp [signs], rfl⟩

theorem withoutPlus_append {base n : Nat} {sign digits : List Char} (low : base ≤ 16)
    (signed : sign ∈ signs) (denotes : Text.Digits base digits n) :
    withoutPlus (sign ++ digits) = digits := by
  simp only [signs, List.mem_cons, List.not_mem_nil, or_false] at signed
  rcases signed with rfl | rfl
  · have figure : '+' ∉ digits := fun member => by simpa using denotes.toNat_mem low member
    unfold withoutPlus
    split <;> simp_all
  · rfl

/-- What is behind the mark is read as digits of its base, without one plus sign in front of them. -/
theorem ofNormalized?_iff {s rest : List Char} {base : Nat} (split : baseAndDigits s = (base, rest))
    (low : base ≤ 16) {a : Address} :
    ofNormalized? s = some a ↔ Text.Digits base (withoutPlus rest) a.toNat := by
  have high := a.toNat_lt
  have top : greatest = 18446744073709551615 := rfl
  simp only [ofNormalized?, split, ← Text.readDigits?_eq_some_iff low]
  cases Text.readDigits? base (withoutPlus rest) with
  | none => simp
  | some n =>
    simp only [Option.some.injEq]
    by_cases fits : n ≤ greatest
    · simp only [fits, if_true, Option.some.injEq, ← UInt64.toNat_inj, UInt64.toNat_ofNat']
      omega
    · simp only [fits, if_false, reduceCtorEq, false_iff]
      omega

theorem ofNormalized?_eq_some_iff {s : List Char} {a : Address} :
    ofNormalized? s = some a ↔ Spells s a.toNat := by
  constructor
  · intro read
    by_cases marked : ∃ m ∈ marks, m.1 <+: s
    · obtain ⟨⟨mark, base⟩, known, rest, rfl⟩ := marked
      have low := (base_of_mem_marks (List.mem_cons_of_mem _ known)).2
      have denotes := (ofNormalized?_iff (baseAndDigits_of_mark known rest) low).1 read
      obtain ⟨sign, signed, split⟩ := withoutPlus_cases rest
      change Spells (mark ++ rest) _
      rw [split, ← List.append_assoc]
      exact .marked known signed denotes
    · have unmarked : ∀ m ∈ marks, ¬ m.1 <+: s := by simpa using marked
      have denotes := (ofNormalized?_iff (baseAndDigits_of_unmarked unmarked) (by decide)).1 read
      obtain ⟨sign, signed, split⟩ := withoutPlus_cases s
      rw [split] at unmarked ⊢
      exact .unmarked unmarked signed denotes
  · intro spells
    cases spells with
    | @marked mark sign digits base _ known signed denotes =>
      have low := (base_of_mem_marks (List.mem_cons_of_mem _ known)).2
      rw [List.append_assoc, ofNormalized?_iff (baseAndDigits_of_mark known _) low,
        withoutPlus_append low signed denotes]
      exact denotes
    | unmarked unmarked signed denotes =>
      rw [ofNormalized?_iff (baseAndDigits_of_unmarked unmarked) (by decide),
        withoutPlus_append (by decide) signed denotes]
      exact denotes

/-! ## Addresses as they are written -/

/-- A text writes an address. Between blanks there is a mark or none, then maybe a plus sign, zeros, and
the digits of the address in either case. Underscores may stand anywhere among these. -/
inductive Writes (a : Address) : List Char → Prop
  | intro {lead body trail mark sign digits : List Char} {base zeros : Nat}
      (blank : ∀ c ∈ lead ++ trail, Text.isBlank c = true)
      (scattered : body.filter (· ≠ '_') = mark ++ sign ++ digits)
      (known : (mark, base) ∈ ([], 10) :: marks) (signed : sign ∈ signs)
      (written : digits.map Char.toLower = List.replicate zeros '0' ++ Nat.toDigits base a.toNat) :
      Writes a (lead ++ body ++ trail)

/-- A value gives an address, as a number or as a text. -/
inductive Gives (a : Address) : Json → Prop
  | number : Gives a (.word a)
  | text {s : String} (writes : Writes a s.toList) : Gives a (.string s)

/-- Decimal digits do not start with a mark. -/
theorem unmarked_of_digits {sign digits : List Char} {n : Nat} (signed : sign ∈ signs)
    (denotes : Text.Digits 10 digits n) : ∀ m ∈ marks, ¬ m.1 <+: sign ++ digits := by
  have figures : ∀ c ∈ digits, c.toNat ≤ 57 := by
    intro c member
    have := denotes.toNat_mem (by decide) member
    omega
  rintro ⟨mark, base⟩ known ⟨rest, split⟩
  obtain ⟨letter, rfl, least, -⟩ := letter_of_mem_marks known
  simp only [signs, List.mem_cons, List.not_mem_nil, or_false] at signed
  rcases signed with rfl | rfl
  · have := figures letter (by rw [← List.nil_append digits, ← split]; simp)
    omega
  · simp at split

theorem isBlank_eq_false {c : Char} (least : 33 ≤ c.toNat) (most : c.toNat ≤ 126) :
    Text.isBlank c = false := by
  simp [Text.isBlank]
  omega

theorem isBlank_of_mem_marks {mark : List Char} {base : Nat} (known : (mark, base) ∈ ([], 10) :: marks)
    {c : Char} (member : c ∈ mark) : Text.isBlank c = false := by
  rcases List.mem_cons.1 known with unmarked | marked
  · cases unmarked
    cases member
  · obtain ⟨letter, rfl, least, most⟩ := letter_of_mem_marks marked
    simp only [List.mem_cons, List.not_mem_nil, or_false] at member
    rcases member with rfl | rfl
    · decide
    · exact isBlank_eq_false (by omega) (by omega)

theorem isBlank_of_mem_signs {sign : List Char} (signed : sign ∈ signs) {c : Char} (member : c ∈ sign) :
    Text.isBlank c = false := by
  simp only [signs, List.mem_cons, List.not_mem_nil, or_false] at signed
  rcases signed with rfl | rfl
  · cases member
  · rw [List.mem_singleton.1 member]
    decide

theorem Writes.spells {a : Address} {s : List Char} (writes : Writes a s) :
    ∃ t, Judged s t ∧ Spells t a.toNat := by
  obtain @⟨lead, body, trail, mark, sign, digits, base, zeros, blank, scattered, known, signed, written⟩ := writes
  have bounds := base_of_mem_marks known
  have denotes := Text.digits_of_toDigits bounds.1 written
  -- nothing between the blanks is a blank, so that trimming ends where it should
  have visible : ∀ c ∈ body, Text.isBlank c = false := by
    intro c member
    by_cases underscore : c = '_'
    · rw [underscore]
      decide
    · have kept : c ∈ mark ++ sign ++ digits := by
        rw [← scattered]
        simp [member, underscore]
      simp only [List.mem_append] at kept
      rcases kept with (front | middle) | back
      · exact isBlank_of_mem_marks known front
      · exact isBlank_of_mem_signs signed middle
      · have := denotes.toNat_mem bounds.2 back
        exact isBlank_eq_false (by omega) (by omega)
  refine ⟨_, ⟨lead, body, trail, rfl, blank, fun c first => visible c (List.mem_of_mem_head? first),
    fun c last => visible c (List.mem_of_mem_getLast? last), rfl⟩, ?_⟩
  rw [scattered]
  rcases List.mem_cons.1 known with unmarked | marked
  · cases unmarked
    exact .unmarked (unmarked_of_digits signed denotes) signed denotes
  · exact .marked marked signed denotes

/-- A text denotes what the part of it that is judged spells. -/
theorem parse_eq_ok_iff {s : String} {a : Address} :
    parse s = .ok a ↔ Spells (normalized s.toList) a.toNat := by
  rw [← ofNormalized?_eq_some_iff, parse]
  cases ofNormalized? (normalized s.toList) <;> simp

theorem parse_of_not_spells {s : String} (unspelled : ∀ a : Address, ¬ Spells (normalized s.toList) a.toNat) :
    parse s = .error (String.ofList (normalized s.toList)) := by
  cases read : ofNormalized? (normalized s.toList) with
  | none => rw [parse, read]
  | some a => exact absurd (ofNormalized?_eq_some_iff.1 read) (unspelled a)

theorem parse_of_writes {s : String} {a : Address} (writes : Writes a s.toList) : parse s = .ok a := by
  obtain ⟨t, judged, spells⟩ := writes.spells
  rw [parse_eq_ok_iff, ← judged_iff.1 judged]
  exact spells

theorem ofText_of_parse {s : String} {a : Address} (parsed : parse s = .ok a) : ofText s = .ok a := by
  rw [ofText, parsed]

theorem decode_of_gives {a : Address} {value : Json} (gives : Gives a value) :
    decode.ofValue value = .ok a := by
  cases gives with
  | number => exact decode_word _ a
  | @text s writes =>
    have read : decode.ofValue (.string s) = decode (.string (some s)) := rfl
    rw [read, decode, parse_of_writes writes]

theorem decode_list_of_gives {addresses : List Address} {values : List Json}
    (gives : List.Forall₂ Gives addresses values) :
    (Decoder.list decode).ofValue (.array values) = .ok addresses := by
  have items : Decoder.items decode (Json.readingItems .counted values) = .ok addresses := by
    induction gives with
    | nil => rfl
    | @cons a value addresses values first rest ih =>
      have decoded : decode (value.reading .counted) = .ok a := decode_of_gives first
      simp only [Json.readingItems, Decoder.items, decoded, ih]
      rfl
  simp only [Decoder.ofValue, Json.reading, Decoder.list, items]
  rfl

/-- A text is judged without the blanks at its ends and without underscores. It denotes an address when
the rest spells one in one of the four bases, and otherwise the error names the rest. However an address
is written, it is read back, and as a parameter the text is as good as the number. -/
theorem addresses_follow_their_grammar :
    (∀ s : String, ∃ t, (∀ t', Judged s.toList t' ↔ t' = t) ∧
      (∀ a : Address, ofText s = .ok a ↔ Spells t a.toNat) ∧
      ((∀ a : Address, ¬ Spells t a.toNat) →
        ofText s = .error (.notFound ("invalid address: " ++ String.ofList t)))) ∧
    (∀ (s : String) (a : Address), Writes a s.toList → ofText s = .ok a) ∧
    (∀ (value : Json) (a : Address), Gives a value → decode.ofValue value = .ok a) ∧
    ∀ (values : List Json) (addresses : List Address), List.Forall₂ Gives addresses values →
      (Decoder.list decode).ofValue (.array values) = .ok addresses := by
  refine ⟨fun s => ⟨normalized s.toList, fun t' => judged_iff, fun a => ?_, fun unspelled => ?_⟩, ?_, ?_, ?_⟩
  · rw [← parse_eq_ok_iff, ofText]
    cases parse s <;> simp
  · rw [ofText, parse_of_not_spells unspelled]
  · intro s a writes
    exact ofText_of_parse (parse_of_writes writes)
  · intro value a gives
    exact decode_of_gives gives
  · intro values addresses gives
    exact decode_list_of_gives gives

/-- A text with blanks, underscores, a plus sign, a zero in front, and digits in both cases. -/
theorem crowded_text_is_read_back :
    Writes 0xbee "\t0_X+_0bE_e\n".toList ∧ ofText "\t0_X+_0bE_e\n" = .ok 0xbee ∧
      (Decoder.list decode).ofValue (.array [.string "\t0_X+_0bE_e\n", .word 0xbee]) =
        .ok [0xbee, 0xbee] := by
  have writes : Writes 0xbee "\t0_X+_0bE_e\n".toList :=
    @Writes.intro 0xbee ['\t'] ['0', '_', 'X', '+', '_', '0', 'b', 'E', '_', 'e'] ['\n'] ['0', 'X'] ['+']
      ['0', 'b', 'E', 'e'] 16 1 (by simp [Text.isBlank]) (by decide) (by decide) (by decide) (by decide)
  obtain ⟨-, read, -, lists⟩ := addresses_follow_their_grammar
  exact ⟨writes, read _ _ writes, lists _ _ (.cons (.text writes) (.cons .number .nil))⟩

end Address

end Tandem
