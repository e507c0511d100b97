import Tandem.Address
import Tandem.Json.Decode
import Tandem.Proofs.Json.Values

/-! # Decoding what was written

Decoders undo the way in which values are written. A record takes its fields one by one, in whatever
order they stand: `Record.named_cons` is one field, and `Record.named_nil` the end. -/

namespace Tandem

/-! ## Values in memory -/

theorem Json.reading_nat (tail : Tail) (n : Nat) :
    (Json.nat n).reading tail = .number (some (.integer n)) := by
  rw [Json.nat, Json.reading]

theorem Json.plain_word (n : UInt64) : (Json.word n).Plain := by
  have small := n.toNat_lt
  simp only [word, nat, Plain, Number.Fits, UInt64.size]
  omega

namespace Decoder

theorem integer_of_le {name : String} {low high n : Int} (least : low ≤ n) (most : n ≤ high) :
    integer name low high (.number (some (.integer n))) = .ok n := by
  simp [integer, least, most]

theorem wordNamed_word (name : String) (tail : Tail) (n : UInt64) :
    wordNamed name ((Json.word n).reading tail) = .ok n := by
  have small := n.toNat_lt
  rw [wordNamed, Json.word, Json.reading_nat, integer_of_le (by omega) (by simp [UInt64.size]; omega)]
  simp [Except.map]

theorem optional_count_word (tail : Tail) (n : UInt64) :
    optional .count ((Json.word n).reading tail) = .ok (some n) := by
  have read := wordNamed_word "usize" tail n
  rw [Json.word, Json.reading_nat] at read ⊢
  exact congrArg (Except.map some) read

theorem word32_word32 (tail : Tail) (n : UInt32) :
    word32 ((Json.word32 n).reading tail) = .ok n := by
  have small := n.toNat_lt
  rw [word32, Json.word32, Json.reading_nat,
    integer_of_le (by omega) (by simp [UInt32.size]; omega)]
  simp [Except.map]

theorem word16_nat (tail : Tail) (n : UInt16) : word16 ((Json.nat n.toNat).reading tail) = .ok n := by
  have small := n.toNat_lt
  rw [word16, Json.reading_nat, integer_of_le (by omega) (by simp [UInt16.size]; omega)]
  simp [Except.map]

/-- A text that is read in full is decoded as the reading is. -/
theorem ofText_of_ofSymbols {α : Type} {decode : Decoder α} {text : List Text.Symbol} {r : Reading}
    (read : Reading.ofSymbols text = (r, true)) : ofText decode text = decode r := by
  rw [ofText, read]
  cases decoded : decode r <;> simp [decoded, bind, Except.bind, pure, Except.pure]

end Decoder

theorem Address.decode_word (tail : Tail) (a : Address) :
    Address.decode ((Json.word a).reading tail) = .ok a := by
  have small := a.toNat_lt
  rw [Json.word, Json.reading_nat, Address.decode, if_pos]
  · simp
  · simp only [Address.greatest, UInt64.size]
    omega

namespace Record

variable {α : Type} {r : Record α} {tail : Tail} {seen : List String} {a : α}

theorem named_nil (whole : tail ≠ .torn) (complete : r.missing? seen = none) :
    r.named tail [] seen a = .ok a := by
  simp [named, whole, complete]

theorem named_cons {key : String} {value : Reading} {rest : List (Option String × Reading)}
    {field : Field α} {set : α → α} (found : r.fields.find? (·.answersTo key) = some field)
    (fresh : seen.contains field.name = false) (reads : field.read value = .ok set) :
    r.named tail ((some key, value) :: rest) seen a =
      r.named tail rest (field.name :: seen) (set a) := by
  rw [named]
  simp only [found, fresh, reads, Bool.false_eq_true, if_false]
  rfl

theorem decode_object (r : Record α) (tail : Tail) (fields : List (String × Json)) :
    r.decode ((Json.object fields).reading tail) =
      r.named tail (Json.readingFields tail fields) [] r.blank := by
  rw [Json.reading, decode]

end Record

/-- A field is read as its decoder reads its value. -/
theorem Field.of_read {α β : Type} {absence : Absence} {name : String} {decode : Decoder β}
    {set : β → α → α} {aliases : List String} {value : Reading} {b : β}
    (decoded : decode value = .ok b) :
    (Field.of absence name decode set aliases).read value = .ok (set b) := by
  simp [Field.of, decoded, Except.map]

/-! ## Records of one field -/

namespace Record

variable {α β : Type} {r : Record α} {name : String} {decode : Decoder β} {set : β → α → α}
  {tail : Tail}

/-- A record of one field, which is given by its name, is what the field says. -/
theorem named_single (whole : tail ≠ .torn) (only : r.fields = [.required name decode set])
    (value : Reading) (a : α) :
    r.named tail [(some name, value)] [] a = (decode value).map (set · a) := by
  have found : r.fields.find? (·.answersTo name) = some (.required name decode set) := by
    simp [only, Field.answersTo, Field.required, Field.of]
  cases decoded : decode value with
  | ok b =>
    have complete : r.missing? [name] = none := by
      simp [missing?, only, Field.required, Field.of]
    rw [named_cons found rfl (Field.of_read decoded)]
    exact named_nil whole complete
  | error error =>
    have fails : (Field.required name decode set).read value = .error error := by
      simp [Field.required, Field.of, decoded, Except.map]
    rw [named]
    simp only [found, List.contains_nil, Bool.false_eq_true, if_false, fails]
    rfl

/-- A field that is given by its position says the same. -/
theorem positional_single (whole : tail ≠ .torn) (value : Reading) (a : α) (surplus : DecodeError) :
    r.positional tail surplus 0 [.required name decode set] [value] a = (decode value).map (set · a) := by
  cases decoded : decode value <;>
    simp [positional, Field.required, Field.of, decoded, whole, bind, Except.bind, Except.map]

end Record

end Tandem
