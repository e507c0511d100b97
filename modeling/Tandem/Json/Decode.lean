import Tandem.Json.Reading
import Tandem.Text.Quoted

/-! # Decoding

Decoders turn readings into typed values and name the first problem that they meet on the way.

* `DecodeError` lists the problems, `DecodeError.message` words them.
* `Decoder` is a decoder; words, strings, lists and optional values are the basic ones.
* `Record` decodes a structure, from an object by the names of its fields or from an array by their
  positions.
* `Decoder.choice` and `Decoder.tagged` decode enumerations and tagged unions. -/

namespace Tandem

open Text (ticked quoted counted)

/-! ## Problems -/

/-- What was found in place of something else. -/
inductive Found where
  | null
  | bool (b : Bool)
  | number (n : Json.Number)
  | string (s : String)
  | sequence
  | map
  deriving DecidableEq, Repr

/-- How a message names what was found. -/
def Found.describe : Found → String
  | .null => "null"
  | .bool b => "boolean " ++ ticked (if b then "true" else "false")
  | .number (.integer n) => "integer " ++ ticked (Text.signed n)
  | .number (.real bits) => "floating point " ++ ticked (Json.Number.realText bits)
  | .string s => "string " ++ quoted s
  | .sequence => "sequence"
  | .map => "map"

/-- Why a reading could not be decoded. -/
inductive DecodeError where
  /-- The text is no JSON, or holds a number or a string without a value. -/
  | malformed
  | invalidType (found : Found) (expected : String)
  | invalidValue (found : Found) (expected : String)
  | invalidLength (length : Nat) (expected : String)
  | missingField (name : String)
  | duplicateField (name : String)
  | unknownVariant (name : String) (known : List String)
  /-- No alternative of an untagged union fits. -/
  | noAlternative (union : String)
  /-- The text of an address that denotes none. -/
  | invalidAddress (text : String)
  deriving DecidableEq, Repr

/-- The names that were expected, for a message. -/
def DecodeError.oneOf : List String → String
  | [a] => ticked a
  | [a, b] => ticked a ++ " or " ++ ticked b
  | names => "one of " ++ ", ".intercalate (names.map ticked)

/-- The text of an error. -/
def DecodeError.message : DecodeError → String
  | .malformed => "syntax"
  | .invalidType found expected =>
    "invalid type: " ++ found.describe ++ ", expected " ++ expected
  | .invalidValue found expected =>
    "invalid value: " ++ found.describe ++ ", expected " ++ expected
  | .invalidLength length expected =>
    "invalid length " ++ Text.decimal length ++ ", expected " ++ expected
  | .missingField name => "missing field " ++ ticked name
  | .duplicateField name => "duplicate field " ++ ticked name
  | .unknownVariant name known =>
    "unknown variant " ++ ticked name ++ ", expected " ++ oneOf known
  | .noAlternative union => "data did not match any variant of untagged enum " ++ union
  | .invalidAddress text => "Not found: invalid address: " ++ text

/-- A decoder reads a value of a type, or names the first problem. -/
abbrev Decoder (α : Type) := Reading → Except DecodeError α

namespace Reading

/-- The problem of a reading that is of another kind than expected. -/
def mismatch (expected : String) : Reading → DecodeError
  | .null => .invalidType .null expected
  | .bool b => .invalidType (.bool b) expected
  | .number (some n) => .invalidType (.number n) expected
  | .string (some s) => .invalidType (.string s) expected
  | .array _ _ => .invalidType .sequence expected
  | .object _ _ => .invalidType .map expected
  | .number none => .malformed
  | .string none => .malformed
  | .broken => .malformed

end Reading

namespace Decoder

/-! ## Basic decoders -/

/-- An integer from `low` to `high`. -/
def integer (name : String) (low high : Int) : Decoder Int
  | .number (some (.integer n)) =>
    if low ≤ n ∧ n ≤ high then .ok n
    else .error (.invalidValue (.number (.integer n)) name)
  | other => .error (other.mismatch name)

/-- A 64-bit word under one of its names. -/
def wordNamed (name : String) : Decoder UInt64 := fun r =>
  (integer name 0 (UInt64.size - 1) r).map fun n => n.toNat.toUInt64

/-- A 64-bit word. -/
def word : Decoder UInt64 := wordNamed "u64"

/-- A count or an index. -/
def count : Decoder UInt64 := wordNamed "usize"

/-- A 32-bit word. -/
def word32 : Decoder UInt32 := fun r =>
  (integer "u32" 0 (UInt32.size - 1) r).map fun n => n.toNat.toUInt32

/-- A 16-bit word. -/
def word16 : Decoder UInt16 := fun r =>
  (integer "u16" 0 (UInt16.size - 1) r).map fun n => n.toNat.toUInt16

/-- A signed 32-bit integer. -/
def int32 : Decoder Int := integer "i32" (-2147483648) 2147483647

/-- A string. -/
def string : Decoder String
  | .string (some s) => .ok s
  | other => .error (other.mismatch "a string")

/-- A truth value. -/
def bool : Decoder Bool
  | .bool b => .ok b
  | other => .error (other.mismatch "a boolean")

/-- A value, or `null` for none. -/
def optional {α : Type} (decode : Decoder α) : Decoder (Option α)
  | .null => .ok none
  | other => (decode other).map some

/-- Every item of a list, from left to right. -/
def items {α : Type} (decode : Decoder α) : List Reading → Except DecodeError (List α)
  | [] => .ok []
  | item :: rest => do
    let a ← decode item
    let as ← items decode rest
    return a :: as

/-- A list of values. -/
def list {α : Type} (decode : Decoder α) : Decoder (List α)
  | .array values tail => do
    let as ← items decode values
    if tail = .torn then .error .malformed else return as
  | other => .error (other.mismatch "a sequence")

/-- Any value. -/
def any : Decoder Json := fun r =>
  match r.toJson? with
  | some value => .ok value
  | none => .error .malformed

end Decoder

/-! ## Records -/

/-- What happens when a field is not there. -/
inductive Absence where
  /-- It is missed. -/
  | required
  /-- It may be left out of an object, and is missed in an array. -/
  | omissible
  /-- It may be left out of both. -/
  | defaulted
  deriving DecidableEq, Repr

/-- A field of a record: its name, other names for it, and how its value goes into the record. -/
structure Field (α : Type) where
  name : String
  aliases : List String
  absence : Absence
  read : Reading → Except DecodeError (α → α)

/-- A field from a decoder of its value and the way to set it. -/
def Field.of {α β : Type} (absence : Absence) (name : String) (decode : Decoder β)
    (set : β → α → α) (aliases : List String := []) : Field α :=
  ⟨name, aliases, absence, fun r => (decode r).map set⟩

/-- A field that has to be there. -/
def Field.required {α β : Type} := @Field.of α β .required

/-- A field that an object may leave out. -/
def Field.omissible {α β : Type} := @Field.of α β .omissible

/-- A field with a default value. -/
def Field.defaulted {α β : Type} := @Field.of α β .defaulted

/-- A field answers to its name and its aliases. -/
def Field.answersTo {α : Type} (field : Field α) (key : String) : Bool :=
  field.name == key || field.aliases.contains key

/-- How a structure is decoded: its name in messages, the value that the fields are set in, which
holds the defaults, and the fields in their order. -/
structure Record (α : Type) where
  name : String
  blank : α
  fields : List (Field α)

namespace Record

variable {α : Type}

/-- The record's name with the number of its fields. -/
def sized (r : Record α) : String :=
  r.name ++ " with " ++ counted r.fields.length "element"

/-- The first required field that was not seen. -/
def missing? (r : Record α) (seen : List String) : Option (Field α) :=
  r.fields.find? fun field => field.absence = .required && !seen.contains field.name

/-- Sets the fields of an object in the order in which they stand, behind those already seen. -/
def named (r : Record α) (tail : Tail) :
    List (Option String × Reading) → List String → α → Except DecodeError α
  | [], seen, a =>
    if tail = .torn then .error .malformed
    else
      match r.missing? seen with
      | some field => .error (.missingField field.name)
      | none => .ok a
  | (none, _) :: _, _, _ => .error .malformed
  | (some key, value) :: rest, seen, a =>
    match r.fields.find? (·.answersTo key) with
    | none => if value.isWhole then named r tail rest seen a else .error .malformed
    | some field =>
      if seen.contains field.name then .error (.duplicateField field.name)
      else do
        let set ← field.read value
        named r tail rest (field.name :: seen) (set a)

/-- Sets fields from the items of an array, one by one. `position` counts the fields before, and
`surplus` is the problem when items are left over. -/
def positional (r : Record α) (tail : Tail) (surplus : DecodeError) :
    Nat → List (Field α) → List Reading → α → Except DecodeError α
  | _, [], [], a => if tail = .torn then .error .malformed else .ok a
  | _, [], _ :: _, _ => .error surplus
  | position, field :: fields, [], a =>
    if tail = .torn then .error .malformed
    else if field.absence = .defaulted then positional r tail surplus (position + 1) fields [] a
    else .error (.invalidLength position r.sized)
  | position, field :: fields, item :: items, a => do
    let set ← field.read item
    positional r tail surplus (position + 1) fields items (set a)

/-- The problem when an array has more items than there are fields. -/
def surplus (tail : Tail) (items : List Reading) : DecodeError :=
  if tail = .counted then .invalidLength items.length "fewer elements in array" else .malformed

/-- A record from an object or an array. -/
def decode (r : Record α) : Decoder α
  | .object fields tail => r.named tail fields [] r.blank
  | .array items tail => r.positional tail (surplus tail items) 0 r.fields items r.blank
  | other => .error (other.mismatch r.name)

end Record

namespace Decoder

/-! ## Enumerations and unions -/

/-- One of several named values: its name, or an object with the name as its only key and `null`. -/
def choice {α : Type} (known : List (String × α)) : Decoder α
  | .string (some s) => pick s
  | .object [(some s, payload)] _ => do
    let a ← pick s
    match payload with
    | .null => return a
    | other => .error (other.mismatch "unit")
  | .object [(none, _)] _ => .error .malformed
  | .object _ _ => .error (.invalidValue .map "map with a single key")
  | other => .error (other.mismatch "string or map")
where
  /-- The value with a name. -/
  pick (s : String) : Except DecodeError α :=
    match known.lookup s with
    | some a => .ok a
    | none => .error (.unknownVariant s (known.map Prod.fst))

/-- The variant that a tag names. -/
def variant {α : Type} (known : List (String × Record α)) : Decoder (Record α)
  | .string (some s) =>
    match known.lookup s with
    | some r => .ok r
    | none => .error (.unknownVariant s (known.map Prod.fst))
  | other => .error (other.mismatch "variant identifier")

/-- A union whose variants are told apart by a tag: a field of the object, wherever it stands, or
the first item of the array. The tag is judged before anything else. -/
def tagged {α : Type} (name tag : String) (known : List (String × Record α)) : Decoder α
  | .object fields tail =>
    match fields.find? (·.1 == some tag) with
    | none => .error (.missingField tag)
    | some (_, value) => do
      let r ← variant known value
      r.named tail (fields.filter (·.1 != some tag)) [] r.blank
  | .array [] _ => .error (.missingField tag)
  | .array (value :: items) tail => do
    let r ← variant known value
    let surplus := .invalidLength items.length
      (counted r.fields.length "element" ++ " in sequence")
    r.positional tail surplus 0 r.fields items r.blank
  | other => .error (other.mismatch ("internally tagged enum " ++ name))

/-! ## Running decoders -/

/-- Decodes a value in memory. -/
def ofValue {α : Type} (decode : Decoder α) (value : Json) : Except DecodeError α :=
  decode (value.reading .counted)

/-- Decodes a text. What stands behind the value is looked at last. -/
def ofText {α : Type} (decode : Decoder α) (text : List Text.Symbol) : Except DecodeError α := do
  let (r, complete) := Reading.ofSymbols text
  let a ← decode r
  if complete then return a else .error .malformed

end Decoder

end Tandem
