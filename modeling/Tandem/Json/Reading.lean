import Tandem.Json.Basic
import Tandem.Text.Symbol

/-! # Readings

A reading is a JSON value as it presents itself to someone who goes through it from left to right.
Read from text it may be broken off anywhere, and a part of it may be well formed and yet have no
value: a number beyond the range of doubles, a string with half a surrogate pair or a stray byte.
Whoever skips such a part never notices.

* `Reading` is the type, `Reading.isWhole` says that nothing in it is broken.
* `Reading.ofSymbols` reads a text.
* `Reading.toJson?` and `Json.reading` relate readings and values. -/

namespace Tandem

open Text (Symbol)

/-- How an array or an object ends. -/
inductive Tail where
  /-- At its closing bracket. -/
  | closed
  /-- Where a value in memory ends: its length is known from the start. -/
  | counted
  /-- Where the text stops making sense. -/
  | torn
  deriving DecidableEq, Repr

/-- A JSON value seen from left to right. -/
inductive Reading where
  | null
  | bool (b : Bool)
  /-- A number, unless it is too great for a double. -/
  | number (n : Option Json.Number)
  /-- A string, unless it spells no text. -/
  | string (s : Option String)
  | array (items : List Reading) (tail : Tail)
  | object (fields : List (Option String × Reading)) (tail : Tail)
  /-- No value at all. -/
  | broken
  deriving Repr

namespace Reading

/-! ## Wholeness -/

mutual

/-- Nothing in the reading is broken off. -/
def isWhole : Reading → Bool
  | .array items tail => tail != .torn && wholeItems items
  | .object fields tail => tail != .torn && wholeFields fields
  | .broken => false
  | _ => true

/-- Nothing in the items is broken off. -/
def wholeItems : List Reading → Bool
  | [] => true
  | item :: rest => item.isWhole && wholeItems rest

/-- Nothing in the fields is broken off. -/
def wholeFields : List (Option String × Reading) → Bool
  | [] => true
  | (_, value) :: rest => value.isWhole && wholeFields rest

end

/-! ## Strings -/

/-- A piece of a string's text. -/
inductive Piece where
  | char (c : Char)
  /-- A code unit of UTF-16, written as four hexadecimal digits. -/
  | unit (n : Nat)
  /-- A stray byte. -/
  | stray
  deriving DecidableEq, Repr

/-- The character that a short escape stands for. -/
def shortEscape? (c : Char) : Option Char :=
  if c = '"' ∨ c = '\\' ∨ c = '/' then some c
  else if c = 'b' then some '\x08'
  else if c = 'f' then some '\x0c'
  else if c = 'n' then some '\n'
  else if c = 'r' then some '\r'
  else if c = 't' then some '\t'
  else none

/-- A piece in front of what follows it. -/
def consPiece (p : Piece) : Option (List Piece × List Symbol) → Option (List Piece × List Symbol)
  | some (pieces, rest) => some (p :: pieces, rest)
  | none => none

/-- The pieces of a string behind its opening quote, and the text behind the closing one. -/
def scanPieces : List Symbol → Option (List Piece × List Symbol)
  | [] => none
  | .stray _ :: rest => consPiece .stray (scanPieces rest)
  | .char c :: rest =>
    if c = '"' then some ([], rest)
    else if c = '\\' then
      match rest with
      | .char 'u' :: .char h₁ :: .char h₂ :: .char h₃ :: .char h₄ :: rest =>
        match Text.readDigits? 16 [h₁, h₂, h₃, h₄] with
        | some n => consPiece (.unit n) (scanPieces rest)
        | none => none
      | .char e :: rest =>
        match shortEscape? e with
        | some c => consPiece (.char c) (scanPieces rest)
        | none => none
      | _ => none
    else if c.toNat < 0x20 then none
    else consPiece (.char c) (scanPieces rest)

/-- The text that pieces spell: surrogates count only in pairs, stray bytes never. -/
def assemble : List Piece → Option (List Char)
  | [] => some []
  | .char c :: rest => (assemble rest).map (c :: ·)
  | .stray :: _ => none
  | .unit n :: rest =>
    if n < 0xD800 ∨ 0xDFFF < n then (assemble rest).map (Char.ofNat n :: ·)
    else if n < 0xDC00 then
      match rest with
      | .unit m :: rest =>
        if 0xDC00 ≤ m ∧ m ≤ 0xDFFF then
          (assemble rest).map (Char.ofNat (0x10000 + (n - 0xD800) * 0x400 + (m - 0xDC00)) :: ·)
        else none
      | _ => none
    else none

/-- A string behind its opening quote, and the text behind the closing one. -/
def scanString (text : List Symbol) : Option (Option String × List Symbol) :=
  match scanPieces text with
  | some (pieces, rest) => some ((assemble pieces).map String.ofList, rest)
  | none => none

/-! ## Numbers -/

/-- The decimal digit that a symbol is. -/
def digit? : Symbol → Option Nat
  | .char c => if '0' ≤ c ∧ c ≤ '9' then some (c.toNat - 48) else none
  | .stray _ => none

/-- The longest run of digits, and the text behind it. -/
def scanDigits : List Symbol → List Nat × List Symbol
  | [] => ([], [])
  | x :: rest =>
    match digit? x with
    | some d =>
      let (digits, rest) := scanDigits rest
      (d :: digits, rest)
    | none => ([], x :: rest)

/-- The digits in front of a point: no leading zeros. -/
def scanWhole (text : List Symbol) : Option (List Nat × List Symbol) :=
  match scanDigits text with
  | ([], _) => none
  | (0 :: _ :: _, _) => none
  | found => some found

/-- The fraction of a number, if there is one. A point needs digits behind it. -/
def scanFraction : List Symbol → Option (Option (List Nat) × List Symbol)
  | .char '.' :: rest =>
    match scanDigits rest with
    | ([], _) => none
    | (digits, rest) => some (some digits, rest)
  | text => some (none, text)

/-- The number that decimal digits denote. -/
def ofDigits (digits : List Nat) : Nat := digits.foldl (fun n d => n * 10 + d) 0

/-- A sign, if there is one: whether it is a minus, and the text behind it. -/
def scanSign : List Symbol → Bool × List Symbol
  | .char '+' :: rest => (false, rest)
  | .char '-' :: rest => (true, rest)
  | text => (false, text)

/-- The exponent of a number behind its mark. -/
def scanPower (text : List Symbol) : Option (Option Int × List Symbol) :=
  let (negative, text) := scanSign text
  match scanDigits text with
  | ([], _) => none
  | (digits, rest) =>
    let n : Int := ofDigits digits
    some (some (if negative then -n else n), rest)

/-- The exponent of a number, if there is one. -/
def scanExponent : List Symbol → Option (Option Int × List Symbol)
  | .char 'e' :: rest => scanPower rest
  | .char 'E' :: rest => scanPower rest
  | text => some (none, text)

/-- An unsigned number, and the text behind it. -/
def scanMagnitude (negative : Bool) (text : List Symbol) : Option (Json.Numeral × List Symbol) := do
  let (whole, text) ← scanWhole text
  let (fraction, text) ← scanFraction text
  let (exponent, text) ← scanExponent text
  return (⟨negative, whole, fraction, exponent⟩, text)

/-- A number, and the text behind it. -/
def scanNumeral : List Symbol → Option (Json.Numeral × List Symbol)
  | .char '-' :: rest => scanMagnitude true rest
  | text => scanMagnitude false text

/-! ## Values -/

/-- The blanks that may stand between the parts of a text. -/
def isSpace : Symbol → Bool
  | .char c => c = ' ' || c = '\n' || c = '\t' || c = '\r'
  | .stray _ => false

/-- The text from its first symbol that is no blank. -/
def skipSpace (text : List Symbol) : List Symbol := text.dropWhile isSpace

/-- The text behind a word that stands in front of it. -/
def scanWord : List Char → List Symbol → Option (List Symbol)
  | [], text => some text
  | c :: word, .char d :: text => if c = d then scanWord word text else none
  | _ :: _, _ => none

/-- A reading of a word, or a broken one. -/
def ofWord (word : List Char) (r : Reading) (text : List Symbol) : Reading × Option (List Symbol) :=
  match scanWord word text with
  | some rest => (r, some rest)
  | none => (.broken, none)

/-- A reading of a number, or a broken one. -/
def ofNumeral (text : List Symbol) : Reading × Option (List Symbol) :=
  match scanNumeral text with
  | some (n, rest) => (.number n.value?, some rest)
  | none => (.broken, none)

/-- The end of an array or an object that was read to its closing bracket, or else was torn. -/
def tailOf (rest : Option (List Symbol)) : Tail := if rest.isSome then .closed else .torn

mutual

/-- The value at the front of a text, and the text behind it unless the value is broken off. The
first argument bounds the number of steps. -/
def scanValue : Nat → List Symbol → Reading × Option (List Symbol)
  | 0, _ => (.broken, none)
  | steps + 1, text =>
    match skipSpace text with
    | .char '"' :: rest =>
      match scanString rest with
      | some (s, rest) => (.string s, some rest)
      | none => (.broken, none)
    | .char '[' :: rest =>
      match skipSpace rest with
      | .char ']' :: rest => (.array [] .closed, some rest)
      | rest =>
        let (items, rest) := scanItems steps rest
        (.array items (tailOf rest), rest)
    | .char '{' :: rest =>
      match skipSpace rest with
      | .char '}' :: rest => (.object [] .closed, some rest)
      | rest =>
        let (fields, rest) := scanFields steps rest
        (.object fields (tailOf rest), rest)
    | .char 'n' :: rest => ofWord ['u', 'l', 'l'] .null rest
    | .char 't' :: rest => ofWord ['r', 'u', 'e'] (.bool true) rest
    | .char 'f' :: rest => ofWord ['a', 'l', 's', 'e'] (.bool false) rest
    | rest => ofNumeral rest

/-- The items of an array, at least one, and the text behind its closing bracket. -/
def scanItems : Nat → List Symbol → List Reading × Option (List Symbol)
  | 0, _ => ([], none)
  | steps + 1, text =>
    match scanValue steps text with
    | (item, none) => ([item], none)
    | (item, some rest) =>
      match skipSpace rest with
      | .char ']' :: rest => ([item], some rest)
      | .char ',' :: rest =>
        let (items, rest) := scanItems steps rest
        (item :: items, rest)
      | _ => ([item], none)

/-- The fields of an object, at least one, and the text behind its closing brace. -/
def scanFields : Nat → List Symbol → List (Option String × Reading) × Option (List Symbol)
  | 0, _ => ([], none)
  | steps + 1, text =>
    match skipSpace text with
    | .char '"' :: rest =>
      match scanString rest with
      | none => ([], none)
      | some (key, rest) =>
        match skipSpace rest with
        | .char ':' :: rest =>
          match scanValue steps rest with
          | (value, none) => ([(key, value)], none)
          | (value, some rest) =>
            match skipSpace rest with
            | .char '}' :: rest => ([(key, value)], some rest)
            | .char ',' :: rest =>
              let (fields, rest) := scanFields steps rest
              ((key, value) :: fields, rest)
            | _ => ([(key, value)], none)
        | _ => ([(key, .broken)], none)
    | _ => ([], none)

end

/-- The value that a text holds, and whether nothing but blanks stands behind it. -/
def ofSymbols (text : List Symbol) : Reading × Bool :=
  match scanValue (2 * text.length + 2) text with
  | (r, some rest) => (r, (skipSpace rest).isEmpty)
  | (r, none) => (r, false)

/-! ## Values in memory -/

mutual

/-- The value that a reading amounts to, if every part of it has one. Of fields with equal names the
last one counts, and the fields come out in the order of their names. -/
def toJson? : Reading → Option Json
  | .null => some .null
  | .bool b => some (.bool b)
  | .number n => n.map .number
  | .string s => s.map .string
  | .array items tail => if tail = .torn then none else (itemsToJson? items).map .array
  | .object fields tail => if tail = .torn then none else (fieldsToJson? fields []).map .object
  | .broken => none

/-- The values that the items of an array amount to. -/
def itemsToJson? : List Reading → Option (List Json)
  | [] => some []
  | item :: rest =>
    match toJson? item, itemsToJson? rest with
    | some value, some values => some (value :: values)
    | _, _ => none

/-- The values that the fields of an object amount to, put among those already there. -/
def fieldsToJson? :
    List (Option String × Reading) → List (String × Json) → Option (List (String × Json))
  | [], done => some done
  | (none, _) :: _, _ => none
  | (some name, value) :: rest, done =>
    match toJson? value with
    | some value => fieldsToJson? rest (Json.putField name value done)
    | none => none

end

mutual

/-- How many arrays and objects nest in a reading. -/
def nesting : Reading → Nat
  | .array items _ => nestingItems items + 1
  | .object fields _ => nestingFields fields + 1
  | _ => 0

/-- How many arrays and objects nest in items. -/
def nestingItems : List Reading → Nat
  | [] => 0
  | item :: rest => max item.nesting (nestingItems rest)

/-- How many arrays and objects nest in fields. -/
def nestingFields : List (Option String × Reading) → Nat
  | [] => 0
  | (_, value) :: rest => max value.nesting (nestingFields rest)

end

end Reading

namespace Json

mutual

/-- A value in memory as it is gone through from left to right. -/
def reading (tail : Tail) : Json → Reading
  | .null => .null
  | .bool b => .bool b
  | .number n => .number (some n)
  | .string s => .string (some s)
  | .array items => .array (readingItems tail items) tail
  | .object fields => .object (readingFields tail fields) tail

/-- The items of an array as they are gone through. -/
def readingItems (tail : Tail) : List Json → List Reading
  | [] => []
  | item :: rest => item.reading tail :: readingItems tail rest

/-- The fields of an object as they are gone through. -/
def readingFields (tail : Tail) : List (String × Json) → List (Option String × Reading)
  | [] => []
  | (name, value) :: rest => (some name, value.reading tail) :: readingFields tail rest

end

/-- How many arrays and objects may nest in a text. -/
def depthLimit : Nat := 127

/-- The value that a whole text holds, nested no deeper than `depth`. -/
def parseWithin? (depth : Nat) (text : List Symbol) : Option Json :=
  match Reading.ofSymbols text with
  | (r, true) => if r.nesting ≤ depth then r.toJson? else none
  | (_, false) => none

/-- The value that a text of bytes holds. -/
def parse? (bytes : ByteArray) : Option Json := parseWithin? depthLimit (Symbol.ofBytes bytes)

end Json

end Tandem
