/-! # Symbols

A text that arrives as bytes need not be UTF-8 throughout. It is read as symbols: characters where
the bytes encode one, and stray bytes everywhere else. -/

namespace Tandem.Text

/-- A unit of a text of bytes. -/
inductive Symbol where
  /-- A character that the bytes encode. -/
  | char (c : Char)
  /-- A byte that belongs to no character. -/
  | stray (byte : UInt8)
  deriving DecidableEq, Repr

namespace Symbol

/-- Symbols from a position on: a character where one starts, a stray byte otherwise. The first
argument bounds how many symbols are read. -/
def scan (bytes : ByteArray) : Nat → Nat → List Symbol
  | 0, _ => []
  | steps + 1, position =>
    if h : position < bytes.size then
      match bytes.utf8DecodeChar? position with
      | some c => .char c :: scan bytes steps (position + c.utf8Size)
      | none => .stray (bytes.get position h) :: scan bytes steps (position + 1)
    else []

/-- The symbols of a text of bytes: its characters when it is UTF-8. -/
def ofBytes (bytes : ByteArray) : List Symbol :=
  match String.fromUTF8? bytes with
  | some text => text.toList.map .char
  | none => scan bytes bytes.size 0

/-- The symbols of a text, one per character. -/
def ofString (text : String) : List Symbol := text.toList.map .char

/-- The text that a list of symbols spells, unless one of them is stray. -/
def toChars? : List Symbol → Option (List Char)
  | [] => some []
  | .char c :: rest => (toChars? rest).map (c :: ·)
  | .stray _ :: _ => none

/-! ## Showing strays -/

/-- The ranges for the bytes that can follow a byte at the start of a character. -/
def followers (byte : UInt8) : List (UInt8 × UInt8) :=
  let any : UInt8 × UInt8 := (0x80, 0xBF)
  if byte < 0xC2 then []
  else if byte < 0xE0 then [any]
  else if byte = 0xE0 then [(0xA0, 0xBF), any]
  else if byte = 0xED then [(0x80, 0x9F), any]
  else if byte < 0xF0 then [any, any]
  else if byte = 0xF0 then [(0x90, 0xBF), any, any]
  else if byte < 0xF4 then [any, any, any]
  else if byte = 0xF4 then [(0x80, 0x8F), any, any]
  else []

/-- The text of symbols, with one replacement character for every beginning of a character that was
cut off, and for every other stray byte. The first argument holds the ranges for the bytes that
would go on with the beginning before them. -/
def showFrom : List (UInt8 × UInt8) → List Symbol → List Char
  | _, [] => []
  | _, .char c :: rest => c :: showFrom [] rest
  | [], .stray byte :: rest => '\uFFFD' :: showFrom (followers byte) rest
  | (low, high) :: more, .stray byte :: rest =>
    if low ≤ byte && byte ≤ high then showFrom more rest
    else '\uFFFD' :: showFrom (followers byte) rest

/-- A text of bytes as it is shown. -/
def shown (bytes : ByteArray) : String := String.ofList (showFrom [] (ofBytes bytes))

end Symbol

end Tandem.Text
