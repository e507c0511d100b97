import Tandem.Json.Decode
import Tandem.Text.Blank

/-! # Addresses

Addresses are 64-bit words. An offset counts from the base of an image, and adding it to the base
stops at the greatest address. -/

namespace Tandem

/-- An address in an image, absolute or relative to its base. -/
abbrev Address := UInt64

namespace Address

/-- The greatest address. -/
def greatest : Nat := UInt64.size - 1

/-- The sum of two addresses, or the greatest address when there is none. -/
def plus (a b : Address) : Address := (min (a.toNat + b.toNat) greatest).toUInt64

/-- An address as messages show it, in hexadecimal behind `0x`. -/
def text (a : Address) : String := Text.hexMarked a.toNat

/-! ## Reading -/

/-- A base and the digits that it applies to, from the mark in front of them. -/
def baseAndDigits : List Char → Nat × List Char
  | '0' :: 'x' :: rest => (16, rest)
  | '0' :: 'X' :: rest => (16, rest)
  | '0' :: 'b' :: rest => (2, rest)
  | '0' :: 'B' :: rest => (2, rest)
  | '0' :: 'o' :: rest => (8, rest)
  | '0' :: 'O' :: rest => (8, rest)
  | digits => (10, digits)

/-- Digits without one plus sign in front of them. -/
def withoutPlus : List Char → List Char
  | '+' :: rest => rest
  | digits => digits

/-- The text of an address as it is judged: without blanks at its ends and without underscores. -/
def normalized (s : List Char) : List Char := (Text.trim s).filter (· ≠ '_')

/-- The address that a normalized text denotes. -/
def ofNormalized? (s : List Char) : Option Address :=
  let (base, digits) := baseAndDigits s
  match Text.readDigits? base (withoutPlus digits) with
  | some n => if n ≤ greatest then some n.toUInt64 else none
  | none => none

/-- The address that a text denotes, or else the text as it was judged. -/
def parse (s : String) : Except String Address :=
  let judged := normalized s.toList
  match ofNormalized? judged with
  | some a => .ok a
  | none => .error (String.ofList judged)

/-- An address as requests give it: a number, or a text that denotes one. -/
def decode : Decoder Address
  | .number (some (.integer n)) =>
    if 0 ≤ n ∧ n ≤ greatest then .ok n.toNat.toUInt64 else .error (.noAlternative "AddressRepr")
  | .string (some s) =>
    match parse s with
    | .ok a => .ok a
    | .error judged => .error (.invalidAddress judged)
  | _ => .error (.noAlternative "AddressRepr")

end Address

end Tandem
