import Tandem.Decimal.Shortest
import Tandem.Text.Numeral

/-! # Numbers of JSON

A number is an integer when its text has neither fraction nor exponent and it fits a machine word,
and a double otherwise. A double is computed from its text in one multiplication or division of a
64-bit significand by a power of ten, so it can differ in the last place from the correctly rounded
one. -/

namespace Tandem.Json

/-- A number: an exact integer, or a double given by its bits. -/
inductive Number where
  | integer (n : Int)
  | real (bits : UInt64)
  deriving DecidableEq, Repr

/-- The parts of a number's text. -/
structure Numeral where
  negative : Bool := false
  /-- The digits in front of the point. -/
  whole : List Nat
  /-- The digits behind the point, if there is one. -/
  fraction : Option (List Nat) := none
  /-- The exponent, if there is one. -/
  exponent : Option Int := none
  deriving DecidableEq, Repr

namespace Numeral

/-- The greatest significand. -/
def greatest : Nat := UInt64.size - 1

/-- Digits gathered into a significand until it would pass `greatest`, with the number of digits
left over. -/
def gather (significand : Nat) : List Nat → Nat × Nat
  | [] => (significand, 0)
  | d :: rest =>
    if significand * 10 + d ≤ greatest then gather (significand * 10 + d) rest
    else (significand, rest.length + 1)

/-- The significand and the power of ten that a numeral stands for. Digits in front of the point
that the significand cannot take count as zeros; digits behind the point that it cannot take are
dropped. -/
def parts (n : Numeral) : Nat × Int :=
  let (whole, zeros) := gather 0 n.whole
  let digits := n.fraction.getD []
  let (significand, dropped) := gather whole digits
  (significand, n.exponent.getD 0 + zeros - (digits.length - dropped : Nat))

/-- A power of ten as a double. -/
def tenTo (n : Nat) : Float := Float.ofScientific 1 false n

/-- The greatest power of ten that is a finite double. -/
def greatestPower : Nat := 308

/-- A significand times a power of ten, unless it is too great for a double. Two divisions by the
greatest power take every significand to zero. -/
def scale? (significand : Nat) (power : Int) : Option Float :=
  let x := significand.toUInt64.toFloat
  match power with
  | .ofNat n =>
    if n ≤ greatestPower then
      let y := x * tenTo n
      if y.isInf then none else some y
    else if significand = 0 then some x
    else none
  | .negSucc n =>
    if n + 1 ≤ greatestPower then some (x / tenTo (n + 1))
    else if n + 1 - greatestPower ≤ greatestPower then
      some (x / tenTo greatestPower / tenTo (n + 1 - greatestPower))
    else some 0.0

/-- The double that a numeral stands for, unless it is too great for one. -/
def real? (n : Numeral) : Option Number :=
  let (significand, power) := n.parts
  (scale? significand power).map fun x => .real (if n.negative then -x else x).toBits

/-- The number that a numeral stands for, unless it is too great for a double. -/
def value? (n : Numeral) : Option Number :=
  let (significand, power) := n.parts
  if n.fraction.isNone ∧ n.exponent.isNone ∧ power = 0 then
    if ¬ n.negative then some (.integer significand)
    else if 0 < significand ∧ 2 * significand ≤ UInt64.size then some (.integer (-(significand : Int)))
    else n.real?
  else n.real?

end Numeral

namespace Number

/-- Doubles are positional from `0.00001` to below `10 ^ 16`, and carry a signed exponent outside. -/
def layout : Decimal.Layout := ⟨-5, 15, "+"⟩

/-- The text of a double. One that is no number, or infinite, has no JSON form and is `null`. -/
def realText (bits : UInt64) : String :=
  let magnitude := bits.toNat % (UInt64.size / 2)
  let sign := if UInt64.size ≤ 2 * bits.toNat then "-" else ""
  if 0x7FF0000000000000 ≤ magnitude then "null"
  else if magnitude = 0 then sign ++ "0.0"
  else sign ++ layout.write (Decimal.Binary.ofBits bits).shortest

/-- The text of a number. -/
def text : Number → String
  | .integer n => Text.signed n
  | .real bits => realText bits

end Number

end Tandem.Json
