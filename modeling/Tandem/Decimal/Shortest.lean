/-! # Shortest decimals

The shortest decimal that reads back as a given binary double, found in exact arithmetic.

A positive double is `m * 2 ^ q`. Every real strictly between the midpoints to its two neighbours
rounds to it, and the midpoints themselves do so when `m` is even. On the grid of decimals with a
fixed number of digits, only the two points around the value can be nearest to it, so it is enough
to try these two for one digit, two digits, and so on. -/

namespace Tandem.Decimal

/-- A positive binary value `mantissa * 2 ^ exponent`. `narrow` says that its lower neighbour is
half as far away as its upper one. -/
structure Binary where
  mantissa : Nat
  exponent : Int
  narrow : Bool
  deriving DecidableEq, Repr

/-- A decimal value `digits * 10 ^ exponent`. -/
structure Scaled where
  digits : Nat
  exponent : Int
  deriving DecidableEq, Repr

/-- The weight of the leading bit of a double, which its bits leave out: 2 to the power of 52. -/
def hidden : Nat := 4503599627370496

/-- The parts of a finite double's magnitude, from its bits. -/
def Binary.ofBits (bits : UInt64) : Binary :=
  let fraction : Nat := bits.toNat % hidden
  let biased : Nat := bits.toNat / hidden % 2048
  if biased = 0 then ⟨fraction, -1074, false⟩
  else ⟨hidden + fraction, (biased : Int) - 1075, fraction = 0 ∧ 1 < biased⟩

namespace Binary

/-- The power of two that scales the quarters of a value up. -/
def up (b : Binary) : Nat := Nat.pow 2 (b.exponent - 2).toNat

/-- The power of two that scales the quarters of a value down. -/
def down (b : Binary) : Nat := Nat.pow 2 (2 - b.exponent).toNat

/-- Whether `n * 10 ^ e` rounds to the value. -/
def contains (b : Binary) (n : Nat) (e : Int) : Bool :=
  let point := n * Nat.pow 10 e.toNat * b.down
  let unit := b.up * Nat.pow 10 (-e).toNat
  let low := (4 * b.mantissa - if b.narrow then 1 else 2) * unit
  let high := (4 * b.mantissa + 2) * unit
  if b.mantissa % 2 = 0 then low ≤ point && point ≤ high else low < point && point < high

/-- The exponent of the value's leading decimal digit. -/
def magnitude (b : Binary) : Int :=
  let top := 4 * b.mantissa * b.up
  if b.down ≤ top then (Nat.toDigits 10 (top / b.down)).length - 1
  else -((Nat.toDigits 10 ((b.down - 1) / top)).length : Int)

/-- The grid point with step `10 ^ e` that rounds to the value, if one does: the nearer of the two
around it, and the even one when both are equally near. -/
def nearest? (b : Binary) (e : Int) : Option Nat :=
  let top := 4 * b.mantissa * b.up * Nat.pow 10 (-e).toNat
  let bottom := b.down * Nat.pow 10 e.toNat
  let below := top / bottom
  let rest := top % bottom
  let lower := b.contains below e
  let upper := b.contains (below + 1) e
  let preferLower := 2 * rest < bottom || (2 * rest = bottom && below % 2 = 0)
  if lower && (preferLower || !upper) then some below
  else if upper then some (below + 1)
  else none

/-- The first grid with a point that rounds to the value, from coarse to fine. -/
def shortestFrom (b : Binary) : Nat → Int → Scaled
  | 0, e => ⟨(b.nearest? e).getD 0, e⟩
  | more + 1, e =>
    match b.nearest? e with
    | some n => ⟨n, e⟩
    | none => shortestFrom b more (e - 1)

/-- The shortest decimal that reads back as the value. Seventeen digits always suffice. -/
def shortest (b : Binary) : Scaled := b.shortestFrom 17 b.magnitude

end Binary

/-! ## Layout -/

/-- How a decimal is laid out as text. -/
structure Layout where
  /-- Leading exponents from here on are written positionally. -/
  least : Int
  /-- Leading exponents up to here are written positionally. -/
  greatest : Int
  /-- The mark in front of a positive exponent. -/
  plus : String

/-- The digits of a decimal without trailing zeros, and the exponent of the last one left. -/
def Scaled.trimmed (value : Scaled) : List Char × Int :=
  let digits := Nat.toDigits 10 value.digits
  let kept := (digits.reverse.dropWhile (· = '0')).reverse
  (kept, value.exponent + (digits.length - kept.length : Nat))

/-- A decimal as text: `12.5`, `100.0` and `0.001` within the positional range, `1.5e+20` outside. -/
def Layout.write (layout : Layout) (value : Scaled) : String :=
  let (digits, exponent) := value.trimmed
  let leading := exponent + digits.length - 1
  if layout.least ≤ leading ∧ leading ≤ layout.greatest then
    if 0 ≤ exponent then
      String.ofList (digits ++ List.replicate exponent.toNat '0') ++ ".0"
    else if 0 ≤ leading then
      let whole := leading.toNat + 1
      String.ofList (digits.take whole) ++ "." ++ String.ofList (digits.drop whole)
    else
      "0." ++ String.ofList (List.replicate (-leading - 1).toNat '0' ++ digits)
  else
    let mantissa :=
      match digits with
      | d :: e :: rest => d :: '.' :: e :: rest
      | short => short
    let sign := if 0 ≤ leading then layout.plus else "-"
    String.ofList mantissa ++ "e" ++ sign ++ String.ofList (Nat.toDigits 10 leading.natAbs)

end Tandem.Decimal
