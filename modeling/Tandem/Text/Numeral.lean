/-! # Numerals

Natural numbers as text: decimal and hexadecimal digits, zero padding, and reading digits of a
base back. -/

namespace Tandem.Text

/-- The decimal digits of a number, without leading zeros. -/
def decimal (n : Nat) : String := String.ofList (Nat.toDigits 10 n)

/-- The hexadecimal digits of a number in lower case, without leading zeros. -/
def hex (n : Nat) : String := String.ofList (Nat.toDigits 16 n)

/-- An integer in decimal, with a sign only when it is negative. -/
def signed : Int → String
  | .ofNat n => decimal n
  | .negSucc n => "-" ++ decimal (n + 1)

/-- A number in hexadecimal behind the mark `0x`. -/
def hexMarked (n : Nat) : String := "0x" ++ hex n

/-- Text filled up with zeros on the left to a least width. -/
def zeroPadded (width : Nat) (s : String) : String :=
  String.ofList (s.toList.leftpad width '0')

/-- The value of an ASCII digit or letter as a digit, in either case. -/
def digitValue? (c : Char) : Option Nat :=
  let n := c.toNat
  if '0' ≤ c ∧ c ≤ '9' then some (n - 48)
  else if 'a' ≤ c ∧ c ≤ 'z' then some (n - 87)
  else if 'A' ≤ c ∧ c ≤ 'Z' then some (n - 55)
  else none

/-- One more digit of a base behind the digits read so far. -/
def pushDigit? (base value : Nat) (c : Char) : Option Nat :=
  match digitValue? c with
  | some d => if d < base then some (value * base + d) else none
  | none => none

/-- The number that a list of digits of a base denotes; the empty list denotes none. -/
def readDigits? (base : Nat) (s : List Char) : Option Nat :=
  if s.isEmpty then none else s.foldlM (pushDigit? base) 0

/-- A word for how many there are, with its plural beyond one. -/
def counted (n : Nat) (noun : String) : String :=
  decimal n ++ " " ++ noun ++ (if n = 1 then "" else "s")

end Tandem.Text
