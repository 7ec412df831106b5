import Bashling.Number.Binary64
import Bashling.Text.Digit

/-!
# Decimal numerals

A decimal is a whole coefficient times a power of ten, and reading one rounds it to the nearest
double. Digits of every script count. A *literal*, as it stands in a program, is a run of digits
with at most one point in it and at least one digit around it; it has no sign and no exponent.
-/

namespace Bashling

/-- The number `coefficient * 10 ^ exponent`. -/
structure Decimal where
  coefficient : Nat
  exponent : Int
  deriving DecidableEq, Repr

namespace Decimal

/-- The number that a run of digit values denotes. -/
def ofDigits (digits : List Nat) : Nat :=
  digits.foldl (fun total digit => 10 * total + digit) 0

/-- The digits on both sides of the first point, which a second point is not one of. -/
def ofLiteral? (text : List Char) : Option Decimal := do
  let whole := text.takeWhile (· ≠ '.')
  let fraction := (text.dropWhile (· ≠ '.')).drop 1
  let digits ← (whole ++ fraction).mapM Text.decimalValue?
  if digits.isEmpty then none
  else some ⟨ofDigits digits, -(fraction.length : Int)⟩

def powerOfTen (n : Nat) : Nat := Nat.pow 10 n

/-- Numerator and denominator of a decimal. -/
def ratio (d : Decimal) : Nat × Nat :=
  if 0 ≤ d.exponent then (d.coefficient * powerOfTen d.exponent.toNat, 1)
  else (d.coefficient, powerOfTen (-d.exponent).toNat)

def toBinary64 (d : Decimal) (negative : Bool) : Binary64 :=
  Binary64.ofRatio negative d.ratio.1 d.ratio.2

end Decimal

namespace Binary64

/-- The value of a number as a program writes it. -/
def ofLiteral? (text : List Char) : Option Binary64 :=
  (Decimal.ofLiteral? text).map (·.toBinary64 false)

end Binary64
end Bashling
