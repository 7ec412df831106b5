/-!
# Double-precision numbers

The numbers of the language are the IEEE 754 binary64 numbers. A program only reads them, prints
them, compares them and asks whether they are whole, so a number is kept as the exact dyadic
rational `mantissa * 2 ^ exponent` and all of this is arithmetic on natural numbers.

`ofRatio` rounds a quotient to the nearest number, a tie to the even mantissa. The exponent is
chosen so that the mantissa has 53 bits, unless that would take it below `-1074`, the exponent of
the least positive number; beyond exponent `971` a 53-bit mantissa is out of range and the result
is infinite.
-/

namespace Bashling

inductive Binary64 where
  | finite (negative : Bool) (mantissa : Nat) (exponent : Int)
  | infinite (negative : Bool)
  | nan
  deriving DecidableEq, Repr, Inhabited

namespace Binary64

def powerOfTwo (n : Nat) : Nat := Nat.pow 2 n

/-- The quotient rounded to the nearest integer, a tie to the even one. -/
def roundedQuotient (num den : Nat) : Nat :=
  let below := num / den
  let twice := 2 * (num % den)
  if twice < den then below
  else if den < twice then below + 1
  else below + below % 2

/-- Numerator and denominator of `num / den` in units of `2 ^ exponent`. -/
def inUnits (num den : Nat) (exponent : Int) : Nat × Nat :=
  if 0 ≤ exponent then (num, den * powerOfTwo exponent.toNat)
  else (num * powerOfTwo (-exponent).toNat, den)

/-- The exponent of the last bit of the 53-bit mantissa nearest to `num / den`, no less than that
of the least positive number. The two bit lengths leave a choice of two exponents, and the
quotient in units of the smaller one decides between them. -/
def unitExponent (num den : Nat) : Int :=
  let least : Int := (num.log2 : Int) - den.log2 - 53
  let (n, d) := inUnits num den least
  let full := if n / d < powerOfTwo 53 then least else least + 1
  if full < -1074 then -1074 else full

/-- The number nearest to `num / den`, a tie going to the even mantissa. -/
def ofRatio (negative : Bool) (num den : Nat) : Binary64 :=
  if num = 0 then .finite negative 0 0
  else
    let exponent := unitExponent num den
    let (n, d) := inUnits num den exponent
    let mantissa := roundedQuotient n d
    let (mantissa, exponent) :=
      if mantissa = powerOfTwo 53 then (powerOfTwo 52, exponent + 1) else (mantissa, exponent)
    if 971 < exponent then .infinite negative else .finite negative mantissa exponent

/-- Numerator and denominator of `mantissa * 2 ^ exponent`. -/
def magnitude (mantissa : Nat) (exponent : Int) : Nat × Nat :=
  if 0 ≤ exponent then (mantissa * powerOfTwo exponent.toNat, 1)
  else (mantissa, powerOfTwo (-exponent).toNat)

/-- The integer a number is equal to, if it is whole; an infinite number is not. -/
def toInt? : Binary64 → Option Int
  | .finite negative mantissa exponent =>
    let (num, den) := magnitude mantissa exponent
    if num % den = 0 then some (if negative then -((num / den : Nat) : Int) else (num / den : Nat))
    else none
  | .infinite _ => none
  | .nan => none

/-- Numerical equality: zero has no sign, and a number that is not one equals nothing. -/
def equal : Binary64 → Binary64 → Bool
  | .finite n m e, .finite n' m' e' =>
    let (num, den) := magnitude m e
    let (num', den') := magnitude m' e'
    num * den' == num' * den && (n == n' || num == 0)
  | .infinite n, .infinite n' => n == n'
  | _, _ => false

instance : BEq Binary64 := ⟨equal⟩

end Binary64
end Bashling
