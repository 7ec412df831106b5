import Bashling.Number.Decimal

/-!
# The shortest decimal of a double

Among the decimals that read back as a given number, the printed one has the fewest digits, and
among those it is the nearest to the number. With a fixed count of digits the decimals near the
number form a grid, and if any point of that grid reads back then so does one of the two points
next to the number, since reading is monotone. So it is enough to test these two on each grid, from
one digit upwards. Seventeen digits always suffice.
-/

namespace Bashling.Decimal

/-- How many decimal digits a positive number has. -/
def width (n : Nat) : Nat :=
  (Nat.toDigits 10 n).length

/-- The exponent of the leading digit of a positive ratio. The least positive double exceeds
`10 ^ -400`, so after that scaling the leading digit stands in the integer part. -/
def leadingExponent (num den : Nat) : Int :=
  (width (num * powerOfTen 400 / den) : Int) - 401

/-- The point of a decimal grid just below a ratio, as a multiple of `10 ^ exponent`. -/
def gridFloor (num den : Nat) (exponent : Int) : Nat :=
  let unit := Decimal.ratio ⟨1, exponent⟩
  num * unit.2 / (den * unit.1)

/-- Of two neighbours on a grid, whether the lower one is preferred: the nearer one is, and in the
middle the even one. -/
def prefersFloor (num den : Nat) (exponent : Int) (below : Nat) : Bool :=
  let middle := Decimal.ratio ⟨2 * below + 1, exponent⟩
  let left := 2 * num * middle.2
  let right := den * middle.1
  left < right || (left == right && below % 2 == 0)

/-- The decimal of at most `digits` significant digits nearest to a number that reads back as it,
where `leading` is the exponent of the number's leading digit. -/
def ofPrecision? (mantissa : Nat) (exponent leading : Int) (digits : Nat) : Option Decimal :=
  let (num, den) := Binary64.magnitude mantissa exponent
  let unit := leading - digits + 1
  let below := gridFloor num den unit
  let readsBack (coefficient : Nat) : Bool :=
    Decimal.toBinary64 ⟨coefficient, unit⟩ false == .finite false mantissa exponent
  match readsBack below, readsBack (below + 1) with
  | true, true => some ⟨if prefersFloor num den unit below then below else below + 1, unit⟩
  | true, false => some ⟨below, unit⟩
  | false, true => some ⟨below + 1, unit⟩
  | false, false => none

/-- The shortest decimal that reads back as `mantissa * 2 ^ exponent`. -/
def shortest (mantissa : Nat) (exponent : Int) : Decimal :=
  let (num, den) := Binary64.magnitude mantissa exponent
  let leading := leadingExponent num den
  ((List.range 17).findSome? fun more => ofPrecision? mantissa exponent leading (more + 1)).getD
    ⟨0, 0⟩

end Bashling.Decimal
