import Bashling.Number.Shortest

/-!
# The text of a number

A number is written with its shortest digits. The point is placed among them, with at least one
digit on each side, when the leading digit stands for something between `10 ^ -4` and `10 ^ 15`;
otherwise the point follows the leading digit and the exponent is written with its sign and at
least two digits.
-/

namespace Bashling

namespace Decimal

/-- Digits without the zeros at their end. -/
def trimZeros (digits : List Char) : List Char :=
  (digits.reverse.dropWhile (· == '0')).reverse

def zeros (count : Nat) : List Char :=
  List.replicate count '0'

/-- A point put `point` places into the digits, filled up with zeros on either side. -/
def positional (digits : List Char) (point : Int) : List Char :=
  if point ≤ 0 then ['0', '.'] ++ zeros (-point).toNat ++ digits
  else if digits.length ≤ point.toNat then
    digits ++ zeros (point.toNat - digits.length) ++ ['.', '0']
  else digits.take point.toNat ++ '.' :: digits.drop point.toNat

/-- An exponent with its sign and at least two digits. -/
def exponentText (exponent : Int) : List Char :=
  let digits := Nat.toDigits 10 exponent.natAbs
  (if exponent < 0 then '-' else '+') :: (zeros (2 - digits.length) ++ digits)

/-- Digits with the point after the first one, and the power of ten that restores the value. -/
def scientific (digits : List Char) (point : Int) : List Char :=
  digits.take 1 ++ (if digits.length ≤ 1 then [] else '.' :: digits.drop 1) ++
    'e' :: exponentText (point - 1)

/-- The text of a positive decimal. -/
def layout (d : Decimal) : List Char :=
  let all := Nat.toDigits 10 d.coefficient
  let point := (all.length : Int) + d.exponent
  let digits := trimZeros all
  if -4 < point ∧ point ≤ 16 then positional digits point else scientific digits point

end Decimal

namespace Binary64

def signText (negative : Bool) : List Char :=
  if negative then ['-'] else []

def text : Binary64 → List Char
  | .finite negative mantissa exponent =>
    signText negative ++
      if mantissa = 0 then ['0', '.', '0'] else (Decimal.shortest mantissa exponent).layout
  | .infinite negative => signText negative ++ ['i', 'n', 'f']
  | .nan => ['n', 'a', 'n']

end Binary64
end Bashling
