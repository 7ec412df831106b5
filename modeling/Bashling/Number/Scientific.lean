import Bashling.Number.Decimal
import Bashling.Text.Blank

/-!
# Numbers in scientific form

The form in which a number is written outside a program, and which reads back every printed number.
Around it there may be white space. It has an optional sign, and is a literal with an optional
exponent, or one of the words for a number that is infinite or none, in letters of either case. A
low line may stand between two digits and means nothing.

An exponent can be too large to compute with, but then its exact value does not matter. A positive
coefficient of at most `n` digits makes an infinite number with any exponent from 400 on, and zero
with any exponent up to `-(n + 400)`, so an exponent beyond these bounds is brought back to them.
-/

namespace Bashling

namespace Text

/-- White space around a number: every blank but the four separators of the ASCII controls. -/
def isPadding (c : Char) : Bool :=
  isBlank c && !(0x1c ≤ c.toNat && c.toNat ≤ 0x1f)

/-- A text without the white space at its ends. -/
def trimPadding (text : List Char) : List Char :=
  ((text.dropWhile isPadding).reverse.dropWhile isPadding).reverse

def isDecimalDigit (c : Char) : Bool :=
  (decimalValue? c).isSome

/-- A text without its low lines, each of which has to stand between two digits; the flag says
whether a digit comes right before the text. -/
def dropLowLines? (afterDigit : Bool) : List Char → Option (List Char)
  | [] => some []
  | c :: rest =>
    if c = '_' then
      if afterDigit && rest.head?.any isDecimalDigit then dropLowLines? false rest else none
    else (dropLowLines? (isDecimalDigit c) rest).map (c :: ·)

end Text

namespace Decimal

/-- An exponent within the bounds that matter for a coefficient of some count of digits. -/
def boundExponent (digits : Nat) (exponent : Int) : Int :=
  if 400 < exponent then 400
  else if exponent < -(digits + 400 : Int) then -(digits + 400 : Int)
  else exponent

end Decimal

namespace Binary64

/-- A sign in front of a text, and the text after it. -/
def signed : List Char → Bool × List Char
  | '-' :: rest => (true, rest)
  | '+' :: rest => (false, rest)
  | text => (false, text)

/-- The exponent after the letter that announces it; none is zero. -/
def exponentOf? : List Char → Option Int
  | [] => some 0
  | _ :: text => do
    let (negative, text) := signed text
    let digits ← text.mapM Text.decimalValue?
    if digits.isEmpty then none
    else some (if negative then -(Decimal.ofDigits digits : Int) else Decimal.ofDigits digits)

/-- The number that a word stands for. -/
def ofWord? (negative : Bool) (text : List Char) : Option Binary64 :=
  match text.map Char.toLower with
  | ['i', 'n', 'f'] | ['i', 'n', 'f', 'i', 'n', 'i', 't', 'y'] => some (.infinite negative)
  | ['n', 'a', 'n'] => some .nan
  | _ => none

def announcesExponent (c : Char) : Bool :=
  c == 'e' || c == 'E'

/-- The number of a literal that an exponent may follow. -/
def ofNumeral? (negative : Bool) (text : List Char) : Option Binary64 := do
  let literal := text.takeWhile (!announcesExponent ·)
  let decimal ← Decimal.ofLiteral? literal
  let exponent ← exponentOf? (text.dropWhile (!announcesExponent ·))
  let bounded := Decimal.boundExponent literal.length (decimal.exponent + exponent)
  return Decimal.toBinary64 ⟨decimal.coefficient, bounded⟩ negative

/-- The number that a text in scientific form stands for. -/
def ofScientific? (text : String) : Option Binary64 := do
  let text ← Text.dropLowLines? false (Text.trimPadding text.toList)
  let (negative, text) := signed text
  (ofWord? negative text) <|> (ofNumeral? negative text)

end Binary64
end Bashling
