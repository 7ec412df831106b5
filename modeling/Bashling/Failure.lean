import Bashling.Value

/-!
# Failures

Every way in which a step can fail to give its result. Most failures belong to the language: they
say what is wrong with a program, and fall into the families below. A failure that carries no
details of its own is *stated*: a family and a message. The other failures lie outside the
language. A value may have no Bash form, a tree may lack a part that its Bash form needs or hold a
tree where a list belongs, and a token may have no last character because nothing has been read.
-/

namespace Bashling

/-- What a failure of the language is about. -/
inductive Family where
  | general
  | exhausted
  | lexical
  | grammatical
  deriving DecidableEq, Repr

inductive Failure where
  | unexpectedCharacter (text : String) (position : Position)
  | invalidOperator (start stop : Position) (text : String)
  | unterminatedString (start : Position)
  | invalidNumber (start stop : Position) (text : String)
  | unclosedParen (opening : Token) (inner : Node) (expected : Operator) (actual : Token)
  | unexpectedToken (token : Token)
  | invalidParameter (expected : Operator) (actual : Token)
  | missingTarget (actual : Token)
  | missingAssign (target : String) (actual : Token)
  | missingType (parameter : String) (actual : Token)
  | missingSemicolon (actual : Token)
  | missingLeftBrace (actual : Token)
  | missingAssignedStatement (target : Token)
  | missingFunctionName (actual : Token)
  | missingRightParen (actual : Token)
  | missingLeftParen (actual : Token)
  | stated (family : Family) (message : String)
  | unsupported (value : Value)
  | lacking (node : Node) (part : Part)
  | notAList (node : Node)
  | unplaced
  deriving Repr

namespace Failure

/-- The family of a failure of the language. -/
def family? : Failure → Option Family
  | .unexpectedCharacter .. | .invalidOperator .. | .unterminatedString .. | .invalidNumber .. =>
    some .lexical
  | .unclosedParen .. | .unexpectedToken .. | .invalidParameter .. | .missingTarget ..
  | .missingAssign .. | .missingType .. | .missingSemicolon .. | .missingLeftBrace ..
  | .missingAssignedStatement .. | .missingFunctionName .. | .missingRightParen ..
  | .missingLeftParen .. => some .grammatical
  | .stated family _ => some family
  | .unsupported _ | .lacking .. | .notAList _ | .unplaced => none

def isStated : Failure → Bool
  | .stated .. => true
  | _ => false

/-- A failure of a family that has details of its own. -/
def Specific (family : Family) (failure : Failure) : Prop :=
  failure.family? = some family ∧ failure.isStated = false

instance (family : Family) (failure : Failure) : Decidable (failure.Specific family) :=
  inferInstanceAs (Decidable (_ ∧ _))

/-- What a failure says in words; only a stated one has words of its own. -/
def message : Failure → String
  | .stated _ message => message
  | _ => ""

/-- Nothing is left to take. -/
def nothingToTake : Failure :=
  .stated .exhausted "Attempted to get the next character in an exhausted iterator"

/-- Nothing is left to look at. -/
def nothingToPeek : Failure :=
  .stated .exhausted "Atempted to peek past iterator length"

/-- Two failures are equal when they are of one kind with equal details. A stated failure has no
details to compare, and is told apart from every other one. -/
def equal : Failure → Failure → Bool
  | .unexpectedCharacter text position, .unexpectedCharacter text' position' =>
    text == text' && position == position'
  | .invalidOperator start stop text, .invalidOperator start' stop' text' =>
    start == start' && stop == stop' && text == text'
  | .unterminatedString start, .unterminatedString start' => start == start'
  | .invalidNumber start stop text, .invalidNumber start' stop' text' =>
    start == start' && stop == stop' && text == text'
  | .unclosedParen opening inner expected actual,
      .unclosedParen opening' inner' expected' actual' =>
    opening == opening' && inner == inner' && expected == expected' && actual == actual'
  | .unexpectedToken token, .unexpectedToken token' => token == token'
  | .invalidParameter expected actual, .invalidParameter expected' actual' =>
    expected == expected' && actual == actual'
  | .missingTarget actual, .missingTarget actual' => actual == actual'
  | .missingAssign target actual, .missingAssign target' actual' =>
    target == target' && actual == actual'
  | .missingType parameter actual, .missingType parameter' actual' =>
    parameter == parameter' && actual == actual'
  | .missingSemicolon actual, .missingSemicolon actual' => actual == actual'
  | .missingLeftBrace actual, .missingLeftBrace actual' => actual == actual'
  | .missingAssignedStatement target, .missingAssignedStatement target' => target == target'
  | .missingFunctionName actual, .missingFunctionName actual' => actual == actual'
  | .missingRightParen actual, .missingRightParen actual' => actual == actual'
  | .missingLeftParen actual, .missingLeftParen actual' => actual == actual'
  | _, _ => false

instance : BEq Failure := ⟨equal⟩

end Failure
end Bashling
