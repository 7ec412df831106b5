import Bashling.Keyword
import Bashling.Number.Binary64
import Bashling.Operator
import Bashling.Position

/-!
# Tokens

A token is a lexeme with its place in the text. The end of a text is a token of its own, and a bare
token carries a place and nothing else. A reader of tokens asks for one kind at a time, so the
questions below return what a token of that kind carries, still at its place.
-/

namespace Bashling

inductive Lexeme where
  | bare
  | eof
  | number (value : Binary64)
  | string (value : String)
  | keyword (kind : Keyword)
  | identifier (name : String)
  | operator (kind : Operator)
  deriving DecidableEq, BEq, Repr

abbrev Token := Located Lexeme

namespace Token

def isEof (t : Token) : Bool :=
  match t.value with
  | .eof => true
  | _ => false

def number? (t : Token) : Option (Located Binary64) :=
  match t.value with
  | .number value => some (t.map fun _ => value)
  | _ => none

def identifier? (t : Token) : Option (Located String) :=
  match t.value with
  | .identifier name => some (t.map fun _ => name)
  | _ => none

/-- The keyword of a token, if it is one of the given. -/
def keyword? (t : Token) (among : List Keyword) : Option (Located Keyword) :=
  match t.value with
  | .keyword kind => if kind ∈ among then some (t.map fun _ => kind) else none
  | _ => none

/-- The operator of a token, if it is one of the given. -/
def operator? (t : Token) (among : List Operator) : Option (Located Operator) :=
  match t.value with
  | .operator kind => if kind ∈ among then some (t.map fun _ => kind) else none
  | _ => none

end Token
end Bashling
