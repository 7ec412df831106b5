/-!
# Keywords

The words that no variable can be named by.
-/

namespace Bashling

inductive Keyword where
  | for | if | let | else | while | return | func | struct
  deriving DecidableEq, Repr

namespace Keyword

def all : List Keyword :=
  [.for, .if, .let, .else, .while, .return, .func, .struct]

def spelling : Keyword → List Char
  | .for => ['f', 'o', 'r']
  | .if => ['i', 'f']
  | .let => ['l', 'e', 't']
  | .else => ['e', 'l', 's', 'e']
  | .while => ['w', 'h', 'i', 'l', 'e']
  | .return => ['r', 'e', 't', 'u', 'r', 'n']
  | .func => ['f', 'u', 'n', 'c']
  | .struct => ['s', 't', 'r', 'u', 'c', 't']

/-- The name under which a keyword is shown. -/
def label : Keyword → String
  | .for => "FOR"
  | .if => "IF"
  | .let => "LET"
  | .else => "ELSE"
  | .while => "WHILE"
  | .return => "RETURN"
  | .func => "FUNC"
  | .struct => "STRUCT"

def ofSpelling? (text : List Char) : Option Keyword :=
  all.find? (·.spelling == text)

theorem mem_all (k : Keyword) : k ∈ all := by
  cases k <;> decide

theorem ofSpelling?_spelling (k : Keyword) : ofSpelling? k.spelling = some k := by
  cases k <;> decide

theorem spelling_of_ofSpelling? {text : List Char} {k : Keyword}
    (found : ofSpelling? text = some k) : k.spelling = text := by
  simpa using List.find?_some found

end Keyword
end Bashling
