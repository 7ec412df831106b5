import Bashling.Operator

/-!
# Spellings by their first character

To read an operator, a lexer looks at one character and needs the spellings that start with it. The
table lists the first characters in the order in which they first appear; under each of them stand
its spellings, longest first, and those of one length in the order in which they were given. An
empty spelling has no first character, so there is no table that holds one.
-/

namespace Bashling

/-- First characters, each with the spellings that start with it. -/
abbrev SpellingTable := List (Char × List (List Char))

namespace SpellingTable

/-- A spelling takes its place behind all that are at least as long. -/
def insertByLength (spelling : List Char) : List (List Char) → List (List Char)
  | [] => [spelling]
  | first :: rest =>
    if spelling.length ≤ first.length then first :: insertByLength spelling rest
    else spelling :: first :: rest

/-- Adds a spelling under a first character, which is entered at the end if it is new. -/
def insert (initial : Char) (spelling : List Char) : SpellingTable → SpellingTable
  | [] => [(initial, [spelling])]
  | (c, bucket) :: rest =>
    if c = initial then (c, insertByLength spelling bucket) :: rest
    else (c, bucket) :: insert initial spelling rest

def build? (spellings : List (List Char)) : Option SpellingTable :=
  spellings.foldlM (fun table spelling => spelling.head?.map (insert · spelling table)) []

/-- The spellings that start with a character. -/
def candidates? (table : SpellingTable) (initial : Char) : Option (List (List Char)) :=
  table.lookup initial

end SpellingTable

/-- The operators of the language by first character. -/
def Operator.table : SpellingTable :=
  (SpellingTable.build? (Operator.all.map Operator.spelling)).getD []

end Bashling
