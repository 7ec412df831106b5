/-!
# Places in a source text

A text starts in row 1, column 1. Each character moves the place one column on; a line feed moves
it to the next row, whose first character stands in column 0. A located thing runs from its first
character to its last one, both included.
-/

namespace Bashling

structure Position where
  row : Int
  column : Int
  deriving DecidableEq, Repr, Inhabited

namespace Position

/-- Where a text begins. -/
def origin : Position := ⟨1, 1⟩

/-- The place right after a character. -/
def after (p : Position) (c : Char) : Position :=
  if c = '\n' then ⟨p.row + 1, 0⟩ else ⟨p.row, p.column + 1⟩

/-- The place right after a text. -/
def afterAll (p : Position) (text : List Char) : Position :=
  text.foldl after p

end Position

/-- Something that was written, with the places of its first and its last character. -/
structure Located (α : Type) where
  start : Position
  stop : Position
  value : α
  deriving DecidableEq, BEq, Repr

/-- A different reading of the same stretch of text. -/
def Located.map {α β : Type} (f : α → β) (l : Located α) : Located β :=
  ⟨l.start, l.stop, f l.value⟩

end Bashling
