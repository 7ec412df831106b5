import Bashling.Failure

/-!
# Sources

A source hands out items one after the other and can tell whether it is over. Asking an exhausted
list for an item is a failure and leaves the list as it is.

A `Lookahead` lets a reader see the next item before it takes it: it holds at most one item that
its source has already handed out. Wrapping a source in lookahead gives a source again, so layers
can be stacked to any depth.
-/

namespace Bashling

class Source (σ : Type) (α : outParam Type) where
  /-- Takes the next item. -/
  next : σ → Except Failure α × σ
  isOver : σ → Bool

/-- The items of a list from some place on. -/
structure Cursor (α : Type) where
  /-- How many items have been taken. -/
  taken : Nat
  rest : List α
  deriving Repr

namespace Cursor

variable {α : Type}

def ofList (items : List α) : Cursor α := ⟨0, items⟩

def next (c : Cursor α) : Except Failure α × Cursor α :=
  match c.rest with
  | [] => (.error .nothingToTake, c)
  | item :: rest => (.ok item, ⟨c.taken + 1, rest⟩)

def isOver (c : Cursor α) : Bool := c.rest.isEmpty

instance : Source (Cursor α) α := ⟨next, isOver⟩

end Cursor

/-- A source of which the next item may already have been taken. -/
structure Lookahead (σ α : Type) where
  source : σ
  held : Option α
  deriving Repr

namespace Lookahead

variable {σ α : Type}

/-- A source of which nothing has been taken yet. -/
def ofSource (source : σ) : Lookahead σ α := ⟨source, none⟩

/-- The lookahead after the item it holds. -/
def release (s : Lookahead σ α) : Lookahead σ α := ⟨s.source, none⟩

variable [Source σ α]

def next (s : Lookahead σ α) : Except Failure α × Lookahead σ α :=
  match s.held with
  | some item => (.ok item, ⟨s.source, none⟩)
  | none =>
    let (item, source) := Source.next s.source
    (item, ⟨source, none⟩)

/-- Shows the next item without taking it, unless the source is over. -/
def peek (s : Lookahead σ α) : Except Failure α × Lookahead σ α :=
  match s.held with
  | some item => (.ok item, s)
  | none =>
    if Source.isOver s.source then (.error .nothingToPeek, s)
    else
      match Source.next s.source with
      | (.ok item, source) => (.ok item, ⟨source, some item⟩)
      | (.error failure, source) => (.error failure, ⟨source, none⟩)

def isOver (s : Lookahead σ α) : Bool :=
  s.held.isNone && Source.isOver s.source

instance : Source (Lookahead σ α) α := ⟨next, isOver⟩

end Lookahead
end Bashling
