import Bashling.Source

/-!
# Stacked lookahead

A list under any number of layers of lookahead.
-/

namespace Bashling

/-- A cursor under `depth` layers of lookahead. -/
def Layers (α : Type) : (depth : Nat) → Type
  | 0 => Cursor α
  | depth + 1 => Lookahead (Layers α depth) α

namespace Layers

variable {α : Type}

def ofList (items : List α) : (depth : Nat) → Layers α depth
  | 0 => Cursor.ofList items
  | depth + 1 => Lookahead.ofSource (ofList items depth)

instance source : (depth : Nat) → Source (Layers α depth) α
  | 0 => inferInstanceAs (Source (Cursor α) α)
  | depth + 1 =>
    have := source depth
    inferInstanceAs (Source (Lookahead (Layers α depth) α) α)

def next {depth : Nat} (s : Layers α depth) : Except Failure α × Layers α depth :=
  Source.next s

def isOver {depth : Nat} (s : Layers α depth) : Bool :=
  Source.isOver s

/-- Looking ahead needs a layer to hold what was seen. -/
def peek {depth : Nat} (s : Layers α (depth + 1)) : Except Failure α × Layers α (depth + 1) :=
  Lookahead.peek (σ := Layers α depth) s

end Layers
end Bashling
