/-!
# Printed forms

Everything that is shown to a user is a text, a record with named fields, or a list. It can be laid
out on one line, or expanded: then every field and item has lines of its own, one level further in,
and a bar marks each level.
-/

namespace Bashling

inductive Form where
  | atom (text : String)
  | record (name : String) (fields : List (String × Form))
  | sequence (items : List Form)
  deriving Inhabited

namespace Form

mutual

/-- A form on one line. -/
def line : Form → String
  | .atom text => text
  | .record name fields => name ++ "(" ++ ", ".intercalate (lineFields fields) ++ ")"
  | .sequence items => "[" ++ ", ".intercalate (lineItems items) ++ "]"

def lineFields : List (String × Form) → List String
  | [] => []
  | (label, form) :: rest => (label ++ "=" ++ form.line) :: lineFields rest

def lineItems : List Form → List String
  | [] => []
  | form :: rest => form.line :: lineItems rest

end

/-- The bars in front of a line. -/
def margin (depth : Nat) : String :=
  String.join (List.replicate depth "│   ")

/-- What follows an item that others follow. -/
def separator {α : Type} (rest : List α) : String :=
  if rest.isEmpty then "" else ","

mutual

/-- The lines of an expanded form: what stands before it goes to its first line, what follows it to
its last one. A record without fields and an empty list take one line. -/
def lines (depth : Nat) (before after : String) : Form → List String
  | .atom text => [margin depth ++ before ++ text ++ after]
  | .record name [] => [margin depth ++ before ++ name ++ "()" ++ after]
  | .record name fields =>
    (margin depth ++ before ++ name ++ "(") :: linesFields (depth + 1) fields ++
      [margin depth ++ ")" ++ after]
  | .sequence [] => [margin depth ++ before ++ "[]" ++ after]
  | .sequence items =>
    (margin depth ++ before ++ "[") :: linesItems (depth + 1) items ++
      [margin depth ++ "]" ++ after]

def linesFields (depth : Nat) : List (String × Form) → List String
  | [] => []
  | (label, form) :: rest =>
    lines depth (label ++ "=") (separator rest) form ++ linesFields depth rest

def linesItems (depth : Nat) : List Form → List String
  | [] => []
  | form :: rest => lines depth "" (separator rest) form ++ linesItems depth rest

end

def expanded (form : Form) : String :=
  "\n".intercalate (form.lines 0 "" "")

end Form
end Bashling
