import Bashling.Bash

/-!
# The Bash texts of trees

`Writes` says character by character which text a tree has, one case for each kind of tree that has
one. It agrees with `Node.toBash` (`Writes.toBash`, `Node.writes_of_toBash`), and what is shown
about texts is shown by induction on it.

Two trees that stand for the same program at different places become equal when they are stripped of
their places (`Node.stripped`).
-/

namespace Bashling

namespace Bash

/-- The characters in front of every name. -/
def stem : List Char := ['_', '_', 'V', 'D', 'S', 'H', '_', '_']

/-- Some texts, each on a new line. -/
def lines (texts : List (List Char)) : List Char := texts.flatMap ('\n' :: ·)

/-- Some texts with line feeds between them. -/
def joined : List (List Char) → List Char
  | [] => []
  | text :: texts => text ++ lines texts

private theorem toList_mangled (name : String) : (mangled name).toList = stem ++ name.toList := by
  rw [mangled, String.toList_append]
  rfl

theorem toList_localText (target value : String) :
    (localText target value).toList =
      "local ".toList ++ stem ++ target.toList ++ '=' :: value.toList := by
  simp [localText, toList_mangled]

private theorem intercalate_newline (texts : List (List Char)) :
    ['\n'].intercalate texts = joined texts := by
  cases texts with
  | nil => rfl
  | cons text texts =>
    induction texts generalizing text with
    | nil => simp [joined, lines]
    | cons text' texts ih =>
      rw [List.intercalate_cons_cons, ih]
      simp [joined, lines]

end Bash

/-- The trees that have a Bash text, with the text. The statements of a block are listed together
with their texts. -/
inductive Writes : Node → List Char → Prop where
  | identifier (name) : Writes (.identifier name) ('$' :: Bash.stem ++ name.value.toList)
  | whole {literal : Located Binary64} {value} (whole : literal.value.toInt? = some value) :
      Writes (.number literal) (toString value).toList
  | fraction {literal : Located Binary64} (fraction : literal.value.toInt? = none) :
      Writes (.number literal) (Token.form (literal.map .number)).line.toList
  | string (literal) :
      Writes (.string literal) ('"' :: (Token.form (literal.map .string)).line.toList ++ ['"'])
  | unary {operand text} (operator : Located Operator) (inner : Writes operand text) :
      Writes (.unary operator operand)
        ("$((".toList ++ operator.value.spelling ++ text ++ "))".toList)
  | binary {left right text text'} (operator : Located Operator) (front : Writes left text)
      (back : Writes right text') :
      Writes (.binary left operator right)
        ("$((".toList ++ text ++ operator.value.spelling ++ text' ++ "))".toList)
  | parameters {items text} (bound : Bash.bindParameters 0 items = .ok text) :
      Writes (.parameters items) text.toList
  | block {parts : List (Node × List Char)} (inner : ∀ part ∈ parts, Writes part.1 part.2) :
      Writes (.block (parts.map (·.1)))
        ("\x7b\n".toList ++ Bash.joined (parts.map (·.2)) ++ "\n\x7d".toList)
  | letStatement {value text} (keyword target) (inner : Writes value text) :
      Writes (.letStatement keyword (.assignment target value))
        ("local ".toList ++ Bash.stem ++ target.value.toList ++ '=' :: text)
  | funcStatement {items text} {parts : List (Node × List Char)} (keyword name)
      (bound : Bash.bindParameters 0 items = .ok text)
      (inner : ∀ part ∈ parts, Writes part.1 part.2) :
      Writes
        (.funcStatement keyword
          (.declaration name (.parameters items) (.block (parts.map (·.1)))))
        ("function ".toList ++ Bash.stem ++ name.value.toList ++ "()\x7b\n".toList ++
          text.toList ++ Bash.joined (parts.map (·.2)) ++ "\n\x7d".toList)

section Parts

variable {text : List Char}

theorem Writes.of_identifier {name : Located String} (writes : Writes (.identifier name) text) :
    text = '$' :: Bash.stem ++ name.value.toList := by
  cases writes
  rfl

theorem Writes.of_unary {operator : Located Operator} {operand : Node}
    (writes : Writes (.unary operator operand) text) :
    ∃ inner, Writes operand inner ∧
      text = "$((".toList ++ operator.value.spelling ++ inner ++ "))".toList := by
  cases writes with
  | unary _ inner => exact ⟨_, inner, rfl⟩

theorem Writes.of_binary {operator : Located Operator} {left right : Node}
    (writes : Writes (.binary left operator right) text) :
    ∃ inner inner', Writes left inner ∧ Writes right inner' ∧
      text = "$((".toList ++ inner ++ operator.value.spelling ++ inner' ++ "))".toList := by
  cases writes with
  | binary _ front back => exact ⟨_, _, front, back, rfl⟩

theorem Writes.of_let {keyword : Located Keyword} {target : Located String} {value : Node}
    (writes : Writes (.letStatement keyword (.assignment target value)) text) :
    ∃ inner, Writes value inner ∧
      text = "local ".toList ++ Bash.stem ++ target.value.toList ++ '=' :: inner := by
  cases writes with
  | letStatement _ _ inner => exact ⟨_, inner, rfl⟩

theorem Writes.of_func {keyword : Located Keyword} {name : Located String}
    {items nodes : List Node}
    (writes : Writes
      (.funcStatement keyword (.declaration name (.parameters items) (.block nodes))) text) :
    ∃ (bindings : String) (parts : List (Node × List Char)), nodes = parts.map (·.1) ∧
      Bash.bindParameters 0 items = .ok bindings ∧ (∀ part ∈ parts, Writes part.1 part.2) ∧
      text = "function ".toList ++ Bash.stem ++ name.value.toList ++ "()\x7b\n".toList ++
        bindings.toList ++ Bash.joined (parts.map (·.2)) ++ "\n\x7d".toList := by
  cases writes with
  | funcStatement _ _ bound inner => exact ⟨_, _, rfl, bound, inner, rfl⟩

end Parts

private theorem Node.toBashAll_of_writes {parts : List (Node × List Char)}
    (written : ∀ part ∈ parts, part.1.toBash = .ok (String.ofList part.2)) :
    Node.toBashAll (parts.map (·.1)) = .ok (parts.map fun part => String.ofList part.2) := by
  induction parts with
  | nil => rfl
  | cons part parts ih =>
    rw [List.map_cons, Node.toBashAll, written part List.mem_cons_self,
      ih fun part member => written part (List.mem_cons_of_mem _ member)]
    rfl

/-- A text is given by its characters. -/
private theorem ok_ofList {text : String} {chars : List Char} (same : text.toList = chars) :
    (.ok text : Except Failure String) = .ok (String.ofList chars) := by
  rw [← same, String.ofList_toList]

theorem Writes.toBash {node : Node} {text : List Char} (writes : Writes node text) :
    node.toBash = .ok (String.ofList text) := by
  induction writes with
  | identifier name =>
    rw [Node.toBash]
    exact ok_ofList (by simp [Bash.toList_mangled])
  | whole whole =>
    rw [Node.toBash]
    exact ok_ofList (by simp [Bash.number, whole])
  | fraction fraction =>
    rw [Node.toBash]
    exact ok_ofList (by simp [Bash.number, fraction])
  | string literal =>
    rw [Node.toBash]
    exact ok_ofList (by simp)
  | unary operator _ ih =>
    rw [Node.toBash, ih]
    exact ok_ofList (by simp [Bash.arithmetic])
  | binary operator _ _ ihFront ihBack =>
    rw [Node.toBash, ihFront, ihBack]
    exact ok_ofList (by simp [Bash.arithmetic])
  | parameters bound =>
    rw [Node.toBash, bound]
    exact ok_ofList rfl
  | block _ ih =>
    rw [Node.toBash, Node.toBashAll_of_writes ih]
    exact ok_ofList (by simp [Bash.intercalate_newline, Function.comp_def])
  | letStatement keyword target _ ih =>
    rw [Node.toBash, ih]
    exact ok_ofList (by simp [Bash.toList_localText])
  | funcStatement keyword name bound _ ih =>
    rw [Node.toBash, Bash.itemsOf]
    simp only [bind, Except.bind, bound, Node.toBashBody, Node.toBashAll_of_writes ih]
    exact ok_ofList (by
      simp [Bash.intercalate_newline, Bash.toList_mangled, Function.comp_def])

theorem ok_of_bind {α β : Type} {first : Except Failure α} {next : α → Except Failure β} {b : β}
    (done : first >>= next = .ok b) : ∃ a, first = .ok a ∧ next a = .ok b := by
  cases first with
  | error failure => cases done
  | ok a => exact ⟨a, rfl, done⟩

mutual

theorem Node.writes_of_toBash {text : String} :
    (node : Node) → node.toBash = .ok text → Writes node text.toList
  | .identifier name, written => by
    cases written
    have writes := Writes.identifier name
    simpa [Bash.toList_mangled] using writes
  | .number literal, written => by
    cases written
    rw [Bash.number]
    split
    · exact .whole ‹_›
    · exact .fraction ‹_›
  | .string literal, written => by
    cases written
    have writes := Writes.string literal
    simpa using writes
  | .unary operator operand, written => by
    obtain ⟨inner, first, last⟩ := ok_of_bind written
    cases last
    have writes := Writes.unary operator (operand.writes_of_toBash first)
    simpa [Bash.arithmetic] using writes
  | .binary left operator right, written => by
    obtain ⟨inner, first, more⟩ := ok_of_bind written
    obtain ⟨inner', second, last⟩ := ok_of_bind more
    cases last
    have writes :=
      Writes.binary operator (left.writes_of_toBash first) (right.writes_of_toBash second)
    simpa [Bash.arithmetic] using writes
  | .parameters items, written => .parameters written
  | .block statements, written => by
    obtain ⟨texts, first, last⟩ := ok_of_bind written
    cases last
    obtain ⟨parts, rfl, same, inner⟩ := Node.writes_of_toBashAll statements first
    have writes := Writes.block inner
    simpa [Bash.intercalate_newline, same] using writes
  | .letStatement keyword assigned, written => by
    cases assigned with
    | assignment target value =>
      obtain ⟨inner, first, last⟩ := ok_of_bind written
      cases last
      have writes := Writes.letStatement keyword target (value.writes_of_toBash first)
      simpa [Bash.toList_localText] using writes
    | _ =>
      -- What has a name may still lack a value.
      obtain ⟨_, _, last⟩ := ok_of_bind written
      cases last
  | .funcStatement keyword declared, written => by
    cases declared with
    | declaration name list body =>
      -- The parameters have to be a list and the body a block.
      obtain ⟨items, listed, more⟩ := ok_of_bind written
      obtain ⟨bindings, bound, more'⟩ := ok_of_bind more
      obtain ⟨texts, first, last⟩ := ok_of_bind more'
      cases last
      cases list with
      | parameters items =>
        cases listed
        cases body with
        | block statements =>
          obtain ⟨parts, rfl, same, inner⟩ := Node.writes_of_toBashAll statements first
          have writes := Writes.funcStatement keyword name bound inner
          simpa [Bash.intercalate_newline, Bash.toList_mangled, same] using writes
        | _ => cases first
      | _ => cases listed
    | _ =>
      obtain ⟨_, _, last⟩ := ok_of_bind written
      cases last
  | .bare, written | .parameter _, written | .assignment _ _, written
  | .declaration _ _ _, written => by cases written

private theorem Node.writes_of_toBashAll {texts : List String} :
    (nodes : List Node) → Node.toBashAll nodes = .ok texts →
      ∃ parts : List (Node × List Char), parts.map (·.1) = nodes ∧
        parts.map (·.2) = texts.map String.toList ∧ ∀ part ∈ parts, Writes part.1 part.2
  | [], written => by
    cases written
    exact ⟨[], rfl, rfl, by simp⟩
  | node :: nodes, written => by
    obtain ⟨text, first, more⟩ := ok_of_bind written
    obtain ⟨later, second, last⟩ := ok_of_bind more
    cases last
    have head := node.writes_of_toBash first
    obtain ⟨parts, rfl, same, inner⟩ := Node.writes_of_toBashAll nodes second
    refine ⟨(node, text.toList) :: parts, rfl, by simp [same], ?_⟩
    simpa [head] using inner

end

/-! ### Trees without places -/

/-- The same thing as if it stood where a text begins. -/
def Located.unplaced {α : Type} (l : Located α) : Located α := ⟨.origin, .origin, l.value⟩

theorem Located.value_eq_of_unplaced {α : Type} {l l' : Located α}
    (same : l.unplaced = l'.unplaced) : l.value = l'.value := by
  injection same

mutual

/-- A tree without the places of its tokens, and with its type names replaced. -/
def Node.stripped (retype : String → String) : Node → Node
  | .bare => .bare
  | .identifier name => .identifier name.unplaced
  | .number literal => .number literal.unplaced
  | .string literal => .string literal.unplaced
  | .unary operator operand => .unary operator.unplaced (operand.stripped retype)
  | .binary left operator right =>
    .binary (left.stripped retype) operator.unplaced (right.stripped retype)
  | .parameter item => .parameter ⟨item.name.unplaced, (item.type.map retype).unplaced⟩
  | .parameters items => .parameters (Node.strippedAll retype items)
  | .block statements => .block (Node.strippedAll retype statements)
  | .assignment target value => .assignment target.unplaced (value.stripped retype)
  | .letStatement keyword assigned => .letStatement keyword.unplaced (assigned.stripped retype)
  | .declaration name items body =>
    .declaration name.unplaced (items.stripped retype) (body.stripped retype)
  | .funcStatement keyword declared => .funcStatement keyword.unplaced (declared.stripped retype)

def Node.strippedAll (retype : String → String) : List Node → List Node
  | [] => []
  | node :: nodes => node.stripped retype :: Node.strippedAll retype nodes

end

end Bashling
