import Bashling.Proofs.Totality

/-!
# Trees without a Bash text

Four kinds of tree have no Bash text, because they are only parts of others: the bare tree, a
parameter, an assignment and a declaration. A tree of any other kind puts the texts of some trees in
it together, from left to right (`Typed.toBash_eq_map`). So writing a tree fails exactly if a tree
of these four kinds is asked for its text, and the one that is asked first is the failure
(`toBash_fails_at_first`).

Which one is first is said by paths. A path leads from a tree into its parts, each step by the
number of a part, and of two paths the one that is less in the lexicographic order is walked first.
-/

namespace Bashling

namespace Node

/-- The trees in which every part is of the kind that its place asks for. An operand, a value and a
statement may be of any kind. -/
inductive Typed : Node → Prop where
  | bare : Typed .bare
  | identifier (name) : Typed (.identifier name)
  | number (literal) : Typed (.number literal)
  | string (literal) : Typed (.string literal)
  | unary {operand} (operator) (inner : Typed operand) : Typed (.unary operator operand)
  | binary {left right} (operator) (front : Typed left) (back : Typed right) :
      Typed (.binary left operator right)
  | parameter (item) : Typed (.parameter item)
  | parameters (items : List Parameter) : Typed (.parameters (items.map .parameter))
  | block {statements} (inner : ∀ node ∈ statements, Typed node) : Typed (.block statements)
  | assignment {value} (target) (inner : Typed value) : Typed (.assignment target value)
  | letStatement {value} (keyword target) (inner : Typed value) :
      Typed (.letStatement keyword (.assignment target value))
  | declaration {statements} (name) (items : List Parameter)
      (inner : ∀ node ∈ statements, Typed node) :
      Typed (.declaration name (.parameters (items.map .parameter)) (.block statements))
  | funcStatement {statements} (keyword name) (items : List Parameter)
      (inner : ∀ node ∈ statements, Typed node) :
      Typed (.funcStatement keyword
        (.declaration name (.parameters (items.map .parameter)) (.block statements)))

/-- Whether trees of this kind have a Bash text. -/
def writable : Node → Bool
  | .identifier _ | .number _ | .string _ | .unary .. | .binary .. | .parameters _ | .block _
  | .letStatement .. | .funcStatement .. => true
  | .bare | .parameter _ | .assignment .. | .declaration .. => false

/-- The trees whose texts are put together in the text of a tree, from left to right. -/
def parts : Node → List Node
  | .unary _ operand => [operand]
  | .binary left _ right => [left, right]
  | .block statements => statements
  | .letStatement _ (.assignment _ value) => [value]
  | .funcStatement _ (.declaration _ _ (.block statements)) => statements
  | _ => []

/-- `Found root path node`: from the root, the path leads to the node. -/
inductive Found : Node → List Nat → Node → Prop where
  | here (node) : Found node [] node
  | inside {root part node : Node} {index path} (numbered : root.parts[index]? = some part)
      (later : Found part path node) : Found root (index :: path) node

/-- The node at which a walk through a tree, from left to right and into each part before the next
one, first comes to a tree of a kind without a text. -/
structure FirstAt (root : Node) (path : List Nat) (node : Node) : Prop where
  found : Found root path node
  refused : node.writable = false
  earliest : ∀ path' node', Found root path' node' → node'.writable = false →
    ¬List.Lex (· < ·) path' path

/-! ### Paths -/

section Paths

variable {root part node node' : Node} {path path' : List Nat}

theorem Found.unique (found : Found root path node) (found' : Found root path node') :
    node = node' := by
  induction found with
  | here =>
    cases found'
    rfl
  | inside numbered _ ih =>
    cases found' with
    | inside numbered' later' =>
      cases numbered.symm.trans numbered'
      exact ih later'

/-- There is only one such node, since of two different paths one is less. -/
theorem FirstAt.unique (first : FirstAt root path node) (first' : FirstAt root path' node') :
    node = node' := by
  have same : path = path' :=
    List.le_antisymm (first.earliest path' node' first'.found first'.refused)
      (first'.earliest path node first.found first.refused)
  subst same
  exact first.found.unique first'.found

private theorem firstAt_here (refused : node.writable = false) : FirstAt node [] node where
  found := .here node
  refused := refused
  earliest := by
    intro path' node' _ _ less
    cases less

/-- What comes first in a part comes first in the tree, if the tree itself and all in front of the
part have a text. -/
private theorem FirstAt.of_part {before after : List Node} (writable : root.writable = true)
    (split : root.parts = before ++ part :: after) (first : FirstAt part path node)
    (written : ∀ sibling ∈ before, ∀ path' node', Found sibling path' node' →
      node'.writable = true) :
    FirstAt root (before.length :: path) node where
  found := .inside (by simp [split]) first.found
  refused := first.refused
  earliest := by
    intro path' node' found refused less
    cases found with
    | here => simp [writable] at refused
    | @inside _ sibling _ index inner numbered later =>
      cases less with
      | rel less =>
        -- A lower number leads to something in front of the part.
        have member : sibling ∈ before := by
          rw [split, List.getElem?_append_left less] at numbered
          exact List.mem_of_getElem? numbered
        simp [written sibling member inner node' later] at refused
      | cons less =>
        have same : sibling = part := by simpa [split] using numbered.symm
        subst same
        exact first.earliest inner node' later refused less

end Paths

/-! ### What one tree does -/

private theorem toBash_of_not_writable {node : Node} (refused : node.writable = false) :
    node.toBash = .error (.unsupported (.node node)) := by
  cases node <;> first | rfl | cases refused

/-- A tree of a kind with a text joins the texts of its parts, and fails where one of them does. -/
theorem Typed.toBash_eq_map {node : Node} (typed : Typed node) (writable : node.writable = true) :
    ∃ join : List String → String, node.toBash = (toBashAll node.parts).map join := by
  cases typed with
  | bare | parameter | assignment | declaration => cases writable
  | identifier | number | string => exact ⟨fun _ => _, rfl⟩
  | @unary operand operator _ =>
    refine ⟨fun texts => Bash.arithmetic (String.ofList operator.value.spelling ++ texts.headD ""),
      ?_⟩
    simp only [toBash, parts, toBashAll]
    cases operand.toBash <;> rfl
  | @binary left right operator _ _ =>
    refine ⟨fun texts => Bash.arithmetic
      (texts.headD "" ++ String.ofList operator.value.spelling ++ texts.tail.headD ""), ?_⟩
    simp only [toBash, parts, toBashAll]
    cases left.toBash <;> cases right.toBash <;> rfl
  | parameters items =>
    obtain ⟨text, bound⟩ := Bash.bindParameters_parameters 0 items
    exact ⟨fun _ => text, bound⟩
  | @block statements _ =>
    refine ⟨fun texts => "\x7b\n" ++ "\n".intercalate texts ++ "\n\x7d", ?_⟩
    simp only [toBash, parts]
    cases toBashAll statements <;> rfl
  | @letStatement value _ target _ =>
    refine ⟨fun texts => Bash.localText target.value (texts.headD ""), ?_⟩
    simp only [toBash, parts, toBashAll]
    cases value.toBash <;> rfl
  | @funcStatement statements _ name items _ =>
    obtain ⟨bindings, bound⟩ := Bash.bindParameters_parameters 0 items
    refine ⟨fun texts => "function " ++ Bash.mangled name.value ++ "()\x7b\n" ++ bindings ++
      "\n".intercalate texts ++ "\n\x7d", ?_⟩
    simp only [toBash, parts, Bash.itemsOf, toBashBody, bind, Except.bind, bound]
    cases toBashAll statements <;> rfl

/-- Writing trees one after the other fails with the first of them that fails. -/
private theorem toBashAll_cases (nodes : List Node) :
    (∃ texts, toBashAll nodes = .ok texts ∧ ∀ node ∈ nodes, ∃ text, node.toBash = .ok text) ∨
      ∃ before node after failure, nodes = before ++ node :: after ∧
        toBashAll nodes = .error failure ∧ node.toBash = .error failure ∧
        ∀ sibling ∈ before, ∃ text, sibling.toBash = .ok text := by
  induction nodes with
  | nil => exact .inl ⟨[], rfl, by simp⟩
  | cons node nodes ih =>
    cases first : node.toBash with
    | error failure =>
      refine .inr ⟨[], node, nodes, failure, rfl, ?_, first, by simp⟩
      simp only [toBashAll, first, bind, Except.bind]
    | ok text =>
      have head : ∃ text, node.toBash = .ok text := ⟨text, first⟩
      rcases ih with ⟨texts, later, all⟩ | ⟨before, inner, after, failure, rfl, later, failed, all⟩
      · refine .inl ⟨text :: texts, ?_, by simpa using ⟨head, all⟩⟩
        simp only [toBashAll, first, later, bind, Except.bind, pure, Except.pure]
      · refine .inr ⟨node :: before, inner, after, failure, rfl, ?_, failed, by
          simpa using ⟨head, all⟩⟩
        simp only [toBashAll, first, later, bind, Except.bind]

/-! ### Whole trees -/

/-- What becomes of a tree: a text, if all that is found in it has one, or else the first that has
none is the failure. -/
inductive Outcome (node : Node) : Prop where
  | written (text) (given : node.toBash = .ok text)
      (all : ∀ path inner, Found node path inner → inner.writable = true)
  | refused (path inner) (given : node.toBash = .error (.unsupported (.node inner)))
      (first : FirstAt node path inner)

private theorem Outcome.writable_of_ok {node inner : Node} {text : String} {path : List Nat}
    (outcome : Outcome node) (given : node.toBash = .ok text) (found : Found node path inner) :
    inner.writable = true := by
  cases outcome with
  | written _ _ all => exact all path inner found
  | refused _ _ given' _ => cases given.symm.trans given'

private theorem Outcome.first_of_error {node : Node} {failure : Failure} (outcome : Outcome node)
    (given : node.toBash = .error failure) :
    ∃ path inner, FirstAt node path inner ∧ failure = .unsupported (.node inner) := by
  cases outcome with
  | written _ given' _ => cases given.symm.trans given'
  | refused path inner given' first =>
    cases given.symm.trans given'
    exact ⟨path, inner, first, rfl⟩

private theorem outcome_of_parts {node : Node} (typed : Typed node)
    (inner : ∀ part ∈ node.parts, Outcome part) : Outcome node := by
  cases writable : node.writable with
  | false => exact .refused [] node (toBash_of_not_writable writable) (firstAt_here writable)
  | true =>
    obtain ⟨join, joined⟩ := typed.toBash_eq_map writable
    rcases toBashAll_cases node.parts with
      ⟨texts, written, all⟩ | ⟨before, part, after, failure, split, failed, first, all⟩
    · refine .written (join texts) (by rw [joined, written]; rfl) ?_
      intro path found' found
      cases found with
      | here => exact writable
      | inside numbered later =>
        have member := List.mem_of_getElem? numbered
        obtain ⟨text, given⟩ := all _ member
        exact (inner _ member).writable_of_ok given later
    · -- The part that fails does so at the first tree in it without a text.
      have outcome := inner part (by simp [split])
      obtain ⟨path, refused, firstAt, rfl⟩ := outcome.first_of_error first
      refine .refused (before.length :: path) refused (by rw [joined, failed]; rfl) ?_
      refine firstAt.of_part writable split ?_
      intro sibling member path' node' found
      obtain ⟨text, given⟩ := all sibling member
      exact (inner sibling (by simp [split, member])).writable_of_ok given found

/-- The induction is on the kinds of tree; the hypothesis is about the parts that are written. -/
theorem Typed.outcome {node : Node} (typed : Typed node) : Outcome node := by
  induction typed with
  | bare => exact outcome_of_parts .bare (by simp [parts])
  | identifier name => exact outcome_of_parts (.identifier name) (by simp [parts])
  | number literal => exact outcome_of_parts (.number literal) (by simp [parts])
  | string literal => exact outcome_of_parts (.string literal) (by simp [parts])
  | unary operator inner ih => exact outcome_of_parts (.unary operator inner) (by simpa [parts])
  | binary operator front back ihFront ihBack =>
    exact outcome_of_parts (.binary operator front back) (by simpa [parts] using ⟨ihFront, ihBack⟩)
  | parameter item => exact outcome_of_parts (.parameter item) (by simp [parts])
  | parameters items => exact outcome_of_parts (.parameters items) (by simp [parts])
  | block inner ih => exact outcome_of_parts (.block inner) ih
  | assignment target inner => exact outcome_of_parts (.assignment target inner) (by simp [parts])
  | letStatement keyword target inner ih =>
    exact outcome_of_parts (.letStatement keyword target inner) (by simpa [parts])
  | declaration name items inner =>
    exact outcome_of_parts (.declaration name items inner) (by simp [parts])
  | funcStatement keyword name items inner ih =>
    exact outcome_of_parts (.funcStatement keyword name items inner) ih

/-- Writing a typed tree fails exactly if a tree of a kind without a text is found in it, and the
first one that is found is the failure. -/
theorem toBash_fails_at_first (root : Node) (typed : root.Typed) :
    ((∃ value, root.toBash = .error (.unsupported value)) ↔
      ∃ path node, Found root path node ∧ node.writable = false) ∧
    ∀ failure, root.toBash = .error failure ↔
      ∃ path node, FirstAt root path node ∧ failure = .unsupported (.node node) := by
  cases typed.outcome with
  | written text given all =>
    constructor
    · constructor
      · rintro ⟨value, failed⟩
        cases given.symm.trans failed
      · rintro ⟨path, node, found, refused⟩
        simp [all path node found] at refused
    · intro failure
      constructor
      · intro failed
        cases given.symm.trans failed
      · rintro ⟨path, node, first, -⟩
        simpa [all path node first.found] using first.refused
  | refused path inner given first =>
    constructor
    · exact iff_of_true ⟨_, given⟩ ⟨path, inner, first.found, first.refused⟩
    · intro failure
      rw [given]
      constructor
      · rintro ⟨⟩
        exact ⟨path, inner, first, rfl⟩
      · rintro ⟨path', inner', first', rfl⟩
        rw [first.unique first']

/-- In the body of a function, a bare tree stands behind an assignment without its `let`, which is
the right operand of a sum in the statement before. -/
theorem toBash_fails_at_first_assignment :
    let place : Position := ⟨1, 1⟩
    let name (text : String) : Located String := ⟨place, place, text⟩
    let assigned : Node := .assignment (name "y") .bare
    let root : Node :=
      .funcStatement ⟨place, place, .func⟩
        (.declaration (name "f") (.parameters [.parameter ⟨name "x", name "int"⟩])
          (.block [.binary (.identifier (name "x")) ⟨place, place, .plus⟩ assigned,
            .letStatement ⟨place, place, .let⟩ (.assignment (name "z") .bare)]))
    root.Typed ∧ Found root [0, 1] assigned ∧ Found root [1, 0] .bare ∧
      (∃ value, root.toBash = .error (.unsupported value)) ∧
      ∃ path, FirstAt root path assigned := by
  intro place name assigned root
  have typed : root.Typed :=
    .funcStatement _ _ [⟨name "x", name "int"⟩] (by
      simpa using ⟨.binary _ (.identifier _) (.assignment _ .bare), .letStatement _ _ .bare⟩)
  have found : Found root [0, 1] assigned := .inside rfl (.inside rfl (.here _))
  have found' : Found root [1, 0] .bare := .inside rfl (.inside rfl (.here _))
  obtain ⟨fails, first⟩ := toBash_fails_at_first root typed
  obtain ⟨path, node, firstAt, same⟩ := (first (.unsupported (.node assigned))).mp rfl
  cases same
  exact ⟨typed, found, found', fails.mpr ⟨[0, 1], assigned, found, rfl⟩, path, firstAt⟩

end Node

end Bashling
