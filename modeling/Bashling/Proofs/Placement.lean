import Bashling.Proofs.BashText
import Bashling.Proofs.Runs

/-!
# What a Bash text tells about the places of a program

A string, and a number that is not whole, are written as their printed tokens, and these show where
the token starts and ends. Nothing else in a Bash text depends on places. So two trees that differ
only in the places of their tokens have the same text exactly if the places of these literals are
the same (`same_text_iff_same_shown`).

Going from left to right, two such texts agree up to the first place in which the trees differ, and
there they part for good. `Tells` puts this into a form that passes from texts to longer texts.
-/

namespace Bashling

mutual

/-- The places that the Bash text of a tree shows, in order. -/
def Node.shown : Node → List Position
  | .bare | .identifier _ | .parameter _ | .parameters _ => []
  | .number literal =>
    if literal.value.toInt?.isSome then [] else [literal.start, literal.stop]
  | .string literal => [literal.start, literal.stop]
  | .unary _ operand => operand.shown
  | .binary left _ right => left.shown ++ right.shown
  | .block statements => Node.shownAll statements
  | .assignment _ value => value.shown
  | .letStatement _ assigned => assigned.shown
  | .declaration _ _ body => body.shown
  | .funcStatement _ declared => declared.shown

def Node.shownAll : List Node → List Position
  | [] => []
  | node :: nodes => node.shown ++ Node.shownAll nodes

end

/-- Two texts that agree exactly if they show the same places, and that are told from each other by
their beginnings if they do not. -/
structure Tells (text text' : List Char) (shown shown' : List Position) : Prop where
  length : shown.length = shown'.length
  same : shown = shown' → text = text'
  unique : ∀ rest rest', text ++ rest = text' ++ rest' → shown = shown' ∧ rest = rest'

namespace Tells

theorem fixed (text : List Char) : Tells text text [] [] where
  length := rfl
  same _ := rfl
  unique _ _ same := ⟨rfl, List.append_cancel_left same⟩

theorem append {front front' back back' : List Char} {shown shown' later later' : List Position}
    (first : Tells front front' shown shown') (second : Tells back back' later later') :
    Tells (front ++ back) (front' ++ back') (shown ++ later) (shown' ++ later') where
  length := by rw [List.length_append, List.length_append, first.length, second.length]
  same := by
    intro places
    -- The lengths say where the places of the front text end.
    obtain ⟨left, right⟩ := List.append_inj places first.length
    rw [first.same left, second.same right]
  unique := by
    intro rest rest' texts
    rw [List.append_assoc, List.append_assoc] at texts
    obtain ⟨left, middle⟩ := first.unique _ _ texts
    obtain ⟨right, last⟩ := second.unique _ _ middle
    exact ⟨by rw [left, right], last⟩

theorem between {text text' : List Char} {shown shown' : List Position} (before after : List Char)
    (tells : Tells text text' shown shown') :
    Tells (before ++ text ++ after) (before ++ text' ++ after) shown shown' := by
  simpa using ((fixed before).append tells).append (fixed after)

private theorem eq_iff {text text' : List Char} {shown shown' : List Position}
    (tells : Tells text text' shown shown') : text = text' ↔ shown = shown' := by
  constructor
  · intro texts
    exact (tells.unique [] [] (by rw [texts])).1
  · exact tells.same

end Tells

/-! ### Tokens -/

private theorem Position.toList_line (p : Position) :
    p.form.line.toList = "Position(row=".toList ++ (toString p.row).toList ++
      (", column=".toList ++ (toString p.column).toList ++ [')']) := by
  simp [Position.form, Form.line, Form.lineFields, Form.integer]

/-- The row of a place ends at the comma, its column at the parenthesis. -/
theorem Tells.position (p p' : Position) :
    Tells p.form.line.toList p'.form.line.toList [p] [p'] where
  length := rfl
  same := by
    rintro ⟨⟩
    rfl
  unique := by
    intro rest rest' texts
    simp only [Position.toList_line, List.append_assoc] at texts
    -- What is fixed cancels, and neither the comma nor the parenthesis belongs to a number.
    obtain ⟨rows, behind⟩ :=
      integer_unique (by simp [isSigned]) (by simp [isSigned]) (List.append_cancel_left texts)
    obtain ⟨columns, last⟩ :=
      integer_unique (by simp [isSigned]) (by simp [isSigned]) (List.append_cancel_left behind)
    refine ⟨?_, List.append_cancel_left last⟩
    obtain ⟨row, column⟩ := p
    cases rows
    cases columns
    rfl

/-- A token that shows its value shows it behind its place. -/
private theorem Token.toList_line {token : Token} {value : Form}
    (fields : token.value.fields = [("value", value)]) :
    token.form.line.toList = token.value.label.toList ++ "(start=".toList ++
      token.start.form.line.toList ++ ", end=".toList ++ token.stop.form.line.toList ++
      (", value=".toList ++ value.line.toList ++ [')']) := by
  simp [Token.form, Form.line, Form.lineFields, fields]

theorem Tells.token {token token' : Token} {value : Form} (same : token.value = token'.value)
    (fields : token.value.fields = [("value", value)]) :
    Tells token.form.line.toList token'.form.line.toList [token.start, token.stop]
      [token'.start, token'.stop] := by
  rw [Token.toList_line fields, Token.toList_line (same ▸ fields), same]
  have front := (fixed (token'.value.label.toList ++ "(start=".toList)).append
    (position token.start token'.start)
  exact ((front.append (fixed _)).append (position _ _)).append (fixed _)

/-! ### Trees -/

/-- Removing the places keeps the names. -/
private theorem Node.name?_stripped (retype : String → String) (node : Node) :
    (node.stripped retype).name?.map (·.value) = node.name?.map (·.value) := by
  cases node <;> rfl

private theorem Bash.nameOf_eq_ok_iff {node : Node} {name : String} :
    nameOf node = .ok name ↔ node.name?.map (·.value) = some name := by
  rw [nameOf]
  cases node.name? <;> simp

private theorem Bash.bindParameters_of_stripped {items items' : List Node} {index : Nat}
    {text : String} (alike : Node.strippedAll id items = Node.strippedAll id items')
    (bound : bindParameters index items = .ok text) : bindParameters index items' = .ok text := by
  induction items generalizing items' index text with
  | nil =>
    cases items' with
    | nil => exact bound
    | cons => cases alike
  | cons item items ih =>
    cases items' with
    | nil => cases alike
    | cons item' items' =>
      simp only [Node.strippedAll, List.cons.injEq] at alike
      obtain ⟨name, named, more⟩ := ok_of_bind bound
      obtain ⟨later, bound', last⟩ := ok_of_bind more
      -- Of an item only its name is written, and both have the same.
      have named' : nameOf item' = .ok name := by
        rw [nameOf_eq_ok_iff] at named ⊢
        rw [← named, ← Node.name?_stripped id, ← alike.1, Node.name?_stripped]
      rw [bindParameters, named', ih alike.2 bound']
      exact last

/-- The text of a tree against the texts of all trees that only have other places. -/
def Told (node : Node) (text : List Char) : Prop :=
  ∀ node', node.stripped id = node'.stripped id →
    ∃ text', Writes node' text' ∧ Tells text text' node.shown node'.shown

/-- The induction is on the statements. It goes by the texts behind the first one, each of which is
on a new line. -/
private theorem told_all {parts : List (Node × List Char)}
    (told : ∀ part ∈ parts, Told part.1 part.2) {nodes : List Node}
    (alike : Node.strippedAll id (parts.map (·.1)) = Node.strippedAll id nodes) :
    ∃ parts' : List (Node × List Char), nodes = parts'.map (·.1) ∧
      (∀ part ∈ parts', Writes part.1 part.2) ∧
      Tells (Bash.lines (parts.map (·.2))) (Bash.lines (parts'.map (·.2)))
        (Node.shownAll (parts.map (·.1))) (Node.shownAll nodes) ∧
      Tells (Bash.joined (parts.map (·.2))) (Bash.joined (parts'.map (·.2)))
        (Node.shownAll (parts.map (·.1))) (Node.shownAll nodes) := by
  induction parts generalizing nodes with
  | nil =>
    cases nodes with
    | nil => exact ⟨[], rfl, by simp, .fixed _, .fixed _⟩
    | cons => cases alike
  | cons part parts ih =>
    cases nodes with
    | nil => cases alike
    | cons node nodes =>
      simp only [List.map_cons, Node.strippedAll, List.cons.injEq] at alike
      obtain ⟨text', writes, first⟩ := told part List.mem_cons_self node alike.1
      obtain ⟨parts', rfl, inner, later, -⟩ :=
        ih (fun part member => told part (List.mem_cons_of_mem _ member)) alike.2
      refine ⟨(node, text') :: parts', rfl, ?_, ?_, ?_⟩
      · simpa [writes] using inner
      -- Only the first text of all has no line feed in front of it.
      · exact ((Tells.fixed ['\n']).append first).append later
      · exact first.append later

/-- One case for each kind of tree that has a text. Places are shown by the two that write tokens;
the others only put the texts of their parts together. -/
theorem Writes.told {node : Node} {text : List Char} (writes : Writes node text) :
    Told node text := by
  induction writes with
  | identifier name =>
    intro node' alike
    cases node' with
    | identifier name' =>
      have same := Located.value_eq_of_unplaced (Node.identifier.inj alike)
      exact ⟨_, .identifier name', by rw [same]; exact .fixed _⟩
    | _ => cases alike
  | @whole literal value whole =>
    intro node' alike
    cases node' with
    | number literal' =>
      have same := Located.value_eq_of_unplaced (Node.number.inj alike)
      have whole' : literal'.value.toInt? = some value := by rw [← same, whole]
      refine ⟨_, .whole whole', ?_⟩
      simpa [Node.shown, whole, whole'] using Tells.fixed (toString value).toList
    | _ => cases alike
  | @fraction literal fraction =>
    intro node' alike
    cases node' with
    | number literal' =>
      have same := Located.value_eq_of_unplaced (Node.number.inj alike)
      -- Whether a number is whole does not depend on its place, so both are written as tokens.
      have fraction' : literal'.value.toInt? = none := by rw [← same, fraction]
      refine ⟨_, .fraction fraction', ?_⟩
      simp only [Node.shown, fraction, fraction']
      exact Tells.token (congrArg Lexeme.number same) rfl
    | _ => cases alike
  | string literal =>
    intro node' alike
    cases node' with
    | string literal' =>
      have same := Located.value_eq_of_unplaced (Node.string.inj alike)
      refine ⟨_, .string literal', ?_⟩
      have token : Tells (Token.form (literal.map .string)).line.toList
          (Token.form (literal'.map .string)).line.toList _ _ :=
        Tells.token (congrArg Lexeme.string same) rfl
      exact token.between ['"'] ['"']
    | _ => cases alike
  | unary operator _ ih =>
    intro node' alike
    cases node' with
    | unary operator' operand' =>
      obtain ⟨operators, operands⟩ := Node.unary.inj alike
      have same := Located.value_eq_of_unplaced operators
      obtain ⟨text', writes, tells⟩ := ih operand' operands
      refine ⟨_, .unary operator' writes, ?_⟩
      rw [same]
      exact tells.between _ _
    | _ => cases alike
  | binary operator _ _ ihFront ihBack =>
    intro node' alike
    cases node' with
    | binary left' operator' right' =>
      obtain ⟨lefts, operators, rights⟩ := Node.binary.inj alike
      have same := Located.value_eq_of_unplaced operators
      obtain ⟨text, writes, front⟩ := ihFront left' lefts
      obtain ⟨text', writes', back⟩ := ihBack right' rights
      refine ⟨_, .binary operator' writes writes', ?_⟩
      rw [same]
      have operands := (front.append (.fixed operator'.value.spelling)).append back
      simpa [Node.shown] using operands.between "$((".toList "))".toList
    | _ => cases alike
  | parameters bound =>
    intro node' alike
    cases node' with
    | parameters items' =>
      have bound' := Bash.bindParameters_of_stripped (Node.parameters.inj alike) bound
      exact ⟨_, .parameters bound', .fixed _⟩
    | _ => cases alike
  | block _ ih =>
    intro node' alike
    cases node' with
    | block statements' =>
      obtain ⟨parts', rfl, inner, -, tells⟩ := told_all ih (Node.block.inj alike)
      exact ⟨_, .block inner, tells.between _ _⟩
    | _ => cases alike
  | letStatement keyword target _ ih =>
    intro node' alike
    cases node' with
    | letStatement keyword' assigned' =>
      have assignments := (Node.letStatement.inj alike).2
      cases assigned' with
      | assignment target' value' =>
        obtain ⟨targets, values⟩ := Node.assignment.inj assignments
        have same := Located.value_eq_of_unplaced targets
        obtain ⟨text', writes, tells⟩ := ih value' values
        refine ⟨_, .letStatement keyword' target' writes, ?_⟩
        rw [same]
        exact (Tells.fixed _).append ((Tells.fixed ['=']).append tells)
      | _ => cases assignments
    | _ => cases alike
  | funcStatement keyword name bound _ ih =>
    intro node' alike
    cases node' with
    | funcStatement keyword' declared' =>
      have declarations := (Node.funcStatement.inj alike).2
      cases declared' with
      | declaration name' list' body' =>
        obtain ⟨names, lists, bodies⟩ := Node.declaration.inj declarations
        have same := Located.value_eq_of_unplaced names
        cases list' with
        | parameters items' =>
          cases body' with
          | block statements' =>
            obtain ⟨parts', rfl, inner, -, tells⟩ := told_all ih (Node.block.inj bodies)
            have bound' := Bash.bindParameters_of_stripped (Node.parameters.inj lists) bound
            refine ⟨_, .funcStatement keyword' name' bound' inner, ?_⟩
            rw [same]
            exact tells.between _ _
          | _ => cases bodies
        | _ => cases lists
      | _ => cases declarations
    | _ => cases alike

/-! ### Whole programs -/

/-- Of two trees that differ only in the places of their tokens, both have a text or neither has,
and the texts are the same exactly if the places of the strings and of the numbers that are not
whole are. -/
theorem same_text_iff_same_shown (a b : Node) (text : String)
    (alike : a.stripped id = b.stripped id) (written : a.toBash = .ok text) :
    ∃ text', b.toBash = .ok text' ∧ a.shown.length = b.shown.length ∧
      (text = text' ↔ a.shown = b.shown) := by
  obtain ⟨chars, writes, tells⟩ := (a.writes_of_toBash written).told b alike
  refine ⟨String.ofList chars, writes.toBash, tells.length, ?_⟩
  rw [← tells.eq_iff, ← String.toList_inj, String.toList_ofList]

private theorem ok_of_toOption {α : Type} {result : Except Failure α} {value : α}
    (found : result.toOption = some value) : result = .ok value := by
  cases result <;> cases found
  rfl

/-- In `let x = 1.5 + y`, the name behind the sign may stand anywhere. -/
theorem same_text_iff_same_shown_name_moved :
    let program (column : Int) : Node :=
      .letStatement ⟨⟨1, 1⟩, ⟨1, 3⟩, .let⟩
        (.assignment ⟨⟨1, 5⟩, ⟨1, 5⟩, "x"⟩
          (.binary (.number ⟨⟨1, 9⟩, ⟨1, 11⟩, .finite false 3 (-1)⟩) ⟨⟨1, 13⟩, ⟨1, 13⟩, .plus⟩
            (.identifier ⟨⟨1, column⟩, ⟨1, column⟩, "y"⟩)))
    let text := "local __VDSH__x=$((NumberToken(start=Position(row=1, column=9), " ++
      "end=Position(row=1, column=11), value=1.5)+$__VDSH__y))"
    (program 14).stripped id = (program 20).stripped id ∧ (program 14).toBash = .ok text ∧
      ∃ text', (program 20).toBash = .ok text' ∧
        (program 14).shown.length = (program 20).shown.length ∧
        (text = text' ↔ (program 14).shown = (program 20).shown) := by
  intro program text
  have alike : (program 14).stripped id = (program 20).stripped id := rfl
  have written : (program 14).toBash = .ok text := ok_of_toOption (by decide +kernel)
  exact ⟨alike, written, same_text_iff_same_shown _ _ text alike written⟩

/-- A number that is not whole has one text in one column and another text in the next one. -/
theorem fraction_shows_column :
    let literal (column : Int) : Node :=
      .number ⟨⟨1, column⟩, ⟨1, column + 2⟩, .finite false 3 (-1)⟩
    (literal 1).stripped id = (literal 2).stripped id ∧
      (literal 1).toBash = .ok ("NumberToken(start=Position(row=1, column=1), " ++
        "end=Position(row=1, column=3), value=1.5)") ∧
      (literal 2).toBash = .ok ("NumberToken(start=Position(row=1, column=2), " ++
        "end=Position(row=1, column=4), value=1.5)") := by
  exact ⟨rfl, ok_of_toOption (by decide +kernel), ok_of_toOption (by decide +kernel)⟩

end Bashling
