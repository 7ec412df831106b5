import Bashling.Compilation
import Bashling.Proofs.Layout
import Bashling.Proofs.Statement

/-!
# Every text is compiled or refused

Compiling a text gives Bash or a failure of the language with details of its own
(`compile_or_refuse`). Three facts meet here. The parser only builds trees that have a Bash text
(`Built`). A failure of the parser belongs to the grammar. And it only asks for a token beyond those
of the text if there is no end of text among them, and then reading them has failed.
-/

namespace Bashling

/-! ### The trees that are built -/

/-- The trees of expressions. -/
inductive Expressed : Node → Prop where
  | identifier (name) : Expressed (.identifier name)
  | number (literal) : Expressed (.number literal)
  | unary {operand} (operator) (inner : Expressed operand) : Expressed (.unary operator operand)
  | binary {left right} (operator) (front : Expressed left) (back : Expressed right) :
      Expressed (.binary left operator right)

/-- The trees of statements. -/
inductive Built : Node → Prop where
  | expression {node} (expressed : Expressed node) : Built node
  | letStatement {value} (keyword target) (inner : Built value) :
      Built (.letStatement keyword (.assignment target value))
  | funcStatement {nodes} (keyword name) (items : List Parameter)
      (inner : ∀ node ∈ nodes, Built node) :
      Built (.funcStatement keyword
        (.declaration name (.parameters (items.map .parameter)) (.block nodes)))

namespace Parser

/-- What a rule builds is an expression, if what it goes on with is one. -/
def Expresses : Rule → Node → Prop
  | .expression _, node => Expressed node
  | .chain _ _ _ left, node => Expressed left → Expressed node

theorem Reads.expresses {rule : Rule} {ts rest : List Token} {node : Node}
    (read : Reads rule ts node rest) : Expresses rule node := by
  induction read with
  | operands _ _ _ ihHead ihTail => exact ihTail ihHead
  | signed _ _ _ ih => exact .unary _ ih
  | unsigned _ _ _ ih => exact ih
  | number => exact .number _
  | identifier => exact .identifier _
  | parens _ _ ih => exact ih
  | stop => exact fun left => left
  | once _ _ ih => exact fun left => .binary _ left ih
  | more _ _ _ ihOperand ihTail => exact fun left => ihTail (.binary _ left ihOperand)

/-- What a phrase builds. The parts of a statement come in the shape that the statement needs. -/
def Builds : Phrase → Node → Prop
  | .statement, node => Built node
  | .assignment, node => ∃ target value, node = .assignment target value ∧ Built value
  | .declaration, node => ∃ name, ∃ items : List Parameter, ∃ nodes,
      node = .declaration name (.parameters (items.map .parameter)) (.block nodes) ∧
        ∀ inner ∈ nodes, Built inner
  | .block, node | .statements, node => ∃ nodes, node = .block nodes ∧ ∀ inner ∈ nodes, Built inner

theorem ReadsPhrase.builds {phrase : Phrase} {ts rest : List Token} {node : Node}
    (read : ReadsPhrase phrase ts node rest) : Builds phrase node := by
  induction read with
  | expression _ read => exact .expression read.expresses
  | letStatement _ _ ih =>
    obtain ⟨target, value, rfl, built⟩ := ih
    exact .letStatement _ target built
  | funcStatement _ ih =>
    obtain ⟨name, items, nodes, rfl, built⟩ := ih
    exact .funcStatement _ name items built
  | assignment _ _ _ ih => exact ⟨_, _, rfl, ih⟩
  | declaration _ _ _ _ _ ih =>
    obtain ⟨nodes, rfl, built⟩ := ih
    exact ⟨_, _, nodes, rfl, built⟩
  | block _ _ ih => exact ih
  | nil => exact ⟨[], rfl, by simp⟩
  | cons _ _ _ ihFirst ihLater =>
    -- The statements behind the first one already form a block.
    obtain ⟨nodes, equal, built⟩ := ihLater
    cases equal
    refine ⟨_, rfl, fun inner member => ?_⟩
    rcases List.mem_cons.mp member with rfl | later
    · exact ihFirst
    · exact built inner later

end Parser

/-! ### Their Bash texts -/

theorem Expressed.toBash {node : Node} (expressed : Expressed node) :
    ∃ text, node.toBash = .ok text := by
  induction expressed with
  | identifier | number => exact ⟨_, rfl⟩
  | unary _ _ ih =>
    obtain ⟨text, written⟩ := ih
    exact ⟨_, by rw [Node.toBash, written]; rfl⟩
  | binary _ _ _ ihFront ihBack =>
    obtain ⟨text, written⟩ := ihFront
    obtain ⟨text', written'⟩ := ihBack
    exact ⟨_, by rw [Node.toBash, written, written']; rfl⟩

theorem Bash.bindParameters_parameters (index : Nat) (items : List Parameter) :
    ∃ text, bindParameters index (items.map .parameter) = .ok text := by
  induction items generalizing index with
  | nil => exact ⟨_, rfl⟩
  | cons item items ih =>
    obtain ⟨later, bound⟩ := ih (index + 1)
    exact ⟨_, by rw [List.map_cons, bindParameters, bound]; rfl⟩

private theorem Node.toBashAll_of_forall {nodes : List Node}
    (written : ∀ node ∈ nodes, ∃ text, node.toBash = .ok text) :
    ∃ texts, Node.toBashAll nodes = .ok texts := by
  induction nodes with
  | nil => exact ⟨_, rfl⟩
  | cons node nodes ih =>
    obtain ⟨text, first⟩ := written node List.mem_cons_self
    obtain ⟨texts, later⟩ := ih fun inner member => written inner (List.mem_cons_of_mem _ member)
    exact ⟨text :: texts, by rw [Node.toBashAll, first, later]; rfl⟩

theorem Built.toBash {node : Node} (built : Built node) : ∃ text, node.toBash = .ok text := by
  induction built with
  | expression expressed => exact expressed.toBash
  | letStatement _ _ _ ih =>
    obtain ⟨text, written⟩ := ih
    exact ⟨_, by rw [Node.toBash, written]; rfl⟩
  | funcStatement _ _ items _ ih =>
    obtain ⟨bindings, bound⟩ := Bash.bindParameters_parameters 0 items
    obtain ⟨texts, written⟩ := Node.toBashAll_of_forall ih
    exact ⟨_, by
      simp only [Node.toBash, Bash.itemsOf, Node.toBashBody, bind, Except.bind, bound, written]
      rfl⟩

/-! ### Whole texts -/

/-- The tokens of a text do not run out without a failure of the lexical family. -/
theorem tokenStream_ending {text : List Char} (noEnd : Parser.NoEnd (tokenStream text).ahead) :
    (tokenStream text).ending.Specific .lexical := by
  obtain ⟨ahead, ending⟩ := Lexer.ahead_ofSource (Lexer.ofText text)
  have listed := (Lexer.ofText text).lists_tokens rfl
  rw [tokenStream, ahead] at noEnd
  rw [tokenStream, ending]
  cases read : (Lexer.ofText text).tokens with
  | mk tokens failure =>
    rw [read] at listed noEnd
    cases failure with
    | some failure => exact listed
    | none =>
      -- The text was read to its end, which then is one of the tokens.
      obtain ⟨token, member, ended⟩ := Laid.closed listed
      rw [noEnd token member] at ended
      cases ended

/-- A text that cannot be parsed is refused with a failure of the language that has details. -/
theorem parse_refused {text : List Char} {failure : Failure}
    (refused : parse text = .error failure) :
    failure.Specific .lexical ∨ failure.Specific .grammatical := by
  have failed : (Parser.statement (tokenStream text)).outcome =
      (.error failure, (Parser.statement (tokenStream text)).outcome.2) := Prod.ext refused rfl
  rcases (Parser.statement_runs (tokenStream text)).of_outcome_error failed with
    grammatical | ⟨rfl, noEnd⟩
  · exact .inr grammatical
  · exact .inl (tokenStream_ending noEnd)

/-- What has been parsed has a Bash text, so compiling fails where parsing does. -/
theorem compile_eq_error_iff {text : List Char} {failure : Failure} :
    compile text = .error failure ↔ parse text = .error failure := by
  cases parsed : parse text with
  | error failure' => simp [compile, parsed, bind, Except.bind]
  | ok node =>
    have built : (Parser.statement (tokenStream text)).outcome =
        (.ok node, (Parser.statement (tokenStream text)).outcome.2) := Prod.ext parsed rfl
    obtain ⟨read, -⟩ := (Parser.statement_runs (tokenStream text)).of_outcome_ok built
    obtain ⟨bash, written⟩ := read.builds.toBash
    simp [compile, parsed, bind, Except.bind, written]

/-- A text is compiled, or it is refused with a failure of the lexical or the grammatical family
that has details of its own. -/
theorem compile_or_refuse (text : List Char) :
    (∃ bash, compile text = .ok bash) ∨
      ∃ failure, compile text = .error failure ∧
        (failure.Specific .lexical ∨ failure.Specific .grammatical) := by
  have runs := Parser.statement_runs (tokenStream text)
  unfold compile parse Lookahead.parse
  cases result : Parser.statement (tokenStream text) with
  | done node rest less =>
    rw [result] at runs
    obtain ⟨bash, written⟩ := runs.1.builds.toBash
    exact .inl ⟨bash, written⟩
  | failed failure rest =>
    rw [result] at runs
    refine .inr ⟨failure, rfl, ?_⟩
    rcases runs with grammatical | ⟨rfl, noEnd⟩
    · exact .inr grammatical
    · -- The tokens ran out, and that is not for want of an end of the text.
      exact .inl (tokenStream_ending noEnd)

end Bashling
