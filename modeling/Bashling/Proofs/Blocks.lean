import Bashling.Proofs.Locality

/-!
# Where a block ends

No rule takes a closing brace. So a block takes its opening brace and its statements, and the
closing brace in front of which it stops is the first one there is. That is the brace which matches
its opening one only if no function stands in the block. A function stops at its own closing brace
and leaves it; the block around it finds that brace and stops there too. Hence a function is the
last statement of its block, whatever is written behind it (`block_stops_at_first_brace`).
-/

namespace Bashling

def Node.IsFunction (node : Node) : Prop :=
  ∃ keyword declared, node = .funcStatement keyword declared

/-- Whether an operator does not occur among some tokens. -/
def Without (kind : Operator) (ts : List Token) : Prop :=
  ∀ token ∈ ts, token.value ≠ .operator kind

section Without

variable {kind : Operator} {token : Token} {ts ts' : List Token}

@[simp] theorem without_nil : Without kind [] := by
  simp [Without]

@[simp] theorem without_cons :
    Without kind (token :: ts) ↔ token.value ≠ .operator kind ∧ Without kind ts := by
  simp [Without]

@[simp] theorem without_append : Without kind (ts ++ ts') ↔ Without kind ts ∧ Without kind ts' :=
  List.forall_mem_append

end Without

/-- Tokens in which every opening brace has its closing one. A brace behind such tokens matches the
one in front of them. -/
inductive Balanced : List Token → Prop where
  | nil : Balanced []
  | other {token : Token} {ts} (noOpening : token.value ≠ .operator .leftBrace)
      (noClosing : token.value ≠ .operator .rightBrace) (rest : Balanced ts) :
      Balanced (token :: ts)
  | nested {opening closing : Token} {ts ts'} (opens : opening.value = .operator .leftBrace)
      (inner : Balanced ts) (closes : closing.value = .operator .rightBrace)
      (rest : Balanced ts') : Balanced (opening :: (ts ++ closing :: ts'))

/-- Without a closing brace, tokens are balanced only if there is no opening one either. -/
private theorem balanced_iff_without {ts : List Token} (unclosed : Without .rightBrace ts) :
    Balanced ts ↔ Without .leftBrace ts := by
  constructor
  · intro balanced
    induction balanced with
    | nil => simp
    | other noOpening _ _ ih =>
      rw [without_cons] at unclosed ⊢
      exact ⟨noOpening, ih unclosed.2⟩
    | nested _ _ closes =>
      simp only [without_cons, without_append] at unclosed
      exact absurd closes unclosed.2.2.1
  · intro unopened
    induction ts with
    | nil => exact .nil
    | cons token ts ih =>
      rw [without_cons] at unclosed unopened
      exact .other unopened.1 unclosed.1 (ih unclosed.2 unopened.2)

/-- A scan for expressions does not get over a brace. -/
private theorem Scan.step_brace (q : Scan) {token : Token} {brace : Operator}
    (among : brace ∈ [Operator.leftBrace, .rightBrace]) (equal : token.value = .operator brace) :
    q.step token = none := by
  have noSign : brace ∉ [Operator.plus, .minus] ∧ brace ≠ .leftParen ∧ brace ≠ .not := by
    revert among
    cases brace <;> decide
  have noJoin : brace ∉ arithmetic ∧ brace ∉ Grammar.comparisons ∧ brace ∉ [Operator.and, .or] ∧
      brace ≠ .rightParen := by
    revert among
    cases brace <;> decide
  simp only [step, equal, afterOperand, beforeOperand]
  cases q.opened <;> simp [noSign, noJoin]

/-- Expressions have no braces. -/
theorem Grammar.Sentence.without {ts : List Token} {brace : Operator}
    (sentence : Grammar.Sentence .disjunction ts)
    (among : brace ∈ [Operator.leftBrace, .rightBrace]) : Without brace ts := by
  obtain ⟨q, reached, -⟩ := Scan.accepts_of_sentence sentence
  intro token member equal
  obtain ⟨before, after, rfl⟩ := List.append_of_mem member
  have front : before ++ [token] <+: before ++ token :: after := ⟨after, by simp⟩
  have moved := Scan.run_of_front front (by rw [reached]; rfl)
  obtain ⟨q', reached'⟩ :=
    Option.isSome_iff_exists.mp (Scan.run_of_front (List.prefix_append before [token]) moved)
  exact Scan.step_of_front (List.prefix_refl _) moved reached' (q'.step_brace among equal)

namespace Parser

/-! ### Braces of phrases -/

private theorem ReadsParameters.without_closing {ts rest : List Token} {items : List Parameter}
    (read : ReadsParameters ts items rest) :
    ∃ taken, ts = taken ++ rest ∧ Without .rightBrace taken := by
  induction read with
  | none => exact ⟨[], rfl, without_nil⟩
  | @last token colon typed _ _ _ _ _ named separates types _ =>
    refine ⟨[token, colon, typed], rfl, ?_⟩
    simp [Token.value_of_identifier? named, Token.value_of_operator? separates,
      Token.value_of_identifier? types]
  | @more token colon typed comma _ _ _ _ _ _ _ named separates types goesOn _ ih =>
    obtain ⟨taken, rfl, without⟩ := ih
    refine ⟨token :: colon :: typed :: comma :: taken, rfl, ?_⟩
    simp [Token.value_of_identifier? named, Token.value_of_operator? separates,
      Token.value_of_identifier? types, Token.value_of_operator? goesOn, without]

/-- The braces among the tokens that a phrase takes. There is no closing one. An opening one shows
that a function was read, and then the phrase stops in front of a closing brace. -/
def Braces : Phrase → List Token → Node → List Token → Prop
  | .statement, taken, node, rest => Without .rightBrace taken ∧
      (node.IsFunction ∧ Braced rest ∧ ¬Without .leftBrace taken ∨
        ¬node.IsFunction ∧ Without .leftBrace taken)
  | .assignment, taken, _, rest =>
    Without .rightBrace taken ∧ (Braced rest ∨ Without .leftBrace taken)
  | .declaration, taken, _, rest | .block, taken, _, rest =>
    Without .rightBrace taken ∧ Braced rest ∧ ¬Without .leftBrace taken
  | .statements, taken, _, rest => Without .rightBrace taken ∧ Braced rest

theorem ReadsPhrase.braces {phrase : Phrase} {ts rest : List Token} {node : Node}
    (read : ReadsPhrase phrase ts node rest) :
    ∃ taken, ts = taken ++ rest ∧ Braces phrase taken node rest := by
  induction read with
  | expression _ read =>
    obtain ⟨taken, split, sentence⟩ := read.sentence
    refine ⟨taken, split, sentence.without (by simp), .inr ⟨?_, sentence.without (by simp)⟩⟩
    rintro ⟨keyword, declared, rfl⟩
    cases read.expresses
  | @letStatement start stop _ _ _ _ token _ ends ih =>
    have semicolon := Token.value_of_operator? ends
    obtain ⟨taken, rfl, unclosed, braced | unopened⟩ := ih
    · -- A function cannot be assigned: its brace is left where the semicolon is read.
      obtain ⟨brace, later, equal, closes⟩ := braced
      cases equal
      rw [semicolon] at closes
      cases closes
    · refine ⟨⟨start, stop, .keyword .let⟩ :: (taken ++ [token]), by simp, ?_, .inr ⟨?_, ?_⟩⟩
      · simp [unclosed, semicolon]
      · rintro ⟨keyword, declared, equal⟩
        cases equal
      · simp [unopened, semicolon]
  | @funcStatement start stop _ _ _ _ ih =>
    obtain ⟨taken, rfl, unclosed, braced, opened⟩ := ih
    refine ⟨⟨start, stop, .keyword .func⟩ :: taken, rfl, ?_, .inl ⟨⟨_, _, rfl⟩, braced, ?_⟩⟩
    · simp [unclosed]
    · simp [opened]
  | @assignment token sign _ _ _ _ _ named assigns _ ih =>
    have target := Token.value_of_identifier? named
    have equals := Token.value_of_operator? assigns
    obtain ⟨taken, rfl, unclosed, ⟨-, braced, -⟩ | ⟨-, unopened⟩⟩ := ih
    · exact ⟨token :: sign :: taken, rfl, by simp [target, equals, unclosed], .inl braced⟩
    · exact ⟨token :: sign :: taken, rfl, by simp [target, equals, unclosed],
        .inr (by simp [target, equals, unopened])⟩
  | @declaration token opening closing _ _ _ _ _ _ _ _ named opens listed closes _ ih =>
    obtain ⟨back, rfl, unclosed, braced, opened⟩ := ih
    obtain ⟨front, rfl, without⟩ := listed.without_closing
    refine ⟨token :: opening :: (front ++ closing :: back), by simp, ?_, braced, ?_⟩
    · simp [Token.value_of_identifier? named, Token.value_of_operator? opens,
        Token.value_of_operator? closes, without, unclosed]
    · simp [opened]
  | @block token _ _ _ _ opens _ ih =>
    obtain ⟨taken, rfl, unclosed, braced⟩ := ih
    have brace := Token.value_of_operator? opens
    exact ⟨token :: taken, rfl, by simp [brace, unclosed], braced, by simp [brace]⟩
  | nil closes => exact ⟨[], rfl, without_nil, _, _, rfl, Token.value_of_operator? closes⟩
  | cons _ _ _ ihFirst ihLater =>
    obtain ⟨back, rfl, unclosed, braced⟩ := ihLater
    obtain ⟨front, split, unclosed', -⟩ := ihFirst
    exact ⟨front ++ back, by simp [split], by simp [unclosed, unclosed'], braced⟩

/-! ### Statements of a block -/

/-- Tokens from which a statement is read in full in front of a closing brace. -/
def StatementInFull (closing : Token) (ts : List Token) (node : Node) : Prop :=
  ∀ later, ∃ rest, (statement (.ofTokens (ts ++ closing :: later))).outcome = (.ok node, rest) ∧
    rest.ahead = closing :: later

/-- How the statements in front of a closing brace were read, each from its own tokens. -/
structure InTurn (ts rest : List Token) (closing : Token) (parts : List (List Token × Node)) :
    Prop where
  split : ts = parts.flatMap Prod.fst ++ rest
  left : ∃ later, rest = closing :: later
  closes : closing.value = .operator .rightBrace
  reads : ∀ part ∈ parts, ∀ later,
    ReadsPhrase .statement (part.1 ++ closing :: later) part.2 (closing :: later)
  last : ∀ front part back, parts = front ++ part :: back → part.2.IsFunction → back = []

/-- A closing brace can replace all that is left behind a statement. -/
private theorem resumes_brace {closing : Token} (closes : closing.value = .operator .rightBrace)
    (rest later : List Token) : Resumes rest (closing :: later) := by
  refine ⟨⟨closing, later, rfl, .inr ?_⟩, fun _ => ⟨closing, later, rfl, closes⟩⟩
  rw [Token.operator?_eq_none_iff]
  intro kind member equal
  cases closes.symm.trans equal
  revert member
  decide

/-- Where a closing brace comes next, no statement is read. -/
private theorem ReadsPhrase.nil_of_braced {ts rest : List Token} {nodes : List Node}
    (read : ReadsPhrase .statements ts (.block nodes) rest) (braced : Braced ts) : nodes = [] := by
  obtain ⟨token, later, operator, rfl, closes⟩ := operator?_of_braced braced
  cases read with
  | nil => rfl
  | cons other => cases other.symm.trans closes

private theorem ReadsPhrase.inTurn {ts rest : List Token} {nodes : List Node}
    (read : ReadsPhrase .statements ts (.block nodes) rest) :
    ∃ closing parts, nodes = parts.map Prod.snd ∧ InTurn ts rest closing parts := by
  generalize equal : Node.block nodes = node at read
  generalize phrased : Phrase.statements = phrase at read
  induction read generalizing nodes with
  | @nil token _ rest closes =>
    cases equal
    refine ⟨token, [], rfl, rfl, ⟨rest, rfl⟩, Token.value_of_operator? closes, by simp, ?_⟩
    intro front part back split
    simp at split
  | @cons _ _ node _ _ _ other first later _ ihLater =>
    cases equal
    obtain ⟨closing, parts, rfl, split, left, closes, reads, last⟩ := ihLater rfl phrased
    obtain ⟨taken, split', braces⟩ := first.braces
    refine ⟨closing, (taken, node) :: parts, rfl, ?_, left, closes, ?_, ?_⟩
    · rw [split', split, List.flatMap_cons, List.append_assoc]
    · intro part member behind
      rcases List.mem_cons.mp member with rfl | member
      · obtain ⟨taken', split'', read⟩ := first.replace (resumes_brace closes _ behind)
        rwa [List.append_cancel_right (split'.symm.trans split'')]
      · exact reads part member behind
    · intro front part back equal function
      cases front with
      | nil =>
        -- The block goes on at the brace that the function left, and ends there.
        cases equal
        rcases braces.2 with ⟨-, braced, -⟩ | ⟨plain, -⟩
        · exact List.map_eq_nil_iff.mp (later.nil_of_braced braced)
        · exact absurd function plain
      | cons first front =>
        cases equal
        exact last front part back rfl function
  | _ => cases phrased

namespace InTurn

variable {ts rest : List Token} {closing : Token} {parts : List (List Token × Node)}

private theorem statementInFull (inTurn : InTurn ts rest closing parts) :
    ∀ part ∈ parts, StatementInFull closing part.1 part.2 := by
  intro part member later
  have read := inTurn.reads part member later
  obtain ⟨rest, built, left, -⟩ := (read.gives _ (Lookahead.ahead_ofTokens _)).outcome
  exact ⟨rest, built, left⟩

theorem braces (inTurn : InTurn ts rest closing parts) :
    ∀ part ∈ parts, Without .rightBrace part.1 ∧
      (Without .leftBrace part.1 ↔ ¬part.2.IsFunction) := by
  intro part member
  obtain ⟨taken, split, unclosed, braces⟩ := (inTurn.reads part member []).braces
  rw [List.append_cancel_right split]
  rcases braces with ⟨function, -, opened⟩ | ⟨plain, unopened⟩
  · exact ⟨unclosed, by simp [function, opened]⟩
  · exact ⟨unclosed, by simp [plain, unopened]⟩

theorem unclosed (inTurn : InTurn ts rest closing parts) :
    Without .rightBrace (parts.flatMap Prod.fst) := by
  intro token member
  obtain ⟨part, inParts, inPart⟩ := List.mem_flatMap.mp member
  exact (inTurn.braces part inParts).1 token inPart

private theorem balanced_iff (inTurn : InTurn ts rest closing parts) :
    Balanced (parts.flatMap Prod.fst) ↔ ∀ part ∈ parts, ¬part.2.IsFunction := by
  rw [balanced_iff_without inTurn.unclosed]
  constructor
  · intro unopened part member
    rw [← (inTurn.braces part member).2]
    exact fun token inPart => unopened token (List.mem_flatMap.mpr ⟨part, member, inPart⟩)
  · intro plain token member
    obtain ⟨part, inParts, inPart⟩ := List.mem_flatMap.mp member
    exact (inTurn.braces part inParts).2.mpr (plain part inParts) token inPart

end InTurn

/-! ### Blocks -/

/-- What the block that was read from some tokens is, and where it stopped. The statements are
listed with the tokens of each. -/
structure StoppedBlock (ts : List Token) (node : Node) (rest : List Token) (opening closing : Token)
    (parts : List (List Token × Node)) : Prop where
  built : node = .block (parts.map Prod.snd)
  opens : opening.value = .operator .leftBrace
  closes : closing.value = .operator .rightBrace
  /-- The opening brace and the tokens of the statements are taken, in order, and nothing else. -/
  taken : ts = opening :: (parts.flatMap Prod.fst ++ rest)
  statements : ∀ part ∈ parts, StatementInFull closing part.1 part.2
  /-- The closing brace is left, and none was passed before. -/
  left : ∃ later, rest = closing :: later
  unclosed : Without .rightBrace (opening :: parts.flatMap Prod.fst)
  /-- It matches the opening brace exactly if there is no function in the block. -/
  balanced_iff : Balanced (parts.flatMap Prod.fst) ↔ ∀ part ∈ parts, ¬part.2.IsFunction
  /-- No statement behind a function is in the block. -/
  last : ∀ front part back, parts = front ++ part :: back → part.2.IsFunction → back = []

/-- A block that is read takes its opening brace and the tokens of its statements, and it stops in
front of the first closing brace. -/
theorem block_stops_at_first_brace {σ : Type} [TokenSource σ] (s : Stream σ) (node : Node)
    (rest : Stream σ) (read : (block s).outcome = (.ok node, rest)) :
    ∃ opening closing parts, StoppedBlock s.ahead node rest.ahead opening closing parts := by
  have runs := block_runs s fun after _ => statements_runs after
  obtain ⟨followed, -⟩ := runs.of_outcome_ok read
  generalize s.ahead = ts, rest.ahead = left at followed
  cases followed with
  | @block opening _ _ _ _ opens inner =>
    obtain ⟨closing, parts, rfl, inTurn⟩ := inner.inTurn
    have brace := Token.value_of_operator? opens
    refine ⟨opening, closing, parts, rfl, brace, inTurn.closes, ?_, inTurn.statementInFull,
      inTurn.left, ?_, inTurn.balanced_iff, inTurn.last⟩
    · rw [inTurn.split]
    · simp [brace, inTurn.unclosed]

/-- A block with a function in it stops behind the body of that function. The statement `c` is not
part of it, and the closing brace it stops at is not its own. -/
theorem block_stops_at_first_brace_nested :
    let text := "\x7b let x = a; func g(y: int) \x7b b \x7d c \x7d".toList
    let reply := (block (tokenStream text)).outcome
    ∃ node opening closing parts, reply.1 = .ok node ∧
      StoppedBlock (tokenStream text).ahead node reply.2.ahead opening closing parts ∧
      parts.map (fun part => part.2.label) = ["LetStatementNode", "FuncStatementNode"] ∧
      ¬Balanced (parts.flatMap Prod.fst) := by
  intro text reply
  let labels : Node → List String := fun node =>
    match node with
    | .block nodes | .parameters nodes => nodes.map Node.label
    | _ => []
  have succeeds : reply.1.isOk = true := by decide +kernel
  have listed : reply.1.toOption.map labels =
      some ["LetStatementNode", "FuncStatementNode"] := by decide +kernel
  obtain ⟨node, built⟩ := exists_of_isOk succeeds
  obtain ⟨opening, closing, parts, stopped⟩ :=
    block_stops_at_first_brace (tokenStream text) node reply.2 (Prod.ext built rfl)
  have labelled : parts.map (fun part => part.2.label) =
      ["LetStatementNode", "FuncStatementNode"] := by
    rw [built, stopped.built] at listed
    simpa [Except.toOption, labels, Function.comp_def] using listed
  refine ⟨node, opening, closing, parts, built, stopped, labelled, fun balanced => ?_⟩
  have among : "FuncStatementNode" ∈ parts.map (fun part => part.2.label) := by simp [labelled]
  obtain ⟨⟨tokens, part⟩, member, function⟩ := List.mem_map.mp among
  refine stopped.balanced_iff.mp balanced _ member ?_
  cases part with
  | funcStatement keyword declared => exact ⟨keyword, declared, rfl⟩
  | _ => simp [Node.label] at function

/-- A block does not take the closing brace that matches its opening one, nor any other. -/
theorem block_leaves_closing_brace :
    ¬∀ (text : List Char) (node : Node) (rest : Stream Lexer),
      (block (tokenStream text)).outcome = (.ok node, rest) →
      ∃ opening inner closing,
        (Lexer.ofText text).tokens.1 = opening :: (inner ++ closing :: rest.ahead) ∧
        opening.value = .operator .leftBrace ∧ Balanced inner ∧
        closing.value = .operator .rightBrace := by
  intro claimed
  let text := "\x7b func g() \x7b a \x7d b \x7d".toList
  let reply := (block (tokenStream text)).outcome
  have succeeds : reply.1.isOk = true := by decide +kernel
  obtain ⟨node, built⟩ := exists_of_isOk succeeds
  have read : (block (tokenStream text)).outcome = (.ok node, reply.2) := Prod.ext built rfl
  have runs := block_runs (tokenStream text) fun after _ => statements_runs after
  obtain ⟨taken, split, unclosed, -⟩ := (runs.of_outcome_ok read).1.braces
  obtain ⟨opening, inner, closing, split', -, -, closes⟩ := claimed text node reply.2 read
  -- The last token that was taken would be a closing brace.
  rw [tokenStream, (Lexer.ahead_ofSource _).1, split'] at split
  have whole : taken = opening :: (inner ++ [closing]) :=
    List.append_cancel_right (split.symm.trans (by simp))
  simp [whole, closes] at unclosed

end Parser

end Bashling
