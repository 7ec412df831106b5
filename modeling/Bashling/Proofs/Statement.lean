import Bashling.Parser.Statement
import Bashling.Proofs.Recognition

/-!
# How statements are read

What the rules for statements take from a list of tokens and build from it, as for expressions.
`ReadsPhrase` has a rule for each function of the parser, and `statement_runs` says that the
functions follow the rules. Of a failure only two things are said here. It belongs to the grammar,
or it is the one with which the tokens run out, and then there is no end of text among them.
-/

namespace Bashling

theorem Token.keyword?_eq_none {token : Token}
    (noLet : ∀ start stop, token ≠ ⟨start, stop, .keyword .let⟩)
    (noFunc : ∀ start stop, token ≠ ⟨start, stop, .keyword .func⟩) :
    token.keyword? [.let, .func] = none := by
  obtain ⟨start, stop, lexeme⟩ := token
  cases lexeme with
  | keyword kind =>
    cases kind with
    | «let» => exact absurd rfl (noLet start stop)
    | func => exact absurd rfl (noFunc start stop)
    | _ => rfl
  | _ => rfl

namespace Parser

/-! ### Rules -/

/-- What the parameters of a function take and build. -/
inductive ReadsParameters : List Token → List Parameter → List Token → Prop where
  | none {token : Token} {rest} (other : token.identifier? = none) :
      ReadsParameters (token :: rest) [] (token :: rest)
  | last {token colon typed next : Token} {name type separator rest}
      (named : token.identifier? = some name)
      (separates : colon.operator? [.colon] = some separator)
      (types : typed.identifier? = some type) (other : next.operator? [.comma] = none) :
      ReadsParameters (token :: colon :: typed :: next :: rest) [⟨name, type⟩] (next :: rest)
  | more {token colon typed comma : Token} {name type separator separator' ts items rest}
      (named : token.identifier? = some name)
      (separates : colon.operator? [.colon] = some separator)
      (types : typed.identifier? = some type)
      (goesOn : comma.operator? [.comma] = some separator')
      (later : ReadsParameters ts items rest) :
      ReadsParameters (token :: colon :: typed :: comma :: ts) (⟨name, type⟩ :: items) rest

/-- The functions that read statements and their parts. -/
inductive Phrase where
  | statement
  | assignment
  | declaration
  | block
  /-- The statements of a block, as the block they form. -/
  | statements
  deriving DecidableEq, Repr

/-- What a phrase takes and builds. -/
inductive ReadsPhrase : Phrase → List Token → Node → List Token → Prop where
  | expression {token : Token} {ts node rest} (other : token.keyword? [.let, .func] = none)
      (read : Reads (.expression .disjunction) (token :: ts) node rest) :
      ReadsPhrase .statement (token :: ts) node rest
  | letStatement {start stop ts assigned semicolon rest} {token : Token}
      (read : ReadsPhrase .assignment ts assigned (token :: rest))
      (ends : token.operator? [.semicolon] = some semicolon) :
      ReadsPhrase .statement (⟨start, stop, .keyword .let⟩ :: ts)
        (.letStatement ⟨start, stop, .let⟩ assigned) rest
  | funcStatement {start stop ts declared rest}
      (read : ReadsPhrase .declaration ts declared rest) :
      ReadsPhrase .statement (⟨start, stop, .keyword .func⟩ :: ts)
        (.funcStatement ⟨start, stop, .func⟩ declared) rest
  | assignment {token sign : Token} {target operator ts value rest}
      (named : token.identifier? = some target) (assigns : sign.operator? [.assign] = some operator)
      (read : ReadsPhrase .statement ts value rest) :
      ReadsPhrase .assignment (token :: sign :: ts) (.assignment target value) rest
  | declaration {token opening closing : Token} {name operator operator' ts items mid body rest}
      (named : token.identifier? = some name)
      (opens : opening.operator? [.leftParen] = some operator)
      (listed : ReadsParameters ts items (closing :: mid))
      (closes : closing.operator? [.rightParen] = some operator')
      (read : ReadsPhrase .block mid body rest) :
      ReadsPhrase .declaration (token :: opening :: ts)
        (.declaration name (.parameters (items.map .parameter)) body) rest
  | block {token : Token} {brace ts nodes rest}
      (opens : token.operator? [.leftBrace] = some brace)
      (read : ReadsPhrase .statements ts (.block nodes) rest) :
      ReadsPhrase .block (token :: ts) (.block nodes) rest
  | nil {token : Token} {brace rest} (closes : token.operator? [.rightBrace] = some brace) :
      ReadsPhrase .statements (token :: rest) (.block []) (token :: rest)
  | cons {token : Token} {ts node mid nodes rest} (other : token.operator? [.rightBrace] = none)
      (first : ReadsPhrase .statement (token :: ts) node mid)
      (later : ReadsPhrase .statements mid (.block nodes) rest) :
      ReadsPhrase .statements (token :: ts) (.block (node :: nodes)) rest

theorem ReadsParameters.consumed {ts rest : List Token} {items : List Parameter}
    (read : ReadsParameters ts items rest) : ∃ taken, ts = taken ++ rest ∧ NoEnd taken := by
  induction read with
  | none => exact ⟨[], rfl, noEnd_nil⟩
  | @last token colon typed next _ _ _ _ named separates types _ =>
    refine ⟨[token, colon, typed], rfl, ?_⟩
    exact ((noEnd_singleton (Token.isEof_of_identifier? types)).cons
      (Token.isEof_of_operator? separates)).cons (Token.isEof_of_identifier? named)
  | @more token colon typed comma _ _ _ _ _ _ _ named separates types goesOn _ ih =>
    obtain ⟨taken, rfl, noEnd⟩ := ih
    refine ⟨token :: colon :: typed :: comma :: taken, rfl, ?_⟩
    exact (((noEnd.cons (Token.isEof_of_operator? goesOn)).cons
      (Token.isEof_of_identifier? types)).cons (Token.isEof_of_operator? separates)).cons
      (Token.isEof_of_identifier? named)

/-- A phrase takes its tokens from the front, and never an end of text. -/
theorem ReadsPhrase.consumed {phrase : Phrase} {ts rest : List Token} {node : Node}
    (read : ReadsPhrase phrase ts node rest) : ∃ taken, ts = taken ++ rest ∧ NoEnd taken := by
  induction read with
  | expression _ read => exact read.consumed
  | @letStatement start stop _ _ _ _ token _ ends ih =>
    obtain ⟨taken, rfl, noEnd⟩ := ih
    refine ⟨⟨start, stop, .keyword .let⟩ :: (taken ++ [token]), by simp, ?_⟩
    exact (noEnd.append (noEnd_singleton (Token.isEof_of_operator? ends))).cons rfl
  | funcStatement _ ih =>
    obtain ⟨taken, rfl, noEnd⟩ := ih
    exact ⟨_ :: taken, rfl, noEnd.cons rfl⟩
  | assignment named assigns _ ih =>
    obtain ⟨taken, rfl, noEnd⟩ := ih
    exact ⟨_ :: _ :: taken, rfl,
      (noEnd.cons (Token.isEof_of_operator? assigns)).cons (Token.isEof_of_identifier? named)⟩
  | @declaration token opening closing _ _ _ _ _ _ _ _ named opens listed closes _ ih =>
    obtain ⟨taken, rfl, noEnd⟩ := ih
    obtain ⟨front, rfl, noEnd'⟩ := listed.consumed
    refine ⟨token :: opening :: (front ++ closing :: taken), by simp, ?_⟩
    have back := noEnd.cons (Token.isEof_of_operator? closes)
    exact ((noEnd'.append back).cons (Token.isEof_of_operator? opens)).cons
      (Token.isEof_of_identifier? named)
  | block opens _ ih =>
    obtain ⟨taken, rfl, noEnd⟩ := ih
    exact ⟨_ :: taken, rfl, noEnd.cons (Token.isEof_of_operator? opens)⟩
  | nil => exact ⟨[], rfl, noEnd_nil⟩
  | cons _ _ _ ihFirst ihLater =>
    obtain ⟨front, split, noEnd⟩ := ihFirst
    obtain ⟨back, rfl, noEnd'⟩ := ihLater
    exact ⟨front ++ back, by simp [split], noEnd.append noEnd'⟩

/-! ### The functions follow the rules -/

section Runs

open Lookahead

variable {σ : Type} [TokenSource σ]

/-- How statements and their parts fail on a stream, wherever that leaves it. -/
def Fails (s : Stream σ) (failure : Failure) (_rest : Stream σ) : Prop :=
  failure.Specific .grammatical ∨ (failure = s.ending ∧ NoEnd s.ahead)

private theorem fails_of_nothing {s : Stream σ} (nothing : s.ahead = []) (rest : Stream σ) :
    Fails s s.ending rest :=
  .inr ⟨rfl, by simp [NoEnd, nothing]⟩

section Sequences

variable {α β : Type} {bound : Nat} {s mid : Stream σ} {taken : List Token}
  {reply : Reply σ α bound} {done done' : α → Stream σ → Prop} {later : β → Stream σ → Prop}

/-- A failure behind some tokens is one of the stream in front of them. -/
theorem Fails.of_passed {failure : Failure} {rest : Stream σ} (fails : Fails mid failure rest)
    (passed : Passed s mid taken) : Fails s failure rest := by
  rcases fails with specific | ⟨rfl, noEnd⟩
  · exact .inl specific
  · -- The tokens ran out behind `mid`, and there is no end of text in front of it either.
    refine .inr ⟨passed.ending, ?_⟩
    rw [passed.ahead]
    exact passed.noEnd.append noEnd

/-- A step behind some tokens that were already taken. -/
private theorem ensures_after (ensured : reply.Ensures done (Fails mid))
    (passed : Passed s mid taken)
    (onDone : ∀ value rest, done value rest → done' value rest) : reply.Ensures done' (Fails s) :=
  ensured.mono onDone fun _ _ fails => fails.of_passed passed

/-- A sequence of steps, the first of them behind some tokens that were already taken. -/
private theorem ensures_then {proceed : α → (rest : Stream σ) → rest.size < bound → Reply σ β bound}
    (first : reply.Ensures done (Fails mid)) (passed : Passed s mid taken)
    (second : ∀ value rest less, done value rest →
      (proceed value rest less).Ensures later (Fails s)) :
    (reply.andThen proceed).Ensures later (Fails s) :=
  (ensures_after first passed fun _ _ done => done).andThen second

end Sequences

/-- A token that must come next is taken, or else the failure is one of the grammar. -/
private theorem ensures_expected {α : Type} (s : Stream σ) {wanted : Token → Option α}
    {refusal : Token → Failure}
    (counts : ∀ token value, wanted token = some value → token.isEof = false)
    (specific : ∀ token, (refusal token).Specific .grammatical) :
    (s.expect wanted refusal).Ensures
      (fun value rest => ∃ token, wanted token = some value ∧ Passed s rest [token]) (Fails s) := by
  refine (ensures_expect s wanted refusal).mono ?_ ?_
  · rintro value rest ⟨token, found, ahead, ending⟩
    exact ⟨token, found, ahead, ending, noEnd_singleton (counts token value found)⟩
  · rintro failure rest (⟨nothing, rfl⟩ | ⟨token, later, ahead, other, rfl, kept⟩)
    · exact fails_of_nothing nothing rest
    · exact .inl (specific token)

private theorem ensures_operator (s : Stream σ) (operator : Operator) (refusal : Token → Failure)
    (specific : ∀ token, (refusal token).Specific .grammatical) :
    (expectOperator s operator refusal).Ensures
      (fun found rest => ∃ token, token.operator? [operator] = some found ∧ Passed s rest [token])
      (Fails s) :=
  ensures_expected s (fun _ _ => Token.isEof_of_operator?) specific

private theorem ensures_identifier (s : Stream σ) (refusal : Token → Failure)
    (specific : ∀ token, (refusal token).Specific .grammatical) :
    (s.expect Token.identifier? refusal).Ensures
      (fun name rest => ∃ token, token.identifier? = some name ∧ Passed s rest [token])
      (Fails s) :=
  ensures_expected s (fun _ _ => Token.isEof_of_identifier?) specific

/-- What a phrase leaves behind when it succeeds on a stream. -/
def DonePhrase (phrase : Phrase) (s : Stream σ) (node : Node) (rest : Stream σ) : Prop :=
  ReadsPhrase phrase s.ahead node rest.ahead ∧ rest.ending = s.ending

theorem DonePhrase.passed {phrase : Phrase} {s rest : Stream σ} {node : Node}
    (done : DonePhrase phrase s node rest) : ∃ taken, Passed s rest taken := by
  obtain ⟨taken, ahead, noEnd⟩ := done.1.consumed
  exact ⟨taken, ahead, done.2, noEnd⟩

/-! ### Parameters -/

/-- What a single parameter leaves behind: nothing is taken where no name comes next. -/
def DoneParameter (s : Stream σ) (found : Option Parameter) (rest : Stream σ) : Prop :=
  match found with
  | none => rest.ahead = s.ahead ∧ rest.ending = s.ending ∧
      ∃ token later, s.ahead = token :: later ∧ token.identifier? = none
  | some item => ∃ token colon typed separator, token.identifier? = some item.name ∧
      colon.operator? [.colon] = some separator ∧ typed.identifier? = some item.type ∧
      Passed s rest [token, colon, typed]

private theorem parameter_runs (s : Stream σ) :
    (parameter s).Ensures (DoneParameter s) (Fails s) := by
  unfold parameter
  split
  next failure rest missed =>
    obtain ⟨nothing, rfl⟩ := nothing_ahead_of_glance missed
    exact fails_of_nothing nothing rest
  next token kept rest within less seen =>
    have shown := shows_of_glance seen
    split
    next other => exact ⟨shown.keptAhead, shown.keptEnding, token, rest.ahead, shown.ahead, other⟩
    next name named =>
      have passed := passed_of_shows shown (Token.isEof_of_identifier? named)
      have colon := ensures_operator rest .colon (.invalidParameter .colon) fun _ => ⟨rfl, rfl⟩
      rw [Reply.ensures_loosen, Reply.ensures_onRest]
      apply ensures_then colon passed
      rintro separator after shorter ⟨colon, separates, passed'⟩
      have typed := ensures_identifier after (.missingType name.value) fun _ => ⟨rfl, rfl⟩
      rw [Reply.ensures_onRest, Reply.ensures_map]
      apply ensures_after typed (passed.trans passed')
      rintro type final ⟨typed, types, passed''⟩
      exact ⟨token, colon, typed, separator, named, separates, types,
        (passed.trans passed').trans passed''⟩

private theorem parameters_runs (s : Stream σ) :
    (parameters s).Ensures
      (fun items rest => ReadsParameters s.ahead items rest.ahead ∧ rest.ending = s.ending)
      (Fails s) := by
  rw [parameters]
  refine (parameter_runs s).andThen fun found rest less done => ?_
  cases found with
  | none =>
    obtain ⟨ahead, ending, token, later, shown, other⟩ := done
    refine ⟨?_, ending⟩
    rw [ahead, shown]
    exact .none other
  | some item =>
    obtain ⟨token, colon, typed, separator, named, separates, types, passed⟩ := done
    dsimp only
    -- The token behind a parameter decides whether another one may follow.
    split
    next failure after missed =>
      obtain ⟨nothing, rfl⟩ := nothing_ahead_of_glance missed
      exact (fails_of_nothing nothing after).of_passed passed
    next next kept after within shorter seen =>
      have shown := shows_of_glance seen
      split
      next other =>
        rw [Reply.ensures_widen, Reply.ensures_unmoved]
        refine ⟨?_, shown.keptEnding.trans passed.ending⟩
        rw [passed.ahead, shown.keptAhead, shown.ahead]
        exact .last named separates types other
      next comma goesOn =>
        have passed' := passed_of_shows shown (Token.isEof_of_operator? goesOn)
        rw [Reply.ensures_onRest, Reply.ensures_widen, Reply.ensures_map]
        apply ensures_after (parameters_runs after) (passed.trans passed')
        rintro items final ⟨later, ending⟩
        refine ⟨?_, ending.trans (passed'.ending.trans passed.ending)⟩
        rw [passed.ahead, passed'.ahead]
        exact .more named separates types goesOn later
termination_by s.size
decreasing_by omega

/-! ### Statements -/

/-- The postconditions of a phrase on a stream. -/
abbrev Runs {bound : Nat} (phrase : Phrase) (s : Stream σ) (reply : Reply σ Node bound) : Prop :=
  reply.Ensures (DonePhrase phrase s) (Fails s)

/-- The statements of a block: their list is read as the block it makes. -/
abbrev RunsAll {bound : Nat} (s : Stream σ) (reply : Reply σ (List Node) bound) : Prop :=
  reply.Ensures (fun nodes rest => DonePhrase .statements s (.block nodes) rest) (Fails s)

private theorem assignment_runs (s : Stream σ)
    (inner : ∀ rest : Stream σ, rest.size < s.size → Runs .statement rest (statement rest)) :
    Runs .assignment s (assignment s) := by
  have target := ensures_identifier s .missingTarget fun _ => ⟨rfl, rfl⟩
  rw [assignment]
  refine target.andThen ?_
  rintro name rest less ⟨token, named, passed⟩
  have sign := ensures_operator rest .assign (.missingAssign name.value) fun _ => ⟨rfl, rfl⟩
  rw [Reply.ensures_onRest]
  apply ensures_then sign passed
  rintro operator after shorter ⟨sign, assigns, passed'⟩
  rw [Reply.ensures_onRest, Reply.ensures_map]
  apply ensures_after (inner after (Nat.lt_trans shorter less)) (passed.trans passed')
  rintro value final ⟨read, ending⟩
  refine ⟨?_, ending.trans (passed'.ending.trans passed.ending)⟩
  rw [passed.ahead, passed'.ahead]
  exact .assignment named assigns read

private theorem declaration_runs (s : Stream σ)
    (inner : ∀ rest : Stream σ, rest.size < s.size → Runs .block rest (block rest)) :
    Runs .declaration s (declaration s) := by
  have function := ensures_identifier s .missingFunctionName fun _ => ⟨rfl, rfl⟩
  rw [declaration]
  refine function.andThen ?_
  rintro name opening less ⟨token, named, passed⟩
  have leftParen := ensures_operator opening .leftParen .missingLeftParen fun _ => ⟨rfl, rfl⟩
  rw [Reply.ensures_onRest]
  apply ensures_then leftParen passed
  rintro operator inside shorter ⟨paren, opens, passed'⟩
  rw [Reply.ensures_widen]
  apply ensures_then (parameters_runs inside) (passed.trans passed')
  rintro items closing within ⟨listed, ending⟩
  -- From here on the tokens passed so far are those of the whole parameter list.
  obtain ⟨taken, ahead, noEnd⟩ := listed.consumed
  have upToList := (passed.trans passed').trans ⟨ahead, ending, noEnd⟩
  have rightParen := ensures_operator closing .rightParen .missingRightParen fun _ => ⟨rfl, rfl⟩
  rw [Reply.ensures_onRest]
  apply ensures_then rightParen upToList
  rintro operator' rest last ⟨paren', closes, passed''⟩
  rw [Reply.ensures_onRest, Reply.ensures_map]
  apply ensures_after (inner rest (by omega)) (upToList.trans passed'')
  rintro body final ⟨read, ending'⟩
  refine ⟨?_, ending'.trans (passed''.ending.trans upToList.ending)⟩
  rw [passed''.ahead] at listed
  rw [passed.ahead, passed'.ahead]
  exact .declaration named opens listed closes read

theorem block_runs (s : Stream σ)
    (inner : ∀ rest : Stream σ, rest.size < s.size → RunsAll rest (statements rest)) :
    Runs .block s (block s) := by
  have leftBrace := ensures_operator s .leftBrace .missingLeftBrace fun _ => ⟨rfl, rfl⟩
  rw [block]
  refine leftBrace.andThen ?_
  rintro brace rest less ⟨token, opens, passed⟩
  rw [Reply.ensures_widen, Reply.ensures_map]
  apply ensures_after (inner rest less) passed
  rintro nodes final ⟨read, ending⟩
  refine ⟨?_, ending.trans passed.ending⟩
  rw [passed.ahead]
  exact .block opens read

private theorem statements_step (s : Stream σ)
    (first : ∀ kept : Stream σ, kept.size ≤ s.size → Runs .statement kept (statement kept))
    (again : ∀ rest : Stream σ, rest.size < s.size → RunsAll rest (statements rest)) :
    RunsAll s (statements s) := by
  rw [statements]
  split
  next failure rest missed =>
    obtain ⟨nothing, rfl⟩ := nothing_ahead_of_glance missed
    exact fails_of_nothing nothing rest
  next token kept rest within less seen =>
    have shown := shows_of_glance seen
    split
    next brace closes =>
      -- The closing brace is looked at and left where it is.
      refine ⟨?_, shown.keptEnding⟩
      rw [shown.keptAhead, shown.ahead]
      exact .nil closes
    next other =>
      have passed := passed_of_kept shown
      rw [RunsAll, Reply.ensures_loosen, Reply.ensures_widen]
      apply ensures_then (first kept within) passed
      intro node after shorter done
      obtain ⟨taken, passed'⟩ := done.passed
      rw [Reply.ensures_widen, Reply.ensures_map]
      apply ensures_after (again after (by omega)) (passed.trans passed')
      rintro nodes final ⟨later, ending⟩
      refine ⟨?_, ending.trans (passed'.ending.trans passed.ending)⟩
      obtain ⟨read, -⟩ := done
      rw [shown.keptAhead, shown.ahead] at read
      rw [shown.ahead]
      exact .cons other read later

theorem Refuses.specific {ts rest : List Token} {failure : Failure}
    (refused : Refuses (.expression .disjunction) ts failure rest) :
    failure.Specific .grammatical := by
  have blocked := Scan.blocks_of_refuses refused Scan.start rfl
    fun tight => absurd tight (by decide)
  rcases refusal_of_blocked blocked with ⟨token, rfl⟩ | ⟨opening, node, expected, actual, rfl⟩
  · exact ⟨rfl, rfl⟩
  · exact ⟨rfl, rfl⟩

private theorem statement_step (s : Stream σ)
    (assigned : ∀ rest : Stream σ, rest.size < s.size → Runs .assignment rest (assignment rest))
    (declared : ∀ rest : Stream σ, rest.size < s.size → Runs .declaration rest (declaration rest)) :
    Runs .statement s (statement s) := by
  rw [statement]
  split
  next failure rest missed =>
    obtain ⟨nothing, rfl⟩ := nothing_ahead_of_glance missed
    exact fails_of_nothing nothing rest
  next token kept rest within less seen =>
    have shown := shows_of_glance seen
    split
    next start stop =>
      have passed := passed_of_shows shown rfl
      -- A `let`: what is assigned, and then the semicolon.
      rw [Runs, Reply.ensures_onRest]
      apply ensures_then (assigned rest less) passed
      intro node after shorter done
      obtain ⟨taken, passed'⟩ := done.passed
      have semicolon := ensures_operator after .semicolon .missingSemicolon fun _ => ⟨rfl, rfl⟩
      rw [Reply.ensures_onRest, Reply.ensures_map]
      apply ensures_after semicolon (passed.trans passed')
      rintro operator final ⟨token, ends, passed''⟩
      refine ⟨?_, passed''.ending.trans (passed'.ending.trans passed.ending)⟩
      obtain ⟨read, -⟩ := done
      rw [passed''.ahead] at read
      rw [passed.ahead]
      exact .letStatement read ends
    next start stop =>
      have passed := passed_of_shows shown rfl
      -- A function ends with its block; no semicolon is asked for.
      rw [Runs, Reply.ensures_onRest, Reply.ensures_map]
      apply ensures_after (declared rest less) passed
      rintro node final ⟨read, ending⟩
      refine ⟨?_, ending.trans passed.ending⟩
      rw [passed.ahead]
      exact .funcStatement read
    next noLet noFunc =>
      have other : token.keyword? [.let, .func] = none :=
        Token.keyword?_eq_none (fun start stop equal => noLet start stop equal)
          (fun start stop equal => noFunc start stop equal)
      -- Any other token is left for the expression to look at.
      rw [Runs, Reply.ensures_widen]
      have loose : Level.disjunction.rank ≤ 1 → kept.isOver = false :=
        fun tight => absurd tight (by decide)
      refine (expression_runs .disjunction kept loose).mono ?_ ?_
      · rintro node final ⟨read, ending⟩
        refine ⟨?_, ending.trans shown.keptEnding⟩
        rw [shown.keptAhead, shown.ahead] at read
        rw [shown.ahead]
        exact .expression other read
      · rintro failure final (refused | ⟨rfl, noEnd⟩)
        · exact .inl refused.specific
        · rw [shown.keptAhead] at noEnd
          exact .inr ⟨shown.keptEnding, noEnd⟩

mutual

/-- Reading a statement follows the rules. -/
theorem statement_runs (s : Stream σ) : Runs .statement s (statement s) :=
  statement_step s
    (fun rest _ => assignment_runs rest fun after _ => statement_runs after)
    (fun rest _ => declaration_runs rest fun body _ => block_runs body fun after _ =>
      statements_runs after)
termination_by 2 * s.size

theorem statements_runs (s : Stream σ) : RunsAll s (statements s) :=
  statements_step s (fun kept _ => statement_runs kept) fun rest _ => statements_runs rest
termination_by 2 * s.size + 1

end

end Runs

end Parser

end Bashling
