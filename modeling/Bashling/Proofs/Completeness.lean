import Bashling.Proofs.Statement

/-!
# The parser does what its rules allow

What the functions of the parser do is allowed by the rules (`expression_runs`, `statement_runs`).
Here is the other direction. Wherever a rule leads from the tokens ahead to a tree and the tokens
that are left, the function builds that tree and leaves those tokens. Nothing is asked of the
stream beyond the tokens it shows; there need not be an end of text among them.
-/

namespace Bashling

namespace Reply

variable {σ : Type} [TokenSource σ] {α β : Type} {bound wider : Nat}

/-- A reply that builds this value and leaves a stream with these tokens ahead. -/
def Gives (reply : Reply σ α bound) (value : α) (ahead : List Token) (ending : Failure) : Prop :=
  reply.Ensures (fun value' rest => value' = value ∧ rest.ahead = ahead ∧ rest.ending = ending)
    fun _ _ => False

variable {reply : Reply σ α bound} {value : α} {ahead : List Token} {ending : Failure}

theorem Gives.outcome (gives : reply.Gives value ahead ending) :
    ∃ rest, reply.outcome = (.ok value, rest) ∧ rest.ahead = ahead ∧ rest.ending = ending := by
  cases reply with
  | done value' rest less =>
    obtain ⟨rfl, shown, ended⟩ := gives
    exact ⟨rest, rfl, shown, ended⟩
  | failed failure rest => exact gives.elim

theorem Gives.andThen {later : List Token} {result : β}
    {proceed : α → (rest : Stream σ) → rest.size < bound → Reply σ β bound}
    (first : reply.Gives value ahead ending)
    (second : ∀ rest less, rest.ahead = ahead → rest.ending = ending →
      (proceed value rest less).Gives result later ending) :
    (reply.andThen proceed).Gives result later ending := by
  refine Ensures.andThen first ?_
  rintro value' rest less ⟨rfl, shown, ended⟩
  exact second rest less shown ended

theorem Gives.map (f : α → β) (gives : reply.Gives value ahead ending) :
    (reply.map f).Gives (f value) ahead ending := by
  refine ensures_map f |>.mpr (gives.mono ?_ fun _ _ failed => failed)
  rintro value' rest ⟨rfl, shown⟩
  exact ⟨rfl, shown⟩

@[simp] theorem gives_widen (within : bound ≤ wider) :
    (reply.widen within).Gives value ahead ending ↔ reply.Gives value ahead ending :=
  ensures_widen within

@[simp] theorem gives_onRest {rest : Stream σ} {reply : Reply σ α rest.size}
    (less : rest.size < bound) :
    (reply.onRest less).Gives value ahead ending ↔ reply.Gives value ahead ending :=
  ensures_onRest less

@[simp] theorem gives_loosen :
    reply.loosen.Gives value ahead ending ↔ reply.Gives value ahead ending :=
  ensures_loosen

end Reply

namespace Lookahead

/-- A stream over a list of tokens. -/
def ofTokens (ts : List Token) : Stream (Cursor Token) := .ofSource (.ofList ts)

@[simp] theorem ahead_ofTokens (ts : List Token) : (ofTokens ts).ahead = ts :=
  (Cursor.ahead_ofSource _).1

variable {σ : Type} [TokenSource σ] {α : Type} {s : Stream σ} {token : Token} {ts : List Token}

theorem isOver_of_ahead (ahead : s.ahead = token :: ts) : s.isOver = false := by
  cases closed : s.isOver with
  | false => rfl
  | true =>
    rw [(nothing_ahead_of_over closed).1] at ahead
    cases ahead

/-- The first token ahead is the one that a look shows. -/
theorem glance_of_ahead (ahead : s.ahead = token :: ts) :
    ∃ kept rest within less, s.glance = .seen token kept rest within less ∧
      s.Shows token kept rest ∧ rest.ahead = ts := by
  cases look : s.glance with
  | seen token' kept rest within less =>
    have shown := shows_of_glance look
    obtain ⟨rfl, rfl⟩ := List.cons.inj (shown.ahead.symm.trans ahead)
    exact ⟨kept, rest, within, less, rfl, shown, rfl⟩
  | failed failure rest =>
    rw [(nothing_ahead_of_glance look).1] at ahead
    cases ahead

theorem next_of_ahead (ahead : s.ahead = token :: ts) :
    ∃ rest, s.next = (.ok token, rest) ∧ rest.ahead = ts ∧ rest.ending = s.ending := by
  have opened := isOver_of_ahead ahead
  cases step : s.next with
  | mk outcome rest =>
    cases outcome with
    | ok token' =>
      obtain ⟨ahead', ended⟩ := ahead_of_next opened step
      obtain ⟨rfl, rfl⟩ := List.cons.inj (ahead'.symm.trans ahead)
      exact ⟨rest, rfl, rfl, ended⟩
    | error failure =>
      rw [(nothing_ahead_of_next opened step).1] at ahead
      cases ahead

theorem size_of_next {rest : Stream σ} (taken : s.next = (.ok token, rest))
    (counted : token.isEof = false) : rest.size < s.size := by
  have less := s.size_next_lt token (by rw [taken]) counted
  rwa [taken] at less

private theorem gives_expect {wanted : Token → Option α} {value : α} (refusal : Token → Failure)
    (ahead : s.ahead = token :: ts) (found : wanted token = some value) :
    (s.expect wanted refusal).Gives value ts s.ending := by
  obtain ⟨kept, rest, within, less, look, shown, left⟩ := glance_of_ahead ahead
  simp only [expect, look, found]
  exact ⟨rfl, left, shown.ending⟩

end Lookahead

namespace Parser

open Lookahead

section Gives

variable {σ : Type} [TokenSource σ]

/-! ### Expressions -/

/-- An atom, by the token that is taken for it. -/
theorem expression_atom {s rest : Stream σ} {token : Token}
    (taken : s.next = (.ok token, rest)) :
    expression .atom s =
      match token, taken with
      | ⟨start, stop, .number value⟩, taken =>
        .done (.number ⟨start, stop, value⟩) rest (size_of_next taken rfl)
      | ⟨start, stop, .identifier name⟩, taken =>
        .done (.identifier ⟨start, stop, name⟩) rest (size_of_next taken rfl)
      | ⟨start, stop, .operator .leftParen⟩, taken =>
        ((expression .sum rest).andThen fun inner closing less =>
          ((expectOperator closing .rightParen
              (.unclosedParen ⟨start, stop, .operator .leftParen⟩ inner .rightParen)).map
            fun _ => inner).onRest less).onRest (size_of_next taken rfl)
      | token, _ => .failed (.unexpectedToken token) rest := by
  rw [expression]
  simp only [Level.shape]
  split
  next step => cases taken.symm.trans step
  next step =>
    -- Both sides match on the token that was taken, so its lexeme picks the same branch in both.
    cases taken.symm.trans step
    obtain ⟨start, stop, lexeme⟩ := token
    cases lexeme with
    | operator kind => cases kind <;> rfl
    | _ => rfl

/-- The function of a rule gives this tree and leaves these tokens. -/
def Succeeds (s : Stream σ) (node : Node) (rest : List Token) : Rule → Prop
  | .expression level => (expression level s).Gives node rest s.ending
  | .chain later operators repeats left =>
    (chain later operators repeats left s).Gives node rest s.ending

/-- The induction is on the reading; each case opens its function once. -/
theorem Reads.gives {rule : Rule} {ts rest : List Token} {node : Node}
    (read : Reads rule ts node rest) (s : Stream σ) (ahead : s.ahead = ts) :
    Succeeds s node rest rule := by
  induction read generalizing s with
  | operands shaped _ _ ihHead ihTail =>
    rw [Succeeds, expression_chain shaped]
    refine (ihHead s ahead).andThen fun after less shown ended => ?_
    rw [Reply.gives_widen, ← ended]
    exact ihTail after shown
  | signed shaped sign _ ih =>
    obtain ⟨kept, after, within, less, look, shown, left⟩ := glance_of_ahead ahead
    rw [Succeeds, expression_signed shaped]
    simp only [look, sign, Reply.gives_onRest]
    rw [← shown.ending]
    exact (ih after left).map _
  | unsigned shaped other _ ih =>
    obtain ⟨kept, after, within, less, look, shown, -⟩ := glance_of_ahead ahead
    rw [Succeeds, expression_signed shaped]
    -- The look leaves the token in the stream, where the operand finds it.
    simp only [look, other, Reply.gives_widen]
    rw [← shown.keptEnding]
    exact ih kept (shown.keptAhead.trans ahead)
  | number | identifier =>
    obtain ⟨after, taken, left, ended⟩ := next_of_ahead ahead
    rw [Succeeds, expression_atom taken]
    exact ⟨rfl, left, ended⟩
  | parens _ closes ih =>
    obtain ⟨after, taken, left, ended⟩ := next_of_ahead ahead
    rw [Succeeds, expression_atom taken, Reply.gives_onRest, ← ended]
    refine (ih after left).andThen fun closing less shown ended' => ?_
    -- The parenthesis that closes the sum is the first token that the sum has left.
    rw [Reply.gives_onRest, ← ended']
    exact (gives_expect _ shown closes).map _
  | stop repeats left other =>
    obtain ⟨kept, after, within, less, look, shown, -⟩ := glance_of_ahead ahead
    rw [Succeeds, chain]
    simp only [look, other]
    exact ⟨rfl, shown.keptAhead.trans ahead, shown.keptEnding⟩
  | once join _ ih =>
    obtain ⟨kept, after, within, less, look, shown, left⟩ := glance_of_ahead ahead
    rw [Succeeds, chain]
    simp only [look, join, Reply.gives_loosen, Reply.gives_onRest]
    rw [← shown.ending]
    refine (ih after left).andThen fun final shorter shown' ended => ?_
    exact ⟨rfl, shown', ended⟩
  | more join _ _ ihOperand ihTail =>
    obtain ⟨kept, after, within, less, look, shown, left⟩ := glance_of_ahead ahead
    rw [Succeeds, chain]
    simp only [look, join, Reply.gives_loosen, Reply.gives_onRest]
    rw [← shown.ending]
    refine (ihOperand after left).andThen fun mid shorter shown' ended => ?_
    rw [if_pos trivial, Reply.gives_widen, ← ended]
    exact ihTail mid shown'

/-- What an expression does on a list of tokens. -/
theorem Reads.outcome {level : Level} {ts rest : List Token} {node : Node}
    (read : Reads (.expression level) ts node rest) :
    ∃ left, (expression level (.ofTokens ts)).outcome = (.ok node, left) ∧ left.ahead = rest := by
  obtain ⟨left, built, shown, -⟩ := (read.gives _ (ahead_ofTokens ts)).outcome
  exact ⟨left, built, shown⟩

/-! ### Statements -/

private theorem gives_parameter {s : Stream σ} {token colon typed : Token}
    {name type : Located String} {separator : Located Operator} {rest : List Token}
    (ahead : s.ahead = token :: colon :: typed :: rest) (named : token.identifier? = some name)
    (separates : colon.operator? [.colon] = some separator)
    (types : typed.identifier? = some type) :
    (parameter s).Gives (some ⟨name, type⟩) rest s.ending := by
  obtain ⟨kept, after, within, less, look, shown, left⟩ := glance_of_ahead ahead
  simp only [parameter, look, named, Reply.gives_loosen, Reply.gives_onRest]
  rw [← shown.ending]
  refine (gives_expect _ left separates).andThen fun mid shorter shown' ended => ?_
  rw [Reply.gives_onRest, ← ended]
  exact (gives_expect _ shown' types).map _

theorem ReadsParameters.gives {ts rest : List Token} {items : List Parameter}
    (read : ReadsParameters ts items rest) (s : Stream σ) (ahead : s.ahead = ts) :
    (parameters s).Gives items rest s.ending := by
  induction read generalizing s with
  | @none token rest other =>
    -- No name comes next, so the token is looked at and left.
    obtain ⟨kept, after, within, less, look, shown, -⟩ := glance_of_ahead ahead
    have nothing : (parameter s).Gives .none (token :: rest) s.ending := by
      simp only [parameter, look, other]
      exact ⟨rfl, shown.keptAhead.trans ahead, shown.keptEnding⟩
    rw [parameters]
    exact nothing.andThen fun mid _ shown' ended => ⟨rfl, shown', ended⟩
  | last named separates types other =>
    rw [parameters]
    refine (gives_parameter ahead named separates types).andThen fun mid _ shown ended => ?_
    obtain ⟨kept, after, within, less, look, shown', -⟩ := glance_of_ahead shown
    simp only [look, other, Reply.gives_widen]
    exact ⟨rfl, shown'.keptAhead.trans shown, shown'.keptEnding.trans ended⟩
  | more named separates types goesOn _ ih =>
    rw [parameters]
    refine (gives_parameter ahead named separates types).andThen fun mid _ shown ended => ?_
    obtain ⟨kept, after, within, less, look, shown', left⟩ := glance_of_ahead shown
    simp only [look, goesOn, Reply.gives_widen, Reply.gives_onRest]
    rw [← ended, ← shown'.ending]
    exact (ih after left).map _

/-- A statement that starts with no keyword of its own is an expression. -/
private theorem statement_expression {s kept rest : Stream σ} {token : Token}
    {within : kept.size ≤ s.size} {less : rest.size < s.size}
    (look : s.glance = .seen token kept rest within less)
    (other : token.keyword? [.let, .func] = none) :
    statement s = (expression .disjunction kept).widen within := by
  rw [statement]
  simp only [look]
  split
  · cases other
  · cases other
  · rfl

/-- The function of a phrase gives this tree and leaves these tokens. -/
def SucceedsPhrase (s : Stream σ) (node : Node) (rest : List Token) : Phrase → Prop
  | .statement => (statement s).Gives node rest s.ending
  | .assignment => (assignment s).Gives node rest s.ending
  | .declaration => (declaration s).Gives node rest s.ending
  | .block => (block s).Gives node rest s.ending
  | .statements => ∃ nodes, node = .block nodes ∧ (statements s).Gives nodes rest s.ending

theorem ReadsPhrase.gives {phrase : Phrase} {ts rest : List Token} {node : Node}
    (read : ReadsPhrase phrase ts node rest) (s : Stream σ) (ahead : s.ahead = ts) :
    SucceedsPhrase s node rest phrase := by
  induction read generalizing s with
  | expression other read =>
    obtain ⟨kept, after, within, less, look, shown, -⟩ := glance_of_ahead ahead
    rw [SucceedsPhrase, statement_expression look other, Reply.gives_widen, ← shown.keptEnding]
    exact read.gives kept (shown.keptAhead.trans ahead)
  | letStatement _ ends ih =>
    obtain ⟨kept, after, within, less, look, shown, left⟩ := glance_of_ahead ahead
    rw [SucceedsPhrase, statement]
    simp only [look, Reply.gives_onRest]
    rw [← shown.ending]
    refine (ih after left).andThen fun mid shorter shown' ended => ?_
    rw [Reply.gives_onRest, ← ended]
    exact (gives_expect _ shown' ends).map _
  | funcStatement _ ih =>
    obtain ⟨kept, after, within, less, look, shown, left⟩ := glance_of_ahead ahead
    rw [SucceedsPhrase, statement]
    simp only [look, Reply.gives_onRest]
    rw [← shown.ending]
    exact (ih after left).map _
  | assignment named assigns _ ih =>
    rw [SucceedsPhrase, Parser.assignment]
    refine (gives_expect _ ahead named).andThen fun mid less shown ended => ?_
    rw [Reply.gives_onRest, ← ended]
    refine (gives_expect _ shown assigns).andThen fun after shorter shown' ended' => ?_
    rw [Reply.gives_onRest, ← ended']
    exact (ih after shown').map _
  | declaration named opens listed closes _ ih =>
    rw [SucceedsPhrase, Parser.declaration]
    refine (gives_expect _ ahead named).andThen fun opening less shown ended => ?_
    rw [Reply.gives_onRest, ← ended]
    refine (gives_expect _ shown opens).andThen fun inside shorter shown' ended' => ?_
    rw [Reply.gives_widen, ← ended']
    refine (listed.gives inside shown').andThen fun closing within shown'' ended'' => ?_
    rw [Reply.gives_onRest, ← ended'']
    refine (gives_expect _ shown'' closes).andThen fun body last shown''' ended''' => ?_
    rw [Reply.gives_onRest, ← ended''']
    exact (ih body shown''').map _
  | block opens _ ih =>
    rw [SucceedsPhrase, Parser.block]
    refine (gives_expect _ ahead opens).andThen fun after less shown ended => ?_
    obtain ⟨nodes, equal, gives⟩ := ih after shown
    cases equal
    rw [Reply.gives_widen, ← ended]
    exact gives.map _
  | nil closes =>
    obtain ⟨kept, after, within, less, look, shown, -⟩ := glance_of_ahead ahead
    refine ⟨[], rfl, ?_⟩
    rw [statements]
    simp only [look, closes]
    exact ⟨rfl, shown.keptAhead.trans ahead, shown.keptEnding⟩
  | cons other _ _ ihFirst ihLater =>
    -- The look that tells a statement from the closing brace takes nothing.
    obtain ⟨kept, after, within, less, look, shown, -⟩ := glance_of_ahead ahead
    refine ⟨_, rfl, ?_⟩
    rw [statements]
    simp only [look, other, Reply.gives_loosen, Reply.gives_widen]
    rw [← shown.keptEnding]
    refine (ihFirst kept (shown.keptAhead.trans ahead)).andThen fun mid _ shown' ended => ?_
    obtain ⟨nodes, equal, gives⟩ := ihLater mid shown'
    cases equal
    rw [Reply.gives_widen, ← ended]
    exact gives.map _

end Gives
end Parser
end Bashling
