import Bashling.Compilation
import Bashling.Proofs.Completeness
import Bashling.Proofs.Lexemes

/-!
# Reading from a text and from a list of tokens

A lexer reads tokens from its text while the parser asks for them. It can be replaced by the list of
all its tokens: the parser builds the same trees and refuses with the same failures
(`parses_text_as_tokens`). The two kinds of source differ behind their last token. A list that is
asked again fails, and a lexer hands out the end of its text once more. So the result rests on the
parser never taking a token that it has not looked at.

The proof runs the parser on two streams side by side. As long as the same tokens are ahead of both
(`Alike`), so are they after every step, and the replies of the two runs agree (`Reply.Agrees`).
-/

namespace Bashling

variable {σ σ' : Type} [TokenSource σ] [TokenSource σ'] {e e' : Failure}

/-- Two streams that show the same tokens, with these failures where the tokens end. -/
structure Alike (e e' : Failure) (s : Stream σ) (s' : Stream σ') : Prop where
  ahead : s.ahead = s'.ahead
  ending : s.ending = e
  ending' : s'.ending = e'

/-! ### Replies on two streams -/

namespace Reply

variable {α β : Type} {bound bound' wider wider' : Nat}

/-- Two replies that build the same, or refuse with the same failure of the grammar, and leave
streams that are alike; or else each of them comes from a look behind the last token. -/
inductive Agrees (e e' : Failure) : Reply σ α bound → Reply σ' α bound' → Prop where
  | done {rest : Stream σ} {rest' : Stream σ'} {less less'} (value : α)
      (alike : Alike e e' rest rest') :
      Agrees e e' (.done value rest less) (.done value rest' less')
  | refused {rest : Stream σ} {rest' : Stream σ'} {failure : Failure}
      (specific : failure.Specific .grammatical) (alike : Alike e e' rest rest') :
      Agrees e e' (.failed failure rest) (.failed failure rest')
  | ranOut {s rest : Stream σ} {s' rest' : Stream σ'} (missed : s.peek = (.error e, rest))
      (missed' : s'.peek = (.error e', rest')) : Agrees e e' (.failed e rest) (.failed e' rest')

variable {reply : Reply σ α bound} {reply' : Reply σ' α bound'}

theorem Agrees.andThen {proceed : α → (rest : Stream σ) → rest.size < bound → Reply σ β bound}
    {proceed' : α → (rest : Stream σ') → rest.size < bound' → Reply σ' β bound'}
    (first : Agrees e e' reply reply')
    (second : ∀ value rest less rest' less', Alike e e' rest rest' →
      Agrees e e' (proceed value rest less) (proceed' value rest' less')) :
    Agrees e e' (reply.andThen proceed) (reply'.andThen proceed') := by
  cases first with
  | done value alike => exact second value _ _ _ _ alike
  | refused specific alike => exact .refused specific alike
  | ranOut missed missed' => exact .ranOut missed missed'

theorem Agrees.map (f : α → β) (agrees : Agrees e e' reply reply') :
    Agrees e e' (reply.map f) (reply'.map f) := by
  cases agrees with
  | done value alike => exact .done _ alike
  | refused specific alike => exact .refused specific alike
  | ranOut missed missed' => exact .ranOut missed missed'

theorem Agrees.widen {within : bound ≤ wider} {within' : bound' ≤ wider'}
    (agrees : Agrees e e' reply reply') :
    Agrees e e' (reply.widen within) (reply'.widen within') := by
  cases agrees with
  | done value alike => exact .done _ alike
  | refused specific alike => exact .refused specific alike
  | ranOut missed missed' => exact .ranOut missed missed'

/-- Two steps whose replies agree behind two streams: wherever streams are alike and less is left
than of the first one. -/
def AgreeBehind (e e' : Failure) (s : Stream σ) (_s' : Stream σ') {limit : Stream σ → Nat}
    {limit' : Stream σ' → Nat} (step : (s : Stream σ) → Reply σ α (limit s))
    (step' : (s : Stream σ') → Reply σ' α (limit' s)) : Prop :=
  ∀ rest rest', rest.size < s.size → Alike e e' rest rest' → Agrees e e' (step rest) (step' rest')

end Reply

open Reply (Agrees AgreeBehind)

/-! ### A look at two streams -/

namespace Lookahead

variable {α : Type} {s : Stream σ} {s' : Stream σ'} {bound bound' : Nat}

/-- Looks at two streams that show the same token, or are both behind the last one. -/
inductive SameGlance (e e' : Failure) : Glance σ bound → Glance σ' bound' → Prop where
  | seen {kept rest : Stream σ} {kept' rest' : Stream σ'} {within less within' less'}
      (token : Token) (shown : kept.ahead = token :: rest.ahead) (held : Alike e e' kept kept')
      (later : Alike e e' rest rest') :
      SameGlance e e' (.seen token kept rest within less) (.seen token kept' rest' within' less')
  | ranOut {s rest : Stream σ} {s' rest' : Stream σ'} (missed : s.peek = (.error e, rest))
      (missed' : s'.peek = (.error e', rest')) :
      SameGlance e e' (.failed e rest) (.failed e' rest')

private theorem sameGlance_of_alike (alike : Alike e e' s s') :
    SameGlance e e' s.glance s'.glance := by
  cases look : s.glance with
  | seen token kept rest within less =>
    have shown := shows_of_glance look
    obtain ⟨kept', rest', within', less', look', shown', left⟩ :=
      glance_of_ahead (alike.ahead.symm.trans shown.ahead)
    rw [look']
    refine .seen token (shown.keptAhead.trans shown.ahead) ⟨?_, ?_, ?_⟩ ⟨left.symm, ?_, ?_⟩
    · rw [shown.keptAhead, shown'.keptAhead, alike.ahead]
    · rw [shown.keptEnding, alike.ending]
    · rw [shown'.keptEnding, alike.ending']
    · rw [shown.ending, alike.ending]
    · rw [shown'.ending, alike.ending']
  | failed failure rest =>
    obtain ⟨nothing, rfl⟩ := nothing_ahead_of_glance look
    cases look' : s'.glance with
    | seen token kept' rest' within' less' =>
      have shown' := (shows_of_glance look').ahead
      rw [← alike.ahead, nothing] at shown'
      cases shown'
    | failed failure' rest' =>
      obtain ⟨-, rfl⟩ := nothing_ahead_of_glance look'
      rw [alike.ending] at look ⊢
      rw [alike.ending'] at look' ⊢
      exact .ranOut (peek_of_glance_failed look) (peek_of_glance_failed look')

private theorem agrees_expect (alike : Alike e e' s s') (wanted : Token → Option α)
    {refusal : Token → Failure} (specific : ∀ token, (refusal token).Specific .grammatical) :
    Agrees e e' (s.expect wanted refusal) (s'.expect wanted refusal) := by
  have look := sameGlance_of_alike alike
  unfold expect
  generalize s.glance = glance, s'.glance = glance' at look ⊢
  cases look with
  | ranOut missed missed' => exact .ranOut missed missed'
  | seen token _ held later =>
    dsimp only
    cases wanted token with
    | some value => exact .done value later
    | none => exact .refused (specific token) held

end Lookahead

/-! ### The parser on two streams -/

namespace Parser

open Lookahead

variable {s : Stream σ} {s' : Stream σ'}

private theorem agrees_atom (alike : Alike e e' s s') (more : s.ahead ≠ [])
    (inner : AgreeBehind e e' s s' (expression .sum) (expression .sum)) :
    Agrees e e' (expression .atom s) (expression .atom s') := by
  obtain ⟨token, ts, shown⟩ := List.exists_cons_of_ne_nil more
  obtain ⟨rest, taken, left, ended⟩ := next_of_ahead shown
  obtain ⟨rest', taken', left', ended'⟩ := next_of_ahead (alike.ahead.symm.trans shown)
  have after : Alike e e' rest rest' :=
    ⟨left.trans left'.symm, ended.trans alike.ending, ended'.trans alike.ending'⟩
  rw [expression_atom taken, expression_atom taken']
  obtain ⟨start, stop, lexeme⟩ := token
  cases lexeme with
  | number value => exact .done _ after
  | identifier name => exact .done _ after
  | operator kind =>
    cases kind with
    | leftParen =>
      refine .widen (.andThen (inner rest rest' (size_of_next taken rfl) after) ?_)
      intro node closing less closing' less' closed
      exact .widen (.map _ (agrees_expect closed _ fun _ => ⟨rfl, rfl⟩))
    | _ => exact .refused ⟨rfl, rfl⟩ after
  | _ => exact .refused ⟨rfl, rfl⟩ after

private theorem agrees_signed {level operand : Level} {operators : List Operator}
    (shaped : level.shape = .signed operand operators) (alike : Alike e e' s s')
    (again : AgreeBehind e e' s s' (expression level) (expression level))
    (inner : ∀ (kept : Stream σ) (kept' : Stream σ'), kept.size ≤ s.size →
      Alike e e' kept kept' → kept.ahead ≠ [] →
      Agrees e e' (expression operand kept) (expression operand kept')) :
    Agrees e e' (expression level s) (expression level s') := by
  have look := sameGlance_of_alike alike
  rw [expression_signed shaped, expression_signed shaped]
  generalize s.glance = glance, s'.glance = glance' at look ⊢
  cases look with
  | ranOut missed missed' => exact .ranOut missed missed'
  | @seen kept rest kept' rest' within less _ _ token shown held later =>
    dsimp only
    cases token.operator? operators with
    | some operator => exact .widen (.map _ (again rest rest' less later))
    | none =>
      -- The token stays in both streams, so the operand does not start behind the last one.
      exact .widen (inner kept kept' within held (by simp [shown]))

private theorem agrees_chain (later : Level) (operators : List Operator) (repeats : Bool)
    (left : Node) (alike : Alike e e' s s')
    (operand : AgreeBehind e e' s s' (expression later) (expression later))
    (again : ∀ left, AgreeBehind e e' s s' (chain later operators repeats left)
      (chain later operators repeats left)) :
    Agrees e e' (chain later operators repeats left s) (chain later operators repeats left s') := by
  have look := sameGlance_of_alike alike
  rw [chain, chain]
  generalize s.glance = glance, s'.glance = glance' at look ⊢
  cases look with
  | ranOut missed missed' => exact .ranOut missed missed'
  | @seen kept rest kept' rest' within less _ _ token shown held after =>
    dsimp only
    cases token.operator? operators with
    | none => exact .done left held
    | some operator =>
      refine .widen (.widen (.andThen (operand rest rest' less after) ?_))
      intro right mid shorter mid' shorter' joined
      cases repeats with
      | false => exact .done _ joined
      | true =>
        rw [if_pos rfl, if_pos rfl]
        exact .widen (again _ mid mid' (Nat.lt_trans shorter less) joined)

mutual

/-- The induction is that of the parser on the first stream. Atoms and powers are read without a
look at the stream, so for them a token must be ahead. -/
private theorem expression_agrees (level : Level) (s : Stream σ) (s' : Stream σ')
    (alike : Alike e e' s s') (ready : level.rank ≤ 1 → s.ahead ≠ []) :
    Agrees e e' (expression level s) (expression level s') := by
  cases shaped : level.shape with
  | chain first later operators repeats =>
    have tighter := Level.rank_lt_of_chain shaped
    rw [expression_chain shaped, expression_chain shaped]
    refine .andThen (expression_agrees first s s' alike fun tight =>
      ready (Level.rank_le_one_of_first shaped tight)) ?_
    intro left rest less rest' less' after
    exact .widen (chain_agrees later operators repeats left rest rest' after
      (Level.one_lt_rank_of_later shaped))
  | signed operand operators =>
    have tighter := Level.rank_lt_of_signed shaped
    have loose := Level.one_lt_rank_of_signed shaped
    exact agrees_signed shaped alike
      (fun rest rest' _ after => expression_agrees level rest rest' after fun tight =>
        absurd loose (Nat.not_lt.mpr tight))
      fun kept kept' _ held more => expression_agrees operand kept kept' held fun _ => more
  | atom =>
    obtain rfl : level = .atom := by
      cases level <;> first | rfl | cases shaped
    exact agrees_atom alike (ready (by decide)) fun rest rest' _ after =>
      expression_agrees .sum rest rest' after fun tight => absurd tight (by decide)
termination_by 9 * s.size + level.rank
decreasing_by
  · omega
  · omega
  · omega
  · omega
  · simp only [Level.rank]
    omega

private theorem chain_agrees (later : Level) (operators : List Operator) (repeats : Bool)
    (left : Node) (s : Stream σ) (s' : Stream σ') (alike : Alike e e' s s')
    (loose : 1 < later.rank) :
    Agrees e e' (chain later operators repeats left s) (chain later operators repeats left s') :=
  agrees_chain later operators repeats left alike
    (fun rest rest' _ after => expression_agrees later rest rest' after fun tight =>
      absurd loose (Nat.not_lt.mpr tight))
    fun left rest rest' _ after => chain_agrees later operators repeats left rest rest' after loose
termination_by 9 * s.size
decreasing_by
  · have := later.rank_lt
    omega
  · omega

end

private theorem parameter_agrees (alike : Alike e e' s s') :
    Agrees e e' (parameter s) (parameter s') := by
  have look := sameGlance_of_alike alike
  unfold parameter
  generalize s.glance = glance, s'.glance = glance' at look ⊢
  cases look with
  | ranOut missed missed' => exact .ranOut missed missed'
  | seen token shown held later =>
    dsimp only
    cases token.identifier? with
    | none => exact .done none held
    | some name =>
      refine .widen (.widen (.andThen (agrees_expect later _ fun _ => ⟨rfl, rfl⟩) ?_))
      intro colon mid shorter mid' shorter' after
      exact .widen (.map _ (agrees_expect after _ fun _ => ⟨rfl, rfl⟩))

private theorem parameters_agrees (s : Stream σ) (s' : Stream σ') (alike : Alike e e' s s') :
    Agrees e e' (parameters s) (parameters s') := by
  rw [parameters, parameters]
  refine .andThen (parameter_agrees alike) ?_
  intro found mid _ mid' _ after
  cases found with
  | none => exact .done [] after
  | some first =>
    have look := sameGlance_of_alike after
    dsimp only
    generalize mid.glance = glance, mid'.glance = glance' at look ⊢
    cases look with
    | ranOut missed missed' => exact .ranOut missed missed'
    | @seen kept rest kept' rest' _ _ _ _ token shown held later =>
      dsimp only
      cases token.operator? [.comma] with
      | none => exact .widen (.done [first] held)
      | some comma => exact .widen (.widen (.map _ (parameters_agrees rest rest' later)))
termination_by s.size
decreasing_by omega

private theorem assignment_agrees (alike : Alike e e' s s')
    (inner : AgreeBehind e e' s s' statement statement) :
    Agrees e e' (assignment s) (assignment s') := by
  rw [assignment, assignment]
  refine .andThen (agrees_expect alike _ fun _ => ⟨rfl, rfl⟩) ?_
  intro target rest less rest' less' named
  refine .widen (.andThen (agrees_expect named _ fun _ => ⟨rfl, rfl⟩) ?_)
  intro sign after shorter after' shorter' assigned
  exact .widen (.map _ (inner after after' (Nat.lt_trans shorter less) assigned))

private theorem declaration_agrees (alike : Alike e e' s s')
    (inner : AgreeBehind e e' s s' block block) :
    Agrees e e' (declaration s) (declaration s') := by
  rw [declaration, declaration]
  refine .andThen (agrees_expect alike _ fun _ => ⟨rfl, rfl⟩) ?_
  intro name opening less opening' less' named
  refine .widen (.andThen (agrees_expect named _ fun _ => ⟨rfl, rfl⟩) ?_)
  intro paren inside shorter inside' shorter' opened
  refine .widen (.andThen (parameters_agrees inside inside' opened) ?_)
  intro items closing within closing' within' listed
  refine .widen (.andThen (agrees_expect listed _ fun _ => ⟨rfl, rfl⟩) ?_)
  intro paren' body last body' last' closed
  exact .widen (.map _ (inner body body' (by omega) closed))

private theorem block_agrees (alike : Alike e e' s s')
    (inner : AgreeBehind e e' s s' statements statements) :
    Agrees e e' (block s) (block s') := by
  rw [block, block]
  refine .andThen (agrees_expect alike _ fun _ => ⟨rfl, rfl⟩) ?_
  intro brace rest less rest' less' opened
  exact .widen (.map _ (inner rest rest' less opened))

private theorem agrees_statement (alike : Alike e e' s s')
    (assigned : AgreeBehind e e' s s' assignment assignment)
    (declared : AgreeBehind e e' s s' declaration declaration) :
    Agrees e e' (statement s) (statement s') := by
  have look := sameGlance_of_alike alike
  rw [statement, statement]
  generalize s.glance = glance, s'.glance = glance' at look ⊢
  cases look with
  | ranOut missed missed' => exact .ranOut missed missed'
  | @seen kept rest kept' rest' within less _ _ token shown held later =>
    dsimp only
    split
    · refine .widen (.andThen (assigned rest rest' less later) ?_)
      intro node after shorter after' shorter' ended
      exact .widen (.map _ (agrees_expect ended _ fun _ => ⟨rfl, rfl⟩))
    · exact .widen (.map _ (declared rest rest' less later))
    · exact .widen (expression_agrees .disjunction kept kept' held fun _ => by simp [shown])

private theorem agrees_statements (alike : Alike e e' s s')
    (first : ∀ (kept : Stream σ) (kept' : Stream σ'), kept.size ≤ s.size →
      Alike e e' kept kept' → Agrees e e' (statement kept) (statement kept'))
    (again : AgreeBehind e e' s s' statements statements) :
    Agrees e e' (statements s) (statements s') := by
  have look := sameGlance_of_alike alike
  rw [statements, statements]
  generalize s.glance = glance, s'.glance = glance' at look ⊢
  cases look with
  | ranOut missed missed' => exact .ranOut missed missed'
  | @seen kept rest kept' rest' within less _ _ token shown held later =>
    dsimp only
    cases token.operator? [.rightBrace] with
    | some brace => exact .done [] held
    | none =>
      refine .widen (.widen (.andThen (first kept kept' within held) ?_))
      intro node after shorter after' shorter' behind
      exact .widen (.map _ (again after after' (by omega) behind))

mutual

private theorem statement_agrees (s : Stream σ) (s' : Stream σ') (alike : Alike e e' s s') :
    Agrees e e' (statement s) (statement s') :=
  agrees_statement alike
    (fun _ _ _ later => assignment_agrees later fun after after' _ assigned =>
      statement_agrees after after' assigned)
    fun _ _ _ later => declaration_agrees later fun _ _ _ closed => block_agrees closed
      fun rest rest' _ opened => statements_agrees rest rest' opened
termination_by 2 * s.size

private theorem statements_agrees (s : Stream σ) (s' : Stream σ') (alike : Alike e e' s s') :
    Agrees e e' (statements s) (statements s') :=
  agrees_statements alike (fun kept kept' _ held => statement_agrees kept kept' held)
    fun rest rest' _ later => statements_agrees rest rest' later
termination_by 2 * s.size + 1

end

end Parser

/-! ### One parse after another -/

/-- The outcomes of a number of parses, each of which goes on where the one before has stopped. -/
def Lookahead.parses (s : Stream σ) : Nat → List (Except Failure Node)
  | 0 => []
  | n + 1 => s.parse.1 :: s.parse.2.parses n

/-- A source that never fails the way a look at a stream does that is over. -/
def Candid (σ : Type) [TokenSource σ] : Prop :=
  ∀ source : σ, (Source.next source).1 ≠ .error .nothingToPeek

private theorem Lexer.candid : Candid Lexer := by
  intro l equal
  have outcome := l.next_cases
  cases step : l.next with
  | mk result after =>
    rw [step] at outcome
    obtain rfl : result = .error .nothingToPeek := by simpa [Source.next, step] using equal
    cases outcome with
    | failed specific => exact absurd specific (by decide)

private theorem Cursor.candid : Candid (Cursor Token) := by
  rintro ⟨taken, rest⟩ equal
  cases rest with
  | nil => exact absurd (congrArg Failure.message (Except.error.inj equal)) (by decide)
  | cons token rest => cases equal

/-- A look at a stream that is over leaves it as it is. -/
private theorem Lookahead.over_of_peek {s rest : Stream σ} (candid : Candid σ)
    (missed : s.peek = (.error .nothingToPeek, rest)) :
    rest.ahead = [] ∧ rest.ending = .nothingToPeek := by
  have same : rest = s := by
    unfold peek at missed
    split at missed
    · cases missed
    · split at missed
      · exact (Prod.mk.inj missed).2.symm
      · split at missed
        · cases missed
        next step =>
          -- The source has failed, and not with this failure.
          cases missed
          exact absurd (by rw [step]) (candid s.source)
  subst same
  exact ⟨ahead_of_peek_error missed, ending_of_peek_error missed⟩

section Parses

variable {s : Stream σ} {s' : Stream σ'}

theorem Alike.parse (candid : Candid σ) (candid' : Candid σ')
    (alike : Alike .nothingToPeek .nothingToPeek s s') :
    s.parse.1 = s'.parse.1 ∧ Alike .nothingToPeek .nothingToPeek s.parse.2 s'.parse.2 := by
  have agrees := Parser.statement_agrees s s' alike
  unfold Lookahead.parse
  generalize Parser.statement s = reply, Parser.statement s' = reply' at agrees ⊢
  cases agrees with
  | done value after => exact ⟨rfl, after⟩
  | refused specific after => exact ⟨rfl, after⟩
  | ranOut missed missed' =>
    -- Both streams are over and stay so, whatever their sources would still hand out.
    obtain ⟨nothing, ended⟩ := Lookahead.over_of_peek candid missed
    obtain ⟨nothing', ended'⟩ := Lookahead.over_of_peek candid' missed'
    exact ⟨rfl, nothing.trans nothing'.symm, ended, ended'⟩

theorem Alike.parses (candid : Candid σ) (candid' : Candid σ')
    (alike : Alike .nothingToPeek .nothingToPeek s s') (n : Nat) :
    s.parses n = s'.parses n := by
  induction n generalizing s s' with
  | zero => rfl
  | succ n ih =>
    obtain ⟨same, after⟩ := alike.parse candid candid'
    rw [Lookahead.parses, Lookahead.parses, same, ih after]

end Parses

/-! ### Texts and their tokens -/

private theorem alike_tokens (text : List Char) :
    Alike ((Lexer.ofText text).tokens.2.getD .nothingToPeek) .nothingToPeek (tokenStream text)
      (Lookahead.ofTokens (Lexer.ofText text).tokens.1) := by
  obtain ⟨ahead, ending⟩ := Lexer.ahead_ofSource (Lexer.ofText text)
  exact ⟨ahead.trans (Lookahead.ahead_ofTokens _).symm, ending, (Cursor.ahead_ofSource _).2⟩

/-- Parsing a text is parsing the list of its tokens. If the text is read to its end, any number of
parses have the same outcomes on both. If reading it fails, the failure takes the place of the one
for tokens that have run out. -/
theorem parses_text_as_tokens (text : List Char) :
    match (Lexer.ofText text).tokens with
    | (tokens, none) => ∀ n, (tokenStream text).parses n = (Lookahead.ofTokens tokens).parses n
    | (tokens, some failure) =>
      (tokenStream text).parse.1 =
        match (Lookahead.ofTokens tokens).parse.1 with
        | .ok node => .ok node
        | .error refusal =>
          .error (if refusal.family? = some .exhausted then failure else refusal) := by
  have alike := alike_tokens text
  cases read : (Lexer.ofText text).tokens with
  | mk tokens failure =>
    rw [read] at alike
    cases failure with
    | none => exact alike.parses Lexer.candid Cursor.candid
    | some failure =>
      have agrees := Parser.statement_agrees _ _ alike
      unfold Lookahead.parse
      dsimp only [Option.getD] at agrees ⊢
      generalize Parser.statement (tokenStream text) = reply,
        Parser.statement (Lookahead.ofTokens tokens) = reply' at agrees ⊢
      cases agrees with
      | done node after => rfl
      | refused specific after => simp [Reply.outcome, specific.1]
      | ranOut missed missed' => rfl

end Bashling
