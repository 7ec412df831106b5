import Bashling.Proofs.Dialog
import Bashling.Proofs.Locality
import Bashling.Proofs.Talk

/-!
# What the parser asks its source for

The parser talks to its stream: it looks at tokens and takes them. What it builds or refuses depends
on the answers alone, so a parse is told by the answers that it gets (`Scripted`). For each rule of
the grammar the answers are followed from one step to the next (`Follows`). Before the last of them
no end of text is taken and no call fails, and the number of calls is bounded by that of the tokens
taken. Each token pays for eleven calls; a rule that succeeds leaves some of them over for the rule
around it, which has looked at the same token before.

So a parse ends, holds at most one token that it has not taken, and never pulls a token from behind
an end of text or from behind what decides its outcome (`parse_pulls_what_it_needs`).
-/

namespace Bashling

open Lookahead

/-- Whether more calls can follow: a token was shown, or one was taken that does not end a text. -/
def Answer.goesOn : Answer Token → Bool
  | .seen (.ok _) => true
  | .taken (.ok token) => !token.isEof
  | _ => false

/-- The calls that the tokens taken pay for and that have not been made, if each token pays for
eleven. -/
def surplus (script : List (Answer Token)) : Int :=
  11 * (takenIn script).length - script.length

private theorem surplus_append (before later : List (Answer Token)) :
    surplus (before ++ later) = surplus before + surplus later := by
  simp only [surplus, takenIn_append, List.length_append]
  omega

/-- How the calls of a step that fails can end. The last call may have failed with the same failure
or have taken a token that does not fit, be it the end of a text. -/
inductive Closing (failure : Failure) : List (Answer Token) → Prop where
  | refused : Closing failure []
  | unseen : Closing failure [.seen (.error failure)]
  | missing : Closing failure [.taken (.error failure)]
  | took (token : Token) : Closing failure [.taken (.ok token)]

/-- The calls of a step with this result. They all go on, but for the last one of a step that fails.
Their surplus is at least `gain` if the step builds something, and else at least `loss`. -/
inductive Covered {α : Type} (gain : α → Int) (loss : Int) (script : List (Answer Token)) :
    Except Failure α → Prop where
  | done {value} (smooth : ∀ answer ∈ script, answer.goesOn = true)
      (paid : gain value ≤ surplus script) : Covered gain loss script (.ok value)
  | failed {failure} (front last : List (Answer Token)) (split : script = front ++ last)
      (smooth : ∀ answer ∈ front, answer.goesOn = true) (closing : Closing failure last)
      (paid : loss ≤ surplus script) : Covered gain loss script (.error failure)

namespace Talk

variable {σ : Type} [TokenSource σ] {α β : Type}

/-! ### Programs that rest on their answers -/

/-- A program makes the calls with these answers, and has this result wherever it gets them. -/
structure Scripted (talk : Talk σ α) (s : Stream σ) (script : List (Answer Token))
    (result : Except Failure α) (t : Stream σ) : Prop where
  leads : Dialog s script t
  same : ∀ s' t', Dialog s' script t' → talk s' = (result, t')

variable {talk : Talk σ α} {body : α → Talk σ β} {s mid t : Stream σ}
  {script later : List (Answer Token)}

private theorem Scripted.run_eq {result : Except Failure α}
    (scripted : Scripted talk s script result t) : talk s = (result, t) :=
  scripted.same s t scripted.leads

private theorem scripted_pure (value : α) (s : Stream σ) :
    Scripted (pure value) s [] (.ok value) s := by
  refine ⟨.nil, fun s' t' dialog => ?_⟩
  cases dialog
  rfl

private theorem scripted_fail (failure : Failure) (s : Stream σ) :
    Scripted (fail failure : Talk σ α) s [] (.error failure) s := by
  refine ⟨.nil, fun s' t' dialog => ?_⟩
  cases dialog
  rfl

private theorem scripted_look {shown : Except Failure Token} (seen : s.peek = (shown, t)) :
    Scripted look s [.seen shown] shown t :=
  ⟨dialog_peek seen, fun _ _ dialog => dialog.peek_eq⟩

private theorem scripted_take {given : Except Failure Token} (taken : s.next = (given, t)) :
    Scripted take s [.taken given] given t :=
  ⟨dialog_next taken, fun _ _ dialog => dialog.next_eq⟩

theorem Scripted.bind {value : α} {result : Except Failure β}
    (first : Scripted talk s script (.ok value) mid)
    (second : Scripted (body value) mid later result t) :
    Scripted (talk >>= body) s (script ++ later) result t := by
  refine ⟨first.leads.append second.leads, fun s' t' dialog => ?_⟩
  obtain ⟨mid', front, back⟩ := dialog.of_append
  change resume (talk s') body = _
  rw [first.same s' mid' front]
  exact second.same mid' t' back

private theorem Scripted.bind_error {failure : Failure}
    (first : Scripted talk s script (.error failure) t) :
    Scripted (talk >>= body) s script (.error failure) t := by
  refine ⟨first.leads, fun s' t' dialog => ?_⟩
  change resume (talk s') body = _
  rw [first.same s' t' dialog]
  rfl

/-! ### Programs whose calls are paid for -/

/-- A program rests on its answers, and its calls are covered. -/
def Follows (talk : Talk σ α) (s : Stream σ) (gain : α → Int) (loss : Int) : Prop :=
  ∃ script result t, Scripted talk s script result t ∧ Covered gain loss script result

variable {gain : α → Int} {gain' : β → Int} {loss loss' : Int}

theorem Follows.mono {less : α → Int} (follows : Follows talk s gain loss)
    (done : ∀ value, less value ≤ gain value) (failed : loss' ≤ loss) :
    Follows talk s less loss' := by
  obtain ⟨script, result, t, scripted, covered⟩ := follows
  refine ⟨script, result, t, scripted, ?_⟩
  cases covered with
  | done smooth paid => exact .done smooth (Int.le_trans (done _) paid)
  | failed front last split smooth closing paid =>
    exact .failed front last split smooth closing (Int.le_trans failed paid)

private theorem follows_pure {value : α} (s : Stream σ) (free : gain value ≤ 0) :
    Follows (pure value) s gain loss :=
  ⟨[], _, s, scripted_pure value s, .done (by simp) free⟩

private theorem follows_fail (failure : Failure) (s : Stream σ) (free : loss ≤ 0) :
    Follows (fail failure) s gain loss :=
  ⟨[], _, s, scripted_fail failure s, .failed [] [] rfl (by simp) .refused free⟩

private theorem follows_look (s : Stream σ) : Follows look s (fun _ => -1) (-1) := by
  cases seen : s.peek with
  | mk shown t =>
    refine ⟨_, _, t, scripted_look seen, ?_⟩
    cases shown with
    | ok token => exact .done (by simp [Answer.goesOn]) (Int.le_refl _)
    | error failure => exact .failed [] _ rfl (by simp) .unseen (Int.le_refl _)

/-- Taking a token leaves ten of the calls that it pays for. -/
private theorem follows_take {token : Token} (taken : s.next = (.ok token, t))
    (counted : token.isEof = false) (loss : Int) : Follows take s (fun _ => 10) loss :=
  ⟨_, _, t, scripted_take taken, .done (by simp [Answer.goesOn, counted]) (Int.le_refl _)⟩

/-- A token that was taken without a look may be refused. -/
private theorem follows_take_refused {body : Token → Talk σ α} {token : Token} {failure : Failure}
    (taken : s.next = (.ok token, t)) (refused : body token = fail failure) (free : loss ≤ 10) :
    Follows (take >>= body) s gain loss := by
  have scripted : Scripted (body token) t [] (.error failure) t := by
    rw [refused]
    exact scripted_fail failure t
  exact ⟨_, _, t, (scripted_take taken).bind scripted,
    .failed [] _ rfl (by simp) (.took token) free⟩

/-- A program that goes on with what another one has built. What the first one leaves over pays for
calls of the second one. -/
theorem Follows.bind (first : Follows talk s gain loss) (within : loss' ≤ loss)
    (second : ∀ value mid, talk s = (.ok value, mid) →
      Follows (body value) mid (fun built => gain' built - gain value) (loss' - gain value)) :
    Follows (talk >>= body) s gain' loss' := by
  obtain ⟨script, result, mid, scripted, covered⟩ := first
  cases covered with
  | failed front last split smooth closing paid =>
    exact ⟨script, _, mid, scripted.bind_error,
      .failed front last split smooth closing (Int.le_trans within paid)⟩
  | @done value smooth paid =>
    obtain ⟨later, result', t, scripted', covered'⟩ := second value mid scripted.run_eq
    refine ⟨script ++ later, result', t, scripted.bind scripted', ?_⟩
    cases covered' with
    | done smooth' paid' =>
      have all := List.forall_mem_append.mpr ⟨smooth, smooth'⟩
      exact .done all (by rw [surplus_append]; omega)
    | failed front last split smooth' closing paid' =>
      -- The second program failed, so all calls of the first one are in front of the last call.
      have all := List.forall_mem_append.mpr ⟨smooth, smooth'⟩
      have whole : script ++ later = script ++ front ++ last := by rw [split, List.append_assoc]
      exact .failed (script ++ front) last whole all closing (by rw [surplus_append]; omega)

/-! ### Calls and what is left -/

private theorem size_of_look {token : Token} (seen : look s = (.ok token, t)) :
    t.size ≤ s.size := by
  have within := s.size_peek_le
  rwa [show s.peek = _ from seen] at within

/-- Taking a token that has been looked at gives this token, and leaves less. -/
private theorem take_of_look {token : Token} (seen : look s = (.ok token, mid)) :
    mid.next = (.ok token, mid.release) ∧ mid.release.size < s.size := by
  have peeked : s.peek = (.ok token, mid) := seen
  have less := s.size_release_peek_lt token (by rw [peeked])
  rw [peeked] at less
  exact ⟨next_of_peek peeked, less⟩

/-- A program that takes the token it has looked at, and goes on behind it. -/
private theorem Follows.takeSeen {body : Token → Talk σ α} {token : Token}
    (seen : look s = (.ok token, mid)) (counted : token.isEof = false)
    (later : mid.release.size < s.size →
      Follows (body token) mid.release (fun built => gain built - 10) (loss - 10)) :
    Follows (take >>= body) mid gain loss := by
  obtain ⟨taken, less⟩ := take_of_look seen
  refine (follows_take taken counted loss).bind (Int.le_refl _) ?_
  intro token' rest taken'
  cases taken.symm.trans taken'
  exact later less

end Talk

namespace Parser

open Talk

variable {σ : Type} [TokenSource σ] {α : Type}

private theorem follows_expect (s : Stream σ) {wanted : Token → Option α}
    (refusal : Token → Failure)
    (counts : ∀ token value, wanted token = some value → token.isEof = false) :
    Follows (ofReply fun s : Stream σ => s.expect wanted refusal) s (fun _ => 9) (-1) := by
  rw [ofReply_expect]
  refine (follows_look s).bind (Int.le_refl _) ?_
  intro token kept seen
  cases found : wanted token with
  | some value =>
    dsimp only
    exact .takeSeen seen (counts token value found) fun _ => follows_pure _ (by omega)
  | none => exact follows_fail _ kept (by omega)

private theorem follows_operator (kind : Operator) (refusal : Token → Failure) (s : Stream σ) :
    Follows (operator kind refusal) s (fun _ => 9) (-1) :=
  follows_expect s refusal fun _ _ => Token.isEof_of_operator?

private theorem follows_name (refusal : Token → Failure) (s : Stream σ) :
    Follows (name refusal) s (fun _ => 9) (-1) :=
  follows_expect s refusal fun _ _ => Token.isEof_of_identifier?

/-! ### Expressions -/

/-- An expression leaves over at least as much as is spent by the looser levels around it. -/
def FollowsExpression (level : Level) (s : Stream σ) : Prop :=
  Follows (ofReply (expression level)) s (fun _ => 10 - level.rank) (-level.rank - 1)

def FollowsChain (later : Level) (operators : List Operator) (repeats : Bool) (left : Node)
    (s : Stream σ) : Prop :=
  Follows (ofReply (chain later operators repeats left)) s (fun _ => -1) (-1)

private theorem follows_chain (later : Level) (operators : List Operator) (repeats : Bool)
    (left : Node) (s : Stream σ)
    (operand : ∀ rest : Stream σ, rest.size < s.size → FollowsExpression later rest)
    (again : ∀ left, ∀ rest : Stream σ, rest.size < s.size →
      FollowsChain later operators repeats left rest) :
    FollowsChain later operators repeats left s := by
  have rank := later.rank_lt
  unfold FollowsChain
  rw [ofReply_chain]
  refine (follows_look s).bind (Int.le_refl _) ?_
  intro token kept seen
  cases found : token.operator? operators with
  | none => exact follows_pure kept (by omega)
  | some operator =>
    dsimp only
    refine .takeSeen seen (Token.isEof_of_operator? found) fun less => ?_
    refine (operand _ less).bind (by omega) ?_
    intro right rest built
    have shorter : rest.size < s.size := Nat.lt_trans (Reply.less_of_outcome built) less
    cases repeats with
    | true =>
      -- The operator has paid for the look that the rest of the chain starts with.
      rw [if_pos rfl]
      exact (again _ rest shorter).mono (fun _ => by omega) (by omega)
    | false =>
      rw [if_neg (by decide)]
      exact follows_pure rest (by omega)

private theorem follows_operands {level first later : Level} {operators : List Operator}
    {repeats : Bool} (shaped : level.shape = .chain first later operators repeats) (s : Stream σ)
    (head : FollowsExpression first s)
    (tail : ∀ left, ∀ rest : Stream σ, rest.size < s.size →
      FollowsChain later operators repeats left rest) :
    FollowsExpression level s := by
  have tighter := Level.rank_lt_of_chain shaped
  unfold FollowsExpression
  rw [ofReply_operands shaped]
  refine Follows.bind head (by omega) ?_
  intro left rest built
  exact (tail left rest (Reply.less_of_outcome built)).mono (fun _ => by omega) (by omega)

private theorem follows_signed {level operand : Level} {operators : List Operator}
    (shaped : level.shape = .signed operand operators) (s : Stream σ)
    (again : ∀ rest : Stream σ, rest.size < s.size → FollowsExpression level rest)
    (inner : ∀ kept : Stream σ, kept.size ≤ s.size → FollowsExpression operand kept) :
    FollowsExpression level s := by
  have tighter := Level.rank_lt_of_signed shaped
  unfold FollowsExpression
  rw [ofReply_signed shaped]
  refine (follows_look s).bind (by omega) ?_
  intro token kept seen
  cases found : token.operator? operators with
  | some operator =>
    dsimp only
    refine .takeSeen seen (Token.isEof_of_operator? found) fun less => ?_
    refine (again _ less).bind (by omega) ?_
    intro node rest built
    exact follows_pure rest (by omega)
  | none =>
    -- The look for a sign is paid for by the operand, whose level is tighter.
    exact (inner kept (size_of_look seen)).mono (fun _ => by omega) (by omega)

/-- An atom takes its token without a look. A token that starts no atom has been taken when it is
refused, and that token may be the end of a text. -/
private theorem follows_atom (s : Stream σ)
    (inner : ∀ rest : Stream σ, rest.size < s.size → FollowsExpression .sum rest) :
    FollowsExpression .atom s := by
  unfold FollowsExpression
  rw [ofReply_atom]
  cases taken : s.next with
  | mk given rest =>
    cases given with
    | error failure =>
      exact ⟨_, _, rest, (scripted_take taken).bind_error,
        .failed [] _ rfl (by simp) .missing (Int.le_refl _)⟩
    | ok token =>
      obtain ⟨start, stop, lexeme⟩ := token
      cases lexeme with
      | number | identifier =>
        refine (follows_take taken rfl _).bind (Int.le_refl _) ?_
        intro token after taken'
        cases taken.symm.trans taken'
        exact follows_pure rest (by decide)
      | operator kind =>
        cases kind with
        | leftParen =>
          refine (follows_take taken rfl _).bind (Int.le_refl _) ?_
          intro token after taken'
          cases taken.symm.trans taken'
          refine (inner rest (size_of_next taken rfl)).bind (by decide) ?_
          intro node closing _
          refine (follows_operator _ _ closing).bind (by decide) ?_
          intro paren left _
          exact follows_pure left (by decide)
        | _ => exact follows_take_refused taken rfl (by decide)
      | _ => exact follows_take_refused taken rfl (by decide)

mutual

private theorem expression_follows (level : Level) (s : Stream σ) : FollowsExpression level s := by
  cases shaped : level.shape with
  | chain first later operators repeats =>
    have tighter := Level.rank_lt_of_chain shaped
    exact follows_operands shaped s (expression_follows first s)
      fun left rest _ => chain_follows later operators repeats left rest
  | signed operand operators =>
    have tighter := Level.rank_lt_of_signed shaped
    exact follows_signed shaped s (fun rest _ => expression_follows level rest)
      fun kept _ => expression_follows operand kept
  | atom =>
    obtain rfl : level = .atom := by
      cases level <;> first | rfl | cases shaped
    exact follows_atom s fun rest _ => expression_follows .sum rest
termination_by 9 * s.size + level.rank
decreasing_by
  · omega
  · omega
  · omega
  · omega
  · simp only [Level.rank]
    omega

private theorem chain_follows (later : Level) (operators : List Operator) (repeats : Bool)
    (left : Node) (s : Stream σ) : FollowsChain later operators repeats left s :=
  follows_chain later operators repeats left s (fun rest _ => expression_follows later rest)
    fun left rest _ => chain_follows later operators repeats left rest
termination_by 9 * s.size
decreasing_by
  · have := later.rank_lt
    omega
  · omega

end

/-! ### Statements -/

/-- A parameter that is there leaves nothing to pay for the look at the comma behind it. -/
private theorem parameter_follows (s : Stream σ) :
    Follows (ofReply parameter) s (fun found => if found.isSome then 0 else -1) (-1) := by
  rw [ofReply_parameter]
  refine (follows_look s).bind (Int.le_refl _) ?_
  intro token kept seen
  cases found : token.identifier? with
  | none => exact follows_pure kept (by simp)
  | some named =>
    dsimp only
    refine .takeSeen seen (Token.isEof_of_identifier? found) fun less => ?_
    refine (follows_operator _ _ _).bind (by omega) ?_
    intro colon rest built
    refine (follows_name _ rest).bind (by omega) ?_
    intro type after built'
    exact follows_pure after (by simp)

private theorem parameters_follows (s : Stream σ) :
    Follows (ofReply parameters) s (fun _ => -1) (-1) := by
  rw [ofReply_parameters]
  refine (parameter_follows s).bind (Int.le_refl _) ?_
  intro found rest built
  cases found with
  | none => exact follows_pure rest (by simp)
  | some first =>
    dsimp only
    refine (follows_look rest).bind (by simp) ?_
    intro token kept seen
    cases comma : token.operator? [.comma] with
    | none => exact follows_pure kept (by simp)
    | some operator =>
      dsimp only
      refine .takeSeen seen (Token.isEof_of_operator? comma) fun less => ?_
      have shorter : kept.release.size < s.size :=
        Nat.lt_of_lt_of_le less (Nat.lt_succ_iff.mp (Reply.less_of_outcome built))
      refine (parameters_follows kept.release).bind (by simp) ?_
      intro others after built'
      exact follows_pure after (by simp)
termination_by s.size

def FollowsStatement (s : Stream σ) : Prop :=
  Follows (ofReply statement) s (fun _ => 1) (-10)

def FollowsStatements (s : Stream σ) : Prop :=
  Follows (ofReply statements) s (fun _ => -1) (-11)

private theorem assignment_follows (s : Stream σ)
    (inner : ∀ rest : Stream σ, rest.size < s.size → FollowsStatement rest) :
    Follows (ofReply assignment) s (fun _ => 0) (-1) := by
  rw [ofReply_assignment]
  refine (follows_name _ s).bind (Int.le_refl _) ?_
  intro target rest built
  refine (follows_operator _ _ rest).bind (by omega) ?_
  intro sign after built'
  have less := Nat.lt_trans (Reply.less_of_outcome built') (Reply.less_of_outcome built)
  refine (inner after less).bind (by omega) ?_
  intro value left _
  exact follows_pure left (by omega)

private theorem block_follows (s : Stream σ)
    (inner : ∀ rest : Stream σ, rest.size < s.size → FollowsStatements rest) :
    Follows (ofReply block) s (fun _ => 0) (-2) := by
  rw [ofReply_block]
  refine (follows_operator _ _ s).bind (by omega) ?_
  intro brace rest built
  refine (inner rest (Reply.less_of_outcome built)).bind (by omega) ?_
  intro nodes left _
  exact follows_pure left (by omega)

private theorem declaration_follows (s : Stream σ)
    (inner : ∀ rest : Stream σ, rest.size < s.size → FollowsStatements rest) :
    Follows (ofReply declaration) s (fun _ => 0) (-1) := by
  rw [ofReply_declaration]
  refine (follows_name _ s).bind (Int.le_refl _) ?_
  intro named opening built
  refine (follows_operator _ _ opening).bind (by omega) ?_
  intro paren inside opened
  refine (parameters_follows inside).bind (by omega) ?_
  intro items closing listed
  refine (follows_operator _ _ closing).bind (by omega) ?_
  intro paren' rest closed
  have shorter : rest.size < s.size := by
    have := Reply.less_of_outcome built
    have := Reply.less_of_outcome opened
    have : closing.size < inside.size + 1 := Reply.less_of_outcome listed
    have := Reply.less_of_outcome closed
    omega
  refine (block_follows rest fun after less =>
    inner after (Nat.lt_trans less shorter)).bind (by omega) ?_
  intro body left _
  exact follows_pure left (by omega)

private theorem follows_statement (s : Stream σ)
    (assigned : ∀ rest : Stream σ, rest.size < s.size → FollowsStatement rest)
    (listed : ∀ rest : Stream σ, rest.size < s.size → FollowsStatements rest) :
    FollowsStatement s := by
  unfold FollowsStatement
  rw [ofReply_statement]
  refine (follows_look s).bind (by omega) ?_
  intro token kept seen
  split
  next =>
    refine .takeSeen seen rfl fun less => ?_
    refine (assignment_follows _ fun rest shorter =>
      assigned rest (Nat.lt_trans shorter less)).bind (by omega) ?_
    intro node rest _
    refine (follows_operator _ _ rest).bind (by omega) ?_
    intro semicolon left _
    exact follows_pure left (by omega)
  next =>
    refine .takeSeen seen rfl fun less => ?_
    refine (declaration_follows _ fun rest shorter =>
      listed rest (Nat.lt_trans shorter less)).bind (by omega) ?_
    intro node left _
    exact follows_pure left (by omega)
  next =>
    exact (expression_follows .disjunction kept).mono (fun _ => by decide) (by decide)

private theorem follows_statements (s : Stream σ)
    (first : ∀ kept : Stream σ, kept.size ≤ s.size → FollowsStatement kept)
    (again : ∀ rest : Stream σ, rest.size < s.size → FollowsStatements rest) :
    FollowsStatements s := by
  unfold FollowsStatements
  rw [ofReply_statements]
  refine (follows_look s).bind (by omega) ?_
  intro token kept seen
  cases token.operator? [.rightBrace] with
  | some brace => exact follows_pure kept (by omega)
  | none =>
    have within := size_of_look seen
    dsimp only
    refine (first kept within).bind (by omega) ?_
    intro node rest built
    have less := Nat.lt_of_lt_of_le (Reply.less_of_outcome built) within
    refine (again rest less).bind (by omega) ?_
    intro others left _
    exact follows_pure left (by omega)

mutual

private theorem statement_follows (s : Stream σ) : FollowsStatement s :=
  follows_statement s (fun rest _ => statement_follows rest) fun rest _ => statements_follows rest
termination_by 2 * s.size

private theorem statements_follows (s : Stream σ) : FollowsStatements s :=
  follows_statements s (fun kept _ => statement_follows kept) fun rest _ => statements_follows rest
termination_by 2 * s.size + 1

end

end Parser

/-! ### Lists of tokens -/

private theorem Answer.isOk_of_goesOn {answer : Answer Token} (more : answer.goesOn = true) :
    answer.isOk = true := by
  unfold goesOn at more
  split at more
  · rfl
  · rfl
  · cases more

private theorem noEnd_takenIn {script : List (Answer Token)}
    (smooth : ∀ answer ∈ script, answer.goesOn = true) : Parser.NoEnd (takenIn script) := by
  intro token member
  obtain ⟨answer, listed, taken⟩ := List.mem_filterMap.mp member
  have more := smooth answer listed
  unfold Answer.taken? at taken
  split at taken
  next =>
    cases taken
    simpa [Answer.goesOn] using more
  next => cases taken

section Covered

variable {α : Type} {gain : α → Int} {loss : Int} {script : List (Answer Token)}
  {result : Except Failure α}

/-- All calls but the last one go on. -/
theorem Covered.front (covered : Covered gain loss script result) :
    ∃ front last, script = front ++ last ∧ last.length ≤ 1 ∧
      ∀ answer ∈ front, answer.goesOn = true := by
  cases covered with
  | done smooth => exact ⟨script, [], by simp, by simp, smooth⟩
  | failed front last split smooth closing =>
    exact ⟨front, last, split, by cases closing <;> simp, smooth⟩

/-- No call has failed if none has failed with the failure of the step. -/
theorem Covered.isOk (covered : Covered gain loss script result)
    (met : ∀ failure, result = .error failure →
      .seen (.error failure) ∉ script ∧ .taken (.error failure) ∉ script) :
    ∀ answer ∈ script, answer.isOk = true := by
  intro answer member
  cases covered with
  | done smooth => exact Answer.isOk_of_goesOn (smooth answer member)
  | @failed failure front last split smooth closing =>
    obtain ⟨unseen, present⟩ := met failure rfl
    subst split
    rcases List.mem_append.mp member with inFront | inLast
    · exact Answer.isOk_of_goesOn (smooth answer inFront)
    · cases closing with
      | refused => cases inLast
      | unseen => simp at unseen
      | missing => simp at present
      | took token => rw [List.mem_singleton.mp inLast]; rfl

end Covered

/-- Tokens in front of a list that do not end a text reach at most to the first end in it. -/
private theorem length_le_of_noEnd {taken rest before later : List Token} {eof : Token}
    (noEnd : Parser.NoEnd taken) (split : taken ++ rest = before ++ eof :: later)
    (ended : eof.isEof = true) : taken.length ≤ before.length := by
  rcases List.append_eq_append_iff.mp split with ⟨more, rfl, -⟩ | ⟨more, rfl, behind⟩
  · simp
  · cases more with
    | nil => simp
    | cons first more =>
      obtain ⟨rfl, -⟩ := List.cons.inj behind
      rw [noEnd eof (by simp)] at ended
      cases ended

section Parse

variable {tokens : List Token} {script : List (Answer Token)} {result : Except Failure Node}
  {t : Stream (Cursor Token)}

/-- No token behind the first end of text is pulled. -/
private theorem pulled_le_of_eof (dialog : Dialog (ofTokens tokens) script t) {gain : Node → Int}
    {loss : Int} (covered : Covered gain loss script result) {before later : List Token}
    {eof : Token} (split : tokens = before ++ eof :: later) (ended : eof.isEof = true) :
    t.source.taken ≤ before.length + 1 := by
  obtain ⟨front, last, rfl, short, smooth⟩ := covered.front
  obtain ⟨mid, leads, closes⟩ := dialog.of_append
  have pulled := leads.pulled_le_of_last closes short
  have reaches := length_le_of_noEnd (noEnd_takenIn smooth) (leads.items_eq.symm.trans split) ended
  omega

/-- On any list that starts with the tokens that were pulled, a parse goes the same way. -/
private theorem parse_of_pulled (dialog : Dialog (ofTokens tokens) script t)
    (fine : ∀ answer ∈ script, answer.isOk = true)
    (same : ∀ s' t' : Stream (Cursor Token), Dialog s' script t' → s'.parse = (result, t'))
    {tokens' : List Token} (pulled : tokens.take t.source.taken <+: tokens') :
    (ofTokens tokens').parse.1 = result ∧
      (ofTokens tokens').parse.2.source.taken = t.source.taken := by
  obtain ⟨left', rfl⟩ := pulled
  have shared : Shared t.source.rest left' (ofTokens tokens)
      (ofTokens (tokens.take t.source.taken ++ left')) :=
    ⟨rfl, rfl, tokens.take t.source.taken, dialog.take_pulled.symm, rfl⟩
  obtain ⟨t', dialog', shared'⟩ := dialog.transfer fine shared
  rw [same _ t' dialog']
  exact ⟨rfl, shared'.taken⟩

/-- A statement that was read has taken at least one token. -/
private theorem statement_takes {s rest : Stream (Cursor Token)} {node : Node}
    (built : (Parser.statement s).outcome = (.ok node, rest)) :
    ∃ token taken, s.ahead = token :: taken ++ rest.ahead := by
  obtain ⟨read, -⟩ := (Parser.statement_runs s).of_outcome_ok built
  obtain ⟨taken, split, -⟩ := read.consumed
  obtain ⟨token, taken', rfl⟩ := List.exists_cons_of_ne_nil (read.ne_nil split)
  exact ⟨token, taken', split⟩

/-- The tokens that a parse has taken are those in front of what is left ahead. -/
private theorem takenIn_ne_nil {node : Node} (dialog : Dialog (ofTokens tokens) script t)
    (built : (ofTokens tokens).parse = (.ok node, t)) : takenIn script ≠ [] := by
  obtain ⟨token, taken, split⟩ := statement_takes built
  have whole := dialog.items_eq
  rw [ahead_ofTokens, (Cursor.ahead_stream t).1, whole] at split
  rw [List.append_cancel_right split]
  exact List.cons_ne_nil token taken

end Parse

/-- A parse of a list of tokens is a dialog, and wherever its calls are answered in the same way it
has the same outcome. It ends: the number of its calls is bounded by that of the tokens taken. If it
succeeds it has taken a token, and so has every statement in it. At no time has it pulled more than
one token beyond those it has taken. It pulls no token behind the first end of text, and unless the
tokens ran out, its outcome is the same on every list that starts with the tokens that it has
pulled. -/
theorem parse_pulls_what_it_needs (tokens : List Token) :
    let s := ofTokens tokens
    (∃ script, Dialog s script s.parse.2 ∧
      (∀ s' t' : Stream (Cursor Token), Dialog s' script t' → s'.parse = (s.parse.1, t')) ∧
      script.length ≤ 11 * (takenIn script).length + 10 ∧
      (∀ node, s.parse.1 = .ok node → takenIn script ≠ []) ∧
      ∀ before later, script = before ++ later → ∃ mid, Dialog s before mid ∧
        (takenIn before).length ≤ mid.source.taken ∧
        mid.source.taken ≤ (takenIn before).length + 1) ∧
    (∀ (s : Stream (Cursor Token)) node rest, (Parser.statement s).outcome = (.ok node, rest) →
      ∃ token taken, s.ahead = token :: taken ++ rest.ahead) ∧
    (∀ before eof later, tokens = before ++ eof :: later → eof.isEof = true →
      s.parse.2.source.taken ≤ before.length + 1) ∧
    (∀ tokens', tokens.take s.parse.2.source.taken <+: tokens' →
      (∀ failure, s.parse.1 = .error failure → failure.family? ≠ some .exhausted) →
      (ofTokens tokens').parse.1 = s.parse.1 ∧
        (ofTokens tokens').parse.2.source.taken = s.parse.2.source.taken) := by
  intro s
  obtain ⟨script, result, t, scripted, covered⟩ := Parser.statement_follows s
  have parsed : s.parse = (result, t) := scripted.run_eq
  have dialog := scripted.leads
  rw [parsed]
  refine ⟨⟨script, dialog, scripted.same, ?_, ?_, ?_⟩, fun _ _ _ => statement_takes, ?_, ?_⟩
  · have paid : -10 ≤ surplus script := by
      cases covered with
      | done _ paid => omega
      | failed _ _ _ _ _ paid => exact paid
    unfold surplus at paid
    omega
  · rintro node rfl
    exact takenIn_ne_nil dialog parsed
  · rintro before later rfl
    obtain ⟨mid, leads, -⟩ := dialog.of_append
    exact ⟨mid, leads, by rw [leads.pulled_eq]; omega, leads.pulled_le⟩
  · exact fun before eof later split ended => pulled_le_of_eof dialog covered split ended
  · intro tokens' pulled present
    refine parse_of_pulled dialog (covered.isOk fun failure failed => ?_) scripted.same pulled
    -- A call that fails has come to the end of the list, which is not what ended the parse.
    constructor
    · exact fun unseen => present failure failed (dialog.exhausted (.inl unseen))
    · exact fun missing => present failure failed (dialog.exhausted (.inr missing))

/-- A name is read with one look at the semicolon behind it, whatever comes after that. -/
theorem parse_pulls_what_it_needs_semicolon :
    let name : Token := ⟨⟨1, 1⟩, ⟨1, 1⟩, .identifier "x"⟩
    let mark : Token := ⟨⟨1, 2⟩, ⟨1, 2⟩, .operator .semicolon⟩
    (ofTokens [name, mark]).parse.1.isOk = true ∧
      (ofTokens [name, mark]).parse.2.source.taken = 2 ∧
      ∀ later, (ofTokens (name :: mark :: later)).parse.1 = (ofTokens [name, mark]).parse.1 ∧
        (ofTokens (name :: mark :: later)).parse.2.source.taken = 2 := by
  intro name mark
  have built : (ofTokens [name, mark]).parse.1.isOk = true := by decide +kernel
  have pulled : (ofTokens [name, mark]).parse.2.source.taken = 2 := by decide +kernel
  refine ⟨built, pulled, fun later => ?_⟩
  obtain ⟨-, -, -, local'⟩ := parse_pulls_what_it_needs [name, mark]
  rw [pulled] at local'
  refine local' (name :: mark :: later) ⟨later, rfl⟩ fun failure failed => ?_
  rw [failed] at built
  cases built

end Bashling
