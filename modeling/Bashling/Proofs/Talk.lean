import Bashling.Proofs.Completeness

/-!
# The rules of the grammar as programs

The functions that read a phrase return a reply with a bound on the stream that is left. Here each
of them is given as a program that looks at tokens, takes tokens and goes on with other phrases. All
that a program does to its stream are the calls `look` and `take`, so a fact that holds of these two
and is kept from one step to the next holds of the whole parser.
-/

namespace Bashling

/-- A program that reads from a stream and may fail. -/
def Talk (σ : Type) [TokenSource σ] (α : Type) : Type :=
  Stream σ → Except Failure α × Stream σ

namespace Talk

variable {σ : Type} [TokenSource σ] {α β : Type}

/-- Goes on with what was built and the stream that is left. -/
def resume (outcome : Except Failure α × Stream σ) (proceed : α → Talk σ β) :
    Except Failure β × Stream σ :=
  match outcome with
  | (.ok value, rest) => proceed value rest
  | (.error failure, rest) => (.error failure, rest)

instance : Monad (Talk σ) where
  pure value := fun s => (.ok value, s)
  bind talk proceed := fun s => resume (talk s) proceed

def look : Talk σ Token := fun s => s.peek

def take : Talk σ Token := fun s => s.next

def fail (failure : Failure) : Talk σ α := fun s => (.error failure, s)

/-- The program of a step that replies. -/
def ofReply {limit : Stream σ → Nat} (step : (s : Stream σ) → Reply σ α (limit s)) : Talk σ α :=
  fun s => (step s).outcome

/-- Takes an operator that must come next. -/
def operator (kind : Operator) (refusal : Token → Failure) : Talk σ (Located Operator) :=
  ofReply fun s => Parser.expectOperator s kind refusal

/-- Takes a name that must come next. -/
def name (refusal : Token → Failure) : Talk σ (Located String) :=
  ofReply fun s => s.expect Token.identifier? refusal

end Talk

namespace Reply

variable {σ : Type} [TokenSource σ] {α β : Type} {bound wider : Nat} {reply : Reply σ α bound}

private theorem outcome_andThen
    {proceed : α → (rest : Stream σ) → rest.size < bound → Reply σ β bound} {later : α → Talk σ β}
    (same : ∀ value rest less, (proceed value rest less).outcome = later value rest) :
    (reply.andThen proceed).outcome = Talk.resume reply.outcome later := by
  cases reply with
  | done value rest less => exact same value rest less
  | failed failure rest => rfl

private theorem outcome_map (f : α → β) :
    (reply.map f).outcome = Talk.resume reply.outcome fun value => pure (f value) := by
  cases reply <;> rfl

@[simp] theorem outcome_widen (within : bound ≤ wider) :
    (reply.widen within).outcome = reply.outcome := by
  cases reply <;> rfl

@[simp] theorem outcome_onRest {rest : Stream σ} {reply : Reply σ α rest.size}
    (less : rest.size < bound) : (reply.onRest less).outcome = reply.outcome :=
  outcome_widen _

@[simp] theorem outcome_loosen : reply.loosen.outcome = reply.outcome :=
  outcome_widen _

/-- A reply that builds something leaves less than its bound. -/
theorem less_of_outcome {value : α} {rest : Stream σ} (built : reply.outcome = (.ok value, rest)) :
    rest.size < bound := by
  cases reply with
  | done value' rest' less =>
    cases built
    exact less
  | failed failure rest' => cases built

end Reply

namespace Talk

open Lookahead Bashling.Parser

variable {σ : Type} [TokenSource σ] {α β : Type}

/-- Taking the token that a look has shown gives this token and lets go of it. -/
theorem next_of_peek {s kept : Stream σ} {token : Token} (seen : s.peek = (.ok token, kept)) :
    kept.next = (.ok token, kept.release) := by
  have held : kept.held = some token := by
    have holds := s.held_peek token (by rw [seen])
    rwa [seen] at holds
  simp [Lookahead.next, held, release]

private theorem peek_of_glance {s kept rest : Stream σ} {token : Token}
    {within : kept.size ≤ s.size} {less : rest.size < s.size}
    (seen : s.glance = .seen token kept rest within less) :
    s.peek = (.ok token, kept) ∧ kept.next = (.ok token, rest) := by
  unfold glance at seen
  split at seen
  next step =>
    cases seen
    exact ⟨step, next_of_peek step⟩
  next => cases seen

/-- A step that starts with a look at the next token. -/
private theorem ofReply_look {limit : Stream σ → Nat} {step : (s : Stream σ) → Reply σ α (limit s)}
    {body : Token → Talk σ α}
    (missed : ∀ s failure rest, s.glance = .failed failure rest →
      (step s).outcome = (.error failure, rest))
    (seen : ∀ s token kept rest within less, s.glance = .seen token kept rest within less →
      (step s).outcome = body token kept) :
    ofReply step = look >>= body := by
  funext s
  change (step s).outcome = resume s.peek body
  cases glanced : s.glance with
  | failed failure rest =>
    rw [missed s failure rest glanced, peek_of_glance_failed glanced]
    rfl
  | seen token kept rest within less =>
    rw [seen s token kept rest within less glanced, (peek_of_glance glanced).1]
    rfl

/-- Taking the token that has been looked at leaves the stream behind it. -/
private theorem take_seen {s kept rest : Stream σ} {token : Token} {within : kept.size ≤ s.size}
    {less : rest.size < s.size} (seen : s.glance = .seen token kept rest within less)
    (body : Token → Talk σ α) : (take >>= body) kept = body token rest := by
  change resume kept.next body = body token rest
  rw [(peek_of_glance seen).2]
  rfl

theorem ofReply_expect (wanted : Token → Option α) (refusal : Token → Failure) :
    (ofReply fun s : Stream σ => s.expect wanted refusal) = (do
      let token ← look
      match wanted token with
      | some value => do
        let _ ← take
        return value
      | none => fail (refusal token)) := by
  apply ofReply_look
  · intro s failure rest missed
    simp only [expect, missed]
    rfl
  · intro s token kept rest within less seen
    simp only [expect, seen]
    cases wanted token with
    | some value =>
      dsimp only
      rw [take_seen seen]
      rfl
    | none => rfl

/-! ### Expressions -/

theorem ofReply_chain (later : Level) (operators : List Operator) (repeats : Bool) (left : Node) :
    (ofReply (chain later operators repeats left) : Talk σ Node) = (do
      let token ← look
      match token.operator? operators with
      | none => return left
      | some operator => do
        let _ ← take
        let right ← ofReply (expression later)
        if repeats then ofReply (chain later operators repeats (.binary left operator right))
        else return .binary left operator right) := by
  apply ofReply_look
  · intro s failure rest missed
    rw [chain, missed]
    rfl
  · intro s token kept rest within less seen
    rw [chain, seen]
    dsimp only
    cases token.operator? operators with
    | none => rfl
    | some operator =>
      rw [Reply.outcome_loosen, Reply.outcome_onRest]
      dsimp only
      rw [take_seen seen]
      apply Reply.outcome_andThen
      intro right after shorter
      cases repeats with
      | true => rw [if_pos rfl, Reply.outcome_widen]; rfl
      | false => rfl

theorem ofReply_operands {level first later : Level} {operators : List Operator} {repeats : Bool}
    (shaped : level.shape = .chain first later operators repeats) :
    (ofReply (expression level) : Talk σ Node) = (do
      let left ← ofReply (expression first)
      ofReply (chain later operators repeats left)) := by
  funext s
  change (expression level s).outcome = _
  rw [expression_chain shaped]
  exact Reply.outcome_andThen fun left rest less => Reply.outcome_widen _

theorem ofReply_signed {level operand : Level} {operators : List Operator}
    (shaped : level.shape = .signed operand operators) :
    (ofReply (expression level) : Talk σ Node) = (do
      let token ← look
      match token.operator? operators with
      | some operator => do
        let _ ← take
        let inner ← ofReply (expression level)
        return .unary operator inner
      | none => ofReply (expression operand)) := by
  apply ofReply_look
  · intro s failure rest missed
    rw [expression_signed shaped, missed]
    rfl
  · intro s token kept rest within less seen
    rw [expression_signed shaped, seen]
    dsimp only
    cases token.operator? operators with
    | some operator =>
      dsimp only
      rw [Reply.outcome_onRest, take_seen seen]
      exact Reply.outcome_map _
    | none => exact Reply.outcome_widen _

theorem ofReply_atom :
    (ofReply (expression .atom) : Talk σ Node) = (do
      let token ← take
      match token with
      | ⟨start, stop, .number value⟩ => return .number ⟨start, stop, value⟩
      | ⟨start, stop, .identifier name⟩ => return .identifier ⟨start, stop, name⟩
      | ⟨start, stop, .operator .leftParen⟩ => do
        let inner ← ofReply (expression .sum)
        let _ ← operator .rightParen
          (.unclosedParen ⟨start, stop, .operator .leftParen⟩ inner .rightParen)
        return inner
      | token => fail (.unexpectedToken token)) := by
  funext s
  change (expression .atom s).outcome = resume s.next _
  cases taken : s.next with
  | mk given rest =>
    cases given with
    | error failure =>
      rw [expression]
      simp only [Level.shape]
      split
      next step =>
        cases taken.symm.trans step
        rfl
      next step => cases taken.symm.trans step
    | ok token =>
      rw [expression_atom taken]
      obtain ⟨start, stop, lexeme⟩ := token
      cases lexeme with
      | number | identifier => rfl
      | operator kind =>
        cases kind with
        | leftParen =>
          dsimp only [resume]
          rw [Reply.outcome_onRest]
          apply Reply.outcome_andThen
          intro inner closing less
          rw [Reply.outcome_onRest]
          exact Reply.outcome_map _
        | _ => rfl
      | _ => rfl

/-! ### Statements -/

theorem ofReply_parameter :
    (ofReply parameter : Talk σ (Option Parameter)) = (do
      let token ← look
      match token.identifier? with
      | none => return none
      | some found => do
        let _ ← take
        let _ ← operator .colon (.invalidParameter .colon)
        let type ← name (.missingType found.value)
        return some ⟨found, type⟩) := by
  apply ofReply_look
  · intro s failure rest missed
    rw [parameter, missed]
    rfl
  · intro s token kept rest within less seen
    rw [parameter, seen]
    dsimp only
    cases token.identifier? with
    | none => rfl
    | some found =>
      dsimp only
      rw [Reply.outcome_loosen, Reply.outcome_onRest, take_seen seen]
      apply Reply.outcome_andThen
      intro colon after shorter
      rw [Reply.outcome_onRest]
      exact Reply.outcome_map _

theorem ofReply_parameters :
    (ofReply parameters : Talk σ (List Parameter)) = (do
      let found ← ofReply parameter
      match found with
      | none => return []
      | some first => do
        let token ← look
        match token.operator? [.comma] with
        | none => return [first]
        | some _ => do
          let _ ← take
          let others ← ofReply parameters
          return first :: others) := by
  funext s
  change (parameters s).outcome = _
  rw [parameters]
  apply Reply.outcome_andThen
  intro found rest less
  cases found with
  | none => rfl
  | some first =>
    dsimp only
    cases glanced : rest.glance with
    | failed failure after =>
      change _ = resume rest.peek _
      rw [peek_of_glance_failed glanced]
      rfl
    | seen token kept after within shorter =>
      change _ = resume rest.peek _
      rw [(peek_of_glance glanced).1]
      dsimp only [resume]
      cases token.operator? [.comma] with
      | none => exact Reply.outcome_widen _
      | some comma =>
        dsimp only
        rw [Reply.outcome_onRest, Reply.outcome_widen, take_seen glanced]
        exact Reply.outcome_map _

theorem ofReply_assignment :
    (ofReply assignment : Talk σ Node) = (do
      let target ← name .missingTarget
      let _ ← operator .assign (.missingAssign target.value)
      let value ← ofReply statement
      return .assignment target value) := by
  funext s
  change (assignment s).outcome = _
  rw [assignment]
  apply Reply.outcome_andThen
  intro target rest less
  rw [Reply.outcome_onRest]
  apply Reply.outcome_andThen
  intro sign after shorter
  rw [Reply.outcome_onRest]
  exact Reply.outcome_map _

theorem ofReply_declaration :
    (ofReply declaration : Talk σ Node) = (do
      let named ← name .missingFunctionName
      let _ ← operator .leftParen .missingLeftParen
      let items ← ofReply parameters
      let _ ← operator .rightParen .missingRightParen
      let body ← ofReply block
      return .declaration named (.parameters (items.map .parameter)) body) := by
  funext s
  change (declaration s).outcome = _
  rw [declaration]
  apply Reply.outcome_andThen
  intro named opening less
  rw [Reply.outcome_onRest]
  apply Reply.outcome_andThen
  intro paren inside shorter
  rw [Reply.outcome_widen]
  apply Reply.outcome_andThen
  intro items closing within
  rw [Reply.outcome_onRest]
  apply Reply.outcome_andThen
  intro paren' rest last
  rw [Reply.outcome_onRest]
  exact Reply.outcome_map _

theorem ofReply_block :
    (ofReply block : Talk σ Node) = (do
      let _ ← operator .leftBrace .missingLeftBrace
      let nodes ← ofReply statements
      return .block nodes) := by
  funext s
  change (block s).outcome = _
  rw [block]
  apply Reply.outcome_andThen
  intro brace rest less
  rw [Reply.outcome_widen]
  exact Reply.outcome_map _

theorem ofReply_statement :
    (ofReply statement : Talk σ Node) = (do
      let token ← look
      match token with
      | ⟨start, stop, .keyword .let⟩ => do
        let _ ← take
        let assigned ← ofReply assignment
        let _ ← operator .semicolon .missingSemicolon
        return .letStatement ⟨start, stop, .let⟩ assigned
      | ⟨start, stop, .keyword .func⟩ => do
        let _ ← take
        let declared ← ofReply declaration
        return .funcStatement ⟨start, stop, .func⟩ declared
      | _ => ofReply (expression .disjunction)) := by
  apply ofReply_look
  · intro s failure rest missed
    rw [statement, missed]
    rfl
  · intro s token kept rest within less seen
    rw [statement, seen]
    obtain ⟨start, stop, lexeme⟩ := token
    cases lexeme with
    | keyword kind =>
      cases kind with
      | «let» =>
        dsimp only
        rw [Reply.outcome_onRest, take_seen seen]
        apply Reply.outcome_andThen
        intro assigned after shorter
        rw [Reply.outcome_onRest]
        exact Reply.outcome_map _
      | func =>
        dsimp only
        rw [Reply.outcome_onRest, take_seen seen]
        exact Reply.outcome_map _
      | _ => exact Reply.outcome_widen _
    | _ => exact Reply.outcome_widen _

theorem ofReply_statements :
    (ofReply statements : Talk σ (List Node)) = (do
      let token ← look
      match token.operator? [.rightBrace] with
      | some _ => return []
      | none => do
        let first ← ofReply statement
        let others ← ofReply statements
        return first :: others) := by
  apply ofReply_look
  · intro s failure rest missed
    rw [statements, missed]
    rfl
  · intro s token kept rest within less seen
    rw [statements, seen]
    dsimp only
    cases token.operator? [.rightBrace] with
    | some brace => rfl
    | none =>
      dsimp only
      rw [Reply.outcome_loosen, Reply.outcome_widen]
      apply Reply.outcome_andThen
      intro first after shorter
      rw [Reply.outcome_widen]
      exact Reply.outcome_map _

end Talk
end Bashling
