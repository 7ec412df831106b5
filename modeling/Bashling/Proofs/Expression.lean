import Bashling.Proofs.Ensures

/-!
# How expressions are read

The rules that read an expression are described on lists of tokens, apart from streams and their
sizes. `Reads` says what a rule builds from a list and what it leaves of it, `Refuses` with which
failure it stops and what it leaves then. A third outcome is that the tokens run out, which can only
happen when there is no end of text among them: no rule goes on behind one.

`expression_runs` says that the functions of the parser follow these rules. It is proved along their
recursion, and what is said later about the trees and the tokens of expressions is proved by
induction on the two relations.
-/

namespace Bashling.Token

theorem isEof_of_operator? {token : Token} {operators : List Operator} {operator : Located Operator}
    (found : token.operator? operators = some operator) : token.isEof = false := by
  obtain ⟨start, stop, lexeme⟩ := token
  cases lexeme with
  | operator kind => rfl
  | _ => cases found

theorem isEof_of_identifier? {token : Token} {name : Located String}
    (found : token.identifier? = some name) : token.isEof = false := by
  obtain ⟨start, stop, lexeme⟩ := token
  cases lexeme with
  | identifier kind => rfl
  | _ => cases found

private theorem number?_eq_none {token : Token}
    (other : ∀ start stop value, token ≠ ⟨start, stop, .number value⟩) : token.number? = none := by
  obtain ⟨start, stop, lexeme⟩ := token
  cases lexeme with
  | number value => exact absurd rfl (other start stop value)
  | _ => rfl

private theorem identifier?_eq_none {token : Token}
    (other : ∀ start stop name, token ≠ ⟨start, stop, .identifier name⟩) :
    token.identifier? = none := by
  obtain ⟨start, stop, lexeme⟩ := token
  cases lexeme with
  | identifier name => exact absurd rfl (other start stop name)
  | _ => rfl

private theorem operator?_eq_none {token : Token} {kind : Operator}
    (other : ∀ start stop, token ≠ ⟨start, stop, .operator kind⟩) :
    token.operator? [kind] = none := by
  obtain ⟨start, stop, lexeme⟩ := token
  cases lexeme with
  | operator found =>
    have different : found ≠ kind := by
      rintro rfl
      exact other start stop rfl
    simp [operator?, different]
  | _ => rfl

end Bashling.Token

namespace Bashling.Level

/-- Only a power starts with something as tight as an atom. -/
theorem rank_le_one_of_first {level first later : Level} {operators : List Operator}
    {repeats : Bool} (shaped : level.shape = .chain first later operators repeats)
    (tight : first.rank ≤ 1) : level.rank ≤ 1 := by
  cases level <;> cases shaped <;> first | decide | exact absurd tight (by decide)

theorem one_lt_rank_of_later {level first later : Level} {operators : List Operator}
    {repeats : Bool} (shaped : level.shape = .chain first later operators repeats) :
    1 < later.rank := by
  cases level <;> cases shaped <;> decide

theorem one_lt_rank_of_signed {level operand : Level} {operators : List Operator}
    (shaped : level.shape = .signed operand operators) : 1 < level.rank := by
  cases level <;> cases shaped <;> decide

end Bashling.Level

namespace Bashling.Parser

/-- The two functions that read expressions, with their arguments. -/
inductive Rule where
  | expression (level : Level)
  | chain (later : Level) (operators : List Operator) (repeats : Bool) (left : Node)

/-- What a rule builds from the tokens ahead, and the tokens it leaves. -/
inductive Reads : Rule → List Token → Node → List Token → Prop where
  | operands {level first later operators repeats ts left mid node rest}
      (shaped : level.shape = .chain first later operators repeats)
      (head : Reads (.expression first) ts left mid)
      (tail : Reads (.chain later operators repeats left) mid node rest) :
      Reads (.expression level) ts node rest
  | signed {level operand operators operator ts node rest} {token : Token}
      (shaped : level.shape = .signed operand operators)
      (sign : token.operator? operators = some operator)
      (inner : Reads (.expression level) ts node rest) :
      Reads (.expression level) (token :: ts) (.unary operator node) rest
  | unsigned {level operand operators ts node rest} {token : Token}
      (shaped : level.shape = .signed operand operators)
      (other : token.operator? operators = none)
      (inner : Reads (.expression operand) (token :: ts) node rest) :
      Reads (.expression level) (token :: ts) node rest
  | number (start stop value rest) :
      Reads (.expression .atom) (⟨start, stop, .number value⟩ :: rest)
        (.number ⟨start, stop, value⟩) rest
  | identifier (start stop name rest) :
      Reads (.expression .atom) (⟨start, stop, .identifier name⟩ :: rest)
        (.identifier ⟨start, stop, name⟩) rest
  | parens {start stop operator ts node rest} {closing : Token}
      (inner : Reads (.expression .sum) ts node (closing :: rest))
      (closes : closing.operator? [.rightParen] = some operator) :
      Reads (.expression .atom) (⟨start, stop, .operator .leftParen⟩ :: ts) node rest
  | stop {later operators rest} {token : Token} (repeats left)
      (other : token.operator? operators = none) :
      Reads (.chain later operators repeats left) (token :: rest) left (token :: rest)
  | once {later operators operator left right ts rest} {token : Token}
      (join : token.operator? operators = some operator)
      (operand : Reads (.expression later) ts right rest) :
      Reads (.chain later operators false left) (token :: ts) (.binary left operator right) rest
  | more {later operators operator left right node ts mid rest} {token : Token}
      (join : token.operator? operators = some operator)
      (operand : Reads (.expression later) ts right mid)
      (tail : Reads (.chain later operators true (.binary left operator right)) mid node rest) :
      Reads (.chain later operators true left) (token :: ts) node rest

/-- The failure with which a rule refuses the tokens ahead, and the tokens it leaves. -/
inductive Refuses : Rule → List Token → Failure → List Token → Prop where
  | first {level first later operators repeats ts failure rest}
      (shaped : level.shape = .chain first later operators repeats)
      (head : Refuses (.expression first) ts failure rest) :
      Refuses (.expression level) ts failure rest
  | operands {level first later operators repeats ts left mid failure rest}
      (shaped : level.shape = .chain first later operators repeats)
      (head : Reads (.expression first) ts left mid)
      (tail : Refuses (.chain later operators repeats left) mid failure rest) :
      Refuses (.expression level) ts failure rest
  | signed {level operand operators operator ts failure rest} {token : Token}
      (shaped : level.shape = .signed operand operators)
      (sign : token.operator? operators = some operator)
      (inner : Refuses (.expression level) ts failure rest) :
      Refuses (.expression level) (token :: ts) failure rest
  | unsigned {level operand operators ts failure rest} {token : Token}
      (shaped : level.shape = .signed operand operators)
      (other : token.operator? operators = none)
      (inner : Refuses (.expression operand) (token :: ts) failure rest) :
      Refuses (.expression level) (token :: ts) failure rest
  | unexpected {rest} {token : Token} (noNumber : token.number? = none)
      (noName : token.identifier? = none) (noOpening : token.operator? [.leftParen] = none) :
      Refuses (.expression .atom) (token :: rest) (.unexpectedToken token) rest
  | inner {start stop ts failure rest} (inner : Refuses (.expression .sum) ts failure rest) :
      Refuses (.expression .atom) (⟨start, stop, .operator .leftParen⟩ :: ts) failure rest
  | unclosed {start stop ts node rest} {token : Token}
      (inner : Reads (.expression .sum) ts node (token :: rest))
      (other : token.operator? [.rightParen] = none) :
      Refuses (.expression .atom) (⟨start, stop, .operator .leftParen⟩ :: ts)
        (.unclosedParen ⟨start, stop, .operator .leftParen⟩ node .rightParen token) (token :: rest)
  | later {later operators repeats operator left ts failure rest} {token : Token}
      (join : token.operator? operators = some operator)
      (operand : Refuses (.expression later) ts failure rest) :
      Refuses (.chain later operators repeats left) (token :: ts) failure rest
  | more {later operators operator left right ts mid failure rest} {token : Token}
      (join : token.operator? operators = some operator)
      (operand : Reads (.expression later) ts right mid)
      (tail : Refuses (.chain later operators true (.binary left operator right)) mid failure
        rest) :
      Refuses (.chain later operators true left) (token :: ts) failure rest

/-- Whether the end of the text is not among some tokens. -/
def NoEnd (ts : List Token) : Prop := ∀ token ∈ ts, token.isEof = false

theorem NoEnd.cons {token : Token} {ts : List Token} (first : token.isEof = false)
    (rest : NoEnd ts) : NoEnd (token :: ts) := by
  simpa [NoEnd, first] using rest

theorem NoEnd.append {ts ts' : List Token} (front : NoEnd ts) (back : NoEnd ts') :
    NoEnd (ts ++ ts') := by
  intro token member
  rcases List.mem_append.mp member with inFront | inBack
  · exact front token inFront
  · exact back token inBack

theorem noEnd_nil : NoEnd [] := by
  simp [NoEnd]

theorem noEnd_singleton {token : Token} (counted : token.isEof = false) : NoEnd [token] :=
  noEnd_nil.cons counted

/-- A rule takes its tokens from the front, and never an end of text. -/
theorem Reads.consumed {rule : Rule} {ts rest : List Token} {node : Node}
    (read : Reads rule ts node rest) : ∃ taken, ts = taken ++ rest ∧ NoEnd taken := by
  induction read with
  | operands _ _ _ ihHead ihTail =>
    obtain ⟨front, rfl, noEnd⟩ := ihHead
    obtain ⟨back, rfl, noEnd'⟩ := ihTail
    exact ⟨front ++ back, by simp, noEnd.append noEnd'⟩
  | @signed _ _ _ _ _ _ _ token _ sign _ ih =>
    obtain ⟨taken, rfl, noEnd⟩ := ih
    exact ⟨token :: taken, rfl, noEnd.cons (Token.isEof_of_operator? sign)⟩
  | unsigned _ _ _ ih => exact ih
  | number start stop value rest => exact ⟨[_], rfl, noEnd_singleton rfl⟩
  | identifier start stop name rest => exact ⟨[_], rfl, noEnd_singleton rfl⟩
  | @parens start stop _ _ _ _ closing _ closes ih =>
    obtain ⟨taken, rfl, noEnd⟩ := ih
    refine ⟨⟨start, stop, .operator .leftParen⟩ :: (taken ++ [closing]), by simp, ?_⟩
    have last := noEnd_singleton (Token.isEof_of_operator? closes)
    exact (noEnd.append last).cons rfl
  | stop => exact ⟨[], rfl, noEnd_nil⟩
  | @once _ _ _ _ _ _ _ token join _ ih =>
    obtain ⟨taken, rfl, noEnd⟩ := ih
    exact ⟨token :: taken, rfl, noEnd.cons (Token.isEof_of_operator? join)⟩
  | @more _ _ _ _ _ _ _ _ _ token join _ _ ihOperand ihTail =>
    obtain ⟨front, rfl, noEnd⟩ := ihOperand
    obtain ⟨back, rfl, noEnd'⟩ := ihTail
    exact ⟨token :: (front ++ back), by simp,
      (noEnd.append noEnd').cons (Token.isEof_of_operator? join)⟩

/-! ### The functions follow the rules -/

section Runs

open Lookahead

variable {σ : Type} [TokenSource σ]

/-- What a rule leaves behind when it succeeds on a stream. -/
def Done (rule : Rule) (s : Stream σ) (node : Node) (rest : Stream σ) : Prop :=
  Reads rule s.ahead node rest.ahead ∧ rest.ending = s.ending

/-- How a rule fails on a stream: it refuses the tokens ahead, or they run out. -/
def Failed (rule : Rule) (s : Stream σ) (failure : Failure) (rest : Stream σ) : Prop :=
  Refuses rule s.ahead failure rest.ahead ∨ (failure = s.ending ∧ NoEnd s.ahead)

theorem expression_chain {level first later : Level} {operators : List Operator} {repeats : Bool}
    (shaped : level.shape = .chain first later operators repeats) (s : Stream σ) :
    expression level s = (expression first s).andThen fun left rest less =>
      (chain later operators repeats left rest).widen less := by
  rw [expression]
  split
  next shaped' =>
    cases shaped.symm.trans shaped'
    rfl
  next shaped' => cases shaped.symm.trans shaped'
  next shaped' => cases shaped.symm.trans shaped'

theorem expression_signed {level operand : Level} {operators : List Operator}
    (shaped : level.shape = .signed operand operators) (s : Stream σ) :
    expression level s =
      match s.glance with
      | .failed failure rest => .failed failure rest
      | .seen token kept rest within less =>
        match token.operator? operators with
        | some operator => ((expression level rest).map (.unary operator)).onRest less
        | none => (expression operand kept).widen within := by
  rw [expression]
  split
  next shaped' => cases shaped.symm.trans shaped'
  next shaped' =>
    cases shaped.symm.trans shaped'
    rfl
  next shaped' => cases shaped.symm.trans shaped'

variable {rule outer : Rule} {s mid rest : Stream σ} {failure : Failure}

/-- The stream behind some tokens, none of which ends the text. -/
structure Passed (s rest : Stream σ) (taken : List Token) : Prop where
  ahead : s.ahead = taken ++ rest.ahead
  ending : rest.ending = s.ending
  noEnd : NoEnd taken

theorem Passed.trans {taken taken' : List Token} (first : Passed s mid taken)
    (second : Passed mid rest taken') : Passed s rest (taken ++ taken') where
  ahead := by rw [first.ahead, second.ahead, List.append_assoc]
  ending := second.ending.trans first.ending
  noEnd := first.noEnd.append second.noEnd

theorem passed_of_shows {token : Token} {kept : Stream σ} (shown : s.Shows token kept rest)
    (counted : token.isEof = false) : Passed s rest [token] :=
  ⟨shown.ahead, shown.ending, noEnd_singleton counted⟩

/-- A look at a token takes none. -/
theorem passed_of_kept {token : Token} {kept : Stream σ} (shown : s.Shows token kept rest) :
    Passed s kept [] :=
  ⟨shown.keptAhead.symm, shown.keptEnding, noEnd_nil⟩

/-- A failure of a rule behind some tokens is one of the rule that took them. -/
theorem Failed.of_passed {taken : List Token} (failed : Failed rule mid failure rest)
    (passed : Passed s mid taken)
    (lift : Refuses rule mid.ahead failure rest.ahead →
      Refuses outer s.ahead failure rest.ahead) : Failed outer s failure rest := by
  rcases failed with refused | ⟨rfl, clear⟩
  · exact .inl (lift refused)
  · -- The tokens ran out behind `mid`, and there is no end of text in front of it either.
    refine .inr ⟨passed.ending, ?_⟩
    rw [passed.ahead]
    exact passed.noEnd.append clear

private theorem failed_of_nothing (nothing : s.ahead = []) : Failed rule s s.ending rest :=
  .inr ⟨rfl, by simp [NoEnd, nothing]⟩

/-- The closing parenthesis of an atom, after the sum that stands inside. -/
private theorem ensures_closing {start stop : Position} {node : Node}
    (ahead : s.ahead = ⟨start, stop, .operator .leftParen⟩ :: rest.ahead)
    (ending : rest.ending = s.ending) (inside : Done (.expression .sum) rest node mid) :
    (expectOperator mid .rightParen
        (.unclosedParen ⟨start, stop, .operator .leftParen⟩ node .rightParen)).Ensures
      (fun _ after => Done (.expression .atom) s node after) (Failed (.expression .atom) s) := by
  obtain ⟨read, ended⟩ := inside
  refine (ensures_expect mid _ _).mono ?_ ?_
  · rintro operator after ⟨token, closes, shown, ended'⟩
    refine ⟨?_, ended'.trans (ended.trans ending)⟩
    rw [shown] at read
    rw [ahead]
    exact .parens read closes
  · rintro failure after (⟨nothing, rfl⟩ | ⟨token, later, shown, other, rfl, kept⟩)
    · -- Nothing is left: the sum has taken all tokens there are, and no end of text.
      obtain ⟨front, split, noEnd⟩ := read.consumed
      rw [nothing, List.append_nil] at split
      refine .inr ⟨ended.trans ending, ?_⟩
      rw [ahead, split]
      exact noEnd.cons rfl
    · refine .inl ?_
      rw [ahead, kept, shown]
      rw [shown] at read
      exact .unclosed read other

/-- An atom is a number, a name, or a sum in parentheses. -/
private theorem ensures_atom (s : Stream σ) (opened : s.isOver = false)
    (inner : ∀ rest : Stream σ, rest.size < s.size →
      (expression .sum rest).Ensures (Done (.expression .sum) rest)
        (Failed (.expression .sum) rest)) :
    (expression .atom s).Ensures (Done (.expression .atom) s) (Failed (.expression .atom) s) := by
  rw [expression]
  simp only [Level.shape]
  split
  next failure rest step =>
    obtain ⟨nothing, rfl⟩ := nothing_ahead_of_next opened step
    exact failed_of_nothing nothing
  next token rest step =>
    obtain ⟨ahead, ending⟩ := ahead_of_next opened step
    split
    · refine ⟨?_, ending⟩
      rw [ahead]
      exact .number _ _ _ _
    · refine ⟨?_, ending⟩
      rw [ahead]
      exact .identifier _ _ _ _
    next start stop _ taken =>
      -- An opening parenthesis: the sum behind it, and then the closing one.
      rw [Reply.ensures_onRest]
      refine Reply.Ensures.andThen ((inner rest (taken rfl)).mono (fun _ _ inside => inside) ?_) ?_
      · intro failure after failed
        refine failed.of_passed ⟨ahead, ending, noEnd_singleton rfl⟩ ?_
        intro refused
        rw [ahead]
        exact .inner refused
      · intro node mid less inside
        rw [Reply.ensures_onRest, Reply.ensures_map]
        exact ensures_closing ahead ending inside
    · -- Any other token: the earlier patterns of the match are what it is not.
      rename_i noNumber noName noOpening
      refine .inl ?_
      rw [ahead]
      apply Refuses.unexpected
      · refine Token.number?_eq_none fun start stop value equal => ?_
        subst equal
        exact noNumber _ _ _ _ _ rfl .rfl .rfl
      · refine Token.identifier?_eq_none fun start stop name equal => ?_
        subst equal
        exact noName _ _ _ _ _ rfl .rfl .rfl
      · refine Token.operator?_eq_none fun start stop equal => ?_
        subst equal
        exact noOpening _ _ _ _ rfl .rfl .rfl

/-- A sign level takes its operators one by one, and then an operand of the tighter level. -/
private theorem ensures_signed {level operand : Level} {operators : List Operator}
    (shaped : level.shape = .signed operand operators) (s : Stream σ)
    (again : ∀ rest : Stream σ, rest.size < s.size →
      (expression level rest).Ensures (Done (.expression level) rest)
        (Failed (.expression level) rest))
    (inner : ∀ kept : Stream σ, kept.size ≤ s.size → kept.isOver = false →
      (expression operand kept).Ensures (Done (.expression operand) kept)
        (Failed (.expression operand) kept)) :
    (expression level s).Ensures (Done (.expression level) s) (Failed (.expression level) s) := by
  rw [expression_signed shaped]
  split
  next failure rest missed =>
    obtain ⟨nothing, rfl⟩ := nothing_ahead_of_glance missed
    exact failed_of_nothing nothing
  next token kept rest within less seen =>
    have shown := shows_of_glance seen
    split
    next operator sign =>
      -- The same level is read again behind its operator.
      rw [Reply.ensures_onRest, Reply.ensures_map]
      refine (again rest less).mono ?_ ?_
      · rintro node after ⟨read, ended⟩
        refine ⟨?_, ended.trans shown.ending⟩
        rw [shown.ahead]
        exact .signed shaped sign read
      · intro failure after failed
        refine failed.of_passed (passed_of_shows shown (Token.isEof_of_operator? sign)) ?_
        intro refused
        rw [shown.ahead]
        exact .signed shaped sign refused
    next other =>
      -- The token stays in the stream, which therefore is not over when the operand is read.
      rw [Reply.ensures_widen]
      refine (inner kept within shown.keptOpen).mono ?_ ?_
      · rintro node after ⟨read, ended⟩
        refine ⟨?_, ended.trans shown.keptEnding⟩
        rw [shown.keptAhead, shown.ahead] at read
        rw [shown.ahead]
        exact .unsigned shaped other read
      · intro failure after failed
        refine failed.of_passed (passed_of_kept shown) ?_
        intro refused
        rw [shown.keptAhead, shown.ahead] at refused
        rw [shown.ahead]
        exact .unsigned shaped other refused

/-- A chain level is its first operand and then whatever continues the chain. -/
private theorem ensures_operands {level first later : Level} {operators : List Operator}
    {repeats : Bool} (shaped : level.shape = .chain first later operators repeats) (s : Stream σ)
    (head : (expression first s).Ensures (Done (.expression first) s)
      (Failed (.expression first) s))
    (tail : ∀ (left : Node) (rest : Stream σ), rest.size < s.size →
      (chain later operators repeats left rest).Ensures
        (Done (.chain later operators repeats left) rest)
        (Failed (.chain later operators repeats left) rest)) :
    (expression level s).Ensures (Done (.expression level) s) (Failed (.expression level) s) := by
  rw [expression_chain shaped]
  refine Reply.Ensures.andThen (head.mono (fun _ _ read => read) ?_) ?_
  · intro failure rest failed
    exact failed.of_passed ⟨rfl, rfl, noEnd_nil⟩ (.first shaped)
  · rintro left rest less ⟨read, ending⟩
    -- If the tokens run out in the chain, the first operand has taken no end of text before.
    obtain ⟨taken, split, noEnd⟩ := read.consumed
    rw [Reply.ensures_widen]
    refine (tail left rest less).mono ?_ ?_
    · rintro node after ⟨continued, ended⟩
      exact ⟨.operands shaped read continued, ended.trans ending⟩
    · intro failure after failed
      exact failed.of_passed ⟨split, ending, noEnd⟩ (.operands shaped read)

/-- A chain stops at a token that is none of its operators, and else takes it and an operand. -/
private theorem ensures_chain (later : Level) (operators : List Operator) (repeats : Bool)
    (left : Node) (s : Stream σ)
    (operand : ∀ rest : Stream σ, rest.size < s.size →
      (expression later rest).Ensures (Done (.expression later) rest)
        (Failed (.expression later) rest))
    (again : ∀ (left : Node) (rest : Stream σ), rest.size < s.size →
      (chain later operators repeats left rest).Ensures
        (Done (.chain later operators repeats left) rest)
        (Failed (.chain later operators repeats left) rest)) :
    (chain later operators repeats left s).Ensures (Done (.chain later operators repeats left) s)
      (Failed (.chain later operators repeats left) s) := by
  rw [chain]
  split
  next failure rest missed =>
    obtain ⟨nothing, rfl⟩ := nothing_ahead_of_glance missed
    exact failed_of_nothing nothing
  next token kept rest within less seen =>
    have shown := shows_of_glance seen
    split
    next other =>
      refine ⟨?_, shown.keptEnding⟩
      rw [shown.keptAhead, shown.ahead]
      exact .stop repeats left other
    next operator join =>
      have passed := passed_of_shows shown (Token.isEof_of_operator? join)
      rw [Reply.ensures_loosen, Reply.ensures_onRest]
      refine Reply.Ensures.andThen ((operand rest less).mono (fun _ _ read => read) ?_) ?_
      · intro failure after failed
        refine failed.of_passed passed ?_
        intro refused
        rw [shown.ahead]
        exact .later join refused
      · rintro right after shorter ⟨read, ending⟩
        obtain ⟨taken, split, noEnd⟩ := read.consumed
        cases repeats with
        | false =>
          -- A level that does not repeat ends with its second operand.
          refine ⟨?_, ending.trans shown.ending⟩
          rw [shown.ahead]
          exact .once join read
        | true =>
          simp only [if_true, Reply.ensures_widen]
          refine (again _ after (Nat.lt_trans shorter less)).mono ?_ ?_
          · rintro node final ⟨continued, ended⟩
            refine ⟨?_, ended.trans (ending.trans shown.ending)⟩
            rw [shown.ahead]
            exact .more join read continued
          · intro failure final failed
            refine failed.of_passed (passed.trans ⟨split, ending, noEnd⟩) ?_
            intro refused
            rw [shown.ahead]
            exact .more join read refused

mutual

/-- Reading an expression follows the rules. Atoms and powers are read without a look at the stream,
so for them it must not be over. -/
theorem expression_runs (level : Level) (s : Stream σ)
    (ready : level.rank ≤ 1 → s.isOver = false) :
    (expression level s).Ensures (Done (.expression level) s) (Failed (.expression level) s) := by
  cases shaped : level.shape with
  | chain first later operators repeats =>
    have tighter := Level.rank_lt_of_chain shaped
    exact ensures_operands shaped s
      (expression_runs first s fun tight => ready (Level.rank_le_one_of_first shaped tight))
      fun left rest less =>
        chain_runs later operators repeats left rest (Level.one_lt_rank_of_later shaped)
  | signed operand operators =>
    have tighter := Level.rank_lt_of_signed shaped
    have loose := Level.one_lt_rank_of_signed shaped
    exact ensures_signed shaped s
      (fun rest less => expression_runs level rest fun tight => absurd loose (Nat.not_lt.mpr tight))
      fun kept within opened => expression_runs operand kept fun _ => opened
  | atom =>
    obtain rfl : level = .atom := by
      cases level <;> first | rfl | cases shaped
    exact ensures_atom s (ready (by decide)) fun rest less =>
      expression_runs .sum rest fun tight => absurd tight (by decide)
termination_by 9 * s.size + level.rank
decreasing_by
  · omega
  · omega
  · omega
  · omega
  · simp only [Level.rank]
    omega

private theorem chain_runs (later : Level) (operators : List Operator) (repeats : Bool)
    (left : Node) (s : Stream σ) (loose : 1 < later.rank) :
    (chain later operators repeats left s).Ensures (Done (.chain later operators repeats left) s)
      (Failed (.chain later operators repeats left) s) :=
  ensures_chain later operators repeats left s
    (fun rest _ => expression_runs later rest fun tight => absurd loose (Nat.not_lt.mpr tight))
    fun left rest _ => chain_runs later operators repeats left rest loose
termination_by 9 * s.size
decreasing_by
  · have := later.rank_lt
    omega
  · omega

end

end Runs

end Bashling.Parser
