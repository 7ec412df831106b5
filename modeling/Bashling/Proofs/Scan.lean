import Bashling.Proofs.Grammar

/-!
# Beginnings of expressions

Whether some tokens can be the beginning of an expression does not depend on how operators group. It
is enough to know what is awaited next, whether the current comparison has its operator already, and
which parentheses are open. `Scan` is this state and `step` moves it by one token, or not at all if
no expression goes on with that token.

The scan follows the grammar: an expression of a level takes it from a state in which that level can
start to one in which it has ended (`run_sentence`). It follows the parser too. Where the parser
stops the scan cannot move on within the level (`moves_of_reads`), and where the parser refuses a
token the scan cannot move at all (`blocks_of_refuses`).
-/

namespace Bashling

open Grammar

/-- What a scan awaits. A factor is an operand that `!` may stand in front of. -/
inductive Awaits where
  | factor
  | operand
  | operator
  deriving DecidableEq, Repr

structure Scan where
  awaits : Awaits
  /-- Whether the current comparison has its operator. -/
  compared : Bool
  /-- The open parentheses, the innermost one first. -/
  opened : List Token
  deriving Repr

namespace Scan

def start : Scan := ⟨.factor, false, []⟩

def arithmetic : List Operator := [.plus, .minus, .star, .slash, .percent, .power]

/-- What an operator leads to where an operand is awaited. -/
def beforeOperand (q : Scan) (token : Token) (kind : Operator) : Option Scan :=
  if kind ∈ [.plus, .minus] then some ⟨.operand, q.compared, q.opened⟩
  else if kind = .leftParen then some ⟨.operand, q.compared, token :: q.opened⟩
  else if kind = .not ∧ q.awaits = .factor then some q
  else none

/-- What an operator leads to after an operand. Inside parentheses only sums can stand. -/
def afterOperand (q : Scan) (kind : Operator) : Option Scan :=
  if kind ∈ arithmetic then some ⟨.operand, q.compared, q.opened⟩
  else
    match q.opened with
    | _ :: outer => if kind = .rightParen then some ⟨.operator, q.compared, outer⟩ else none
    | [] =>
      if kind ∈ comparisons ∧ q.compared = false then some ⟨.operand, true, []⟩
      else if kind ∈ [.and, .or] then some start
      else none

/-- The state after one more token, if an expression can go on with it. -/
def step (q : Scan) (token : Token) : Option Scan :=
  match token.value with
  | .operator kind =>
    if q.awaits = .operator then q.afterOperand kind else q.beforeOperand token kind
  | .number _ | .identifier _ =>
    if q.awaits = .operator then none else some ⟨.operator, q.compared, q.opened⟩
  | _ => none

def run (q : Scan) (ts : List Token) : Option Scan := ts.foldlM step q

@[simp] theorem run_nil (q : Scan) : q.run [] = some q := rfl

theorem run_cons (q : Scan) (token : Token) (ts : List Token) :
    q.run (token :: ts) = (q.step token).bind (·.run ts) := by
  simp [run, List.foldlM_cons, Option.bind_eq_bind]

private theorem run_append (q : Scan) (ts ts' : List Token) :
    q.run (ts ++ ts') = (q.run ts).bind (·.run ts') := by
  simp [run, List.foldlM_append, Option.bind_eq_bind]

theorem run_cons_of_step {q q' : Scan} {token : Token} (ts : List Token)
    (moved : q.step token = some q') : q.run (token :: ts) = q'.run ts := by
  rw [run_cons, moved, Option.bind_some]

theorem run_append_of_run {q q' : Scan} {ts : List Token} (ts' : List Token)
    (moved : q.run ts = some q') : q.run (ts ++ ts') = q'.run ts' := by
  rw [run_append, moved, Option.bind_some]

/-- A run that is not stuck is not stuck on the way. -/
theorem run_of_front {q : Scan} {ts w : List Token} (front : ts <+: w)
    (moved : (q.run w).isSome) : (q.run ts).isSome := by
  obtain ⟨ts', rfl⟩ := front
  rw [run_append] at moved
  cases reached : q.run ts with
  | none => simp [reached] at moved
  | some q' => rfl

/-! ### Where a level starts and ends -/

/-- The states in which an expression of a level can start. -/
def Enters : Level → Scan → Prop
  | .disjunction, q | .conjunction, q | .negation, q => q = start
  | .comparison, q => q = ⟨.operand, false, []⟩
  | .sum, q | .product, q | .sign, q | .power, q | .atom, q => q.awaits = .operand

/-- The states in which an expression of a level can end that started in the first one. -/
def Ends : Level → Scan → Scan → Prop
  | .disjunction, _, q' | .conjunction, _, q' | .negation, _, q' | .comparison, _, q' =>
    q'.awaits = .operator ∧ q'.opened = []
  | .sum, q, q' | .product, q, q' | .sign, q, q' | .power, q, q' | .atom, q, q' =>
    q' = ⟨.operator, q.compared, q.opened⟩

/-- The operators with which an expression that ended in a state can go on within its level. -/
def goesOn : Level → Scan → List Operator
  | .atom, _ => []
  | .power, _ | .sign, _ => [.power]
  | .product, _ => [.star, .slash, .percent, .power]
  | .sum, _ => arithmetic
  | .comparison, q | .negation, q => (if q.compared then [] else comparisons) ++ arithmetic
  | .conjunction, q => .and :: ((if q.compared then [] else comparisons) ++ arithmetic)
  | .disjunction, q => .or :: .and :: ((if q.compared then [] else comparisons) ++ arithmetic)

/-! ### Single steps -/

variable {q m : Scan} {kind : Operator}

private theorem ne_operator_of_operand (awaited : q.awaits = .operand) : q.awaits ≠ .operator := by
  simp [awaited]

theorem step_value {token : Token} (awaited : q.awaits ≠ .operator)
    (value : token.number? ≠ none ∨ token.identifier? ≠ none) :
    q.step token = some ⟨.operator, q.compared, q.opened⟩ := by
  obtain ⟨start, stop, lexeme⟩ := token
  cases lexeme with
  | number | identifier => simp [step, awaited]
  | _ => simp [Token.number?, Token.identifier?] at value

private theorem step_sign (start stop : Position) (awaited : q.awaits ≠ .operator)
    (among : kind ∈ [Operator.plus, .minus]) :
    q.step ⟨start, stop, .operator kind⟩ = some ⟨.operand, q.compared, q.opened⟩ := by
  simp only [step, if_neg awaited, beforeOperand, if_pos among]

private theorem step_opening (start stop : Position) (awaited : q.awaits ≠ .operator) :
    q.step ⟨start, stop, .operator .leftParen⟩ =
      some ⟨.operand, q.compared, ⟨start, stop, .operator .leftParen⟩ :: q.opened⟩ := by
  simp [step, awaited, beforeOperand]

private theorem step_not (start' stop : Position) :
    start.step ⟨start', stop, .operator .not⟩ = some start := by
  simp [step, start, beforeOperand]

private theorem step_arithmetic (start stop : Position) (ended : q.awaits = .operator)
    (among : kind ∈ arithmetic) :
    q.step ⟨start, stop, .operator kind⟩ = some ⟨.operand, q.compared, q.opened⟩ := by
  simp [step, ended, afterOperand, among]

theorem step_closing (start stop : Position) {opening : Token} {outer : List Token}
    (ended : q.awaits = .operator) (inside : q.opened = opening :: outer) :
    q.step ⟨start, stop, .operator .rightParen⟩ = some ⟨.operator, q.compared, outer⟩ := by
  simp [step, ended, afterOperand, inside, arithmetic]

private theorem step_comparison (start stop : Position) (ended : q.awaits = .operator)
    (outside : q.opened = []) (free : q.compared = false) (among : kind ∈ comparisons) :
    q.step ⟨start, stop, .operator kind⟩ = some ⟨.operand, true, []⟩ := by
  have other : kind ∉ arithmetic := by
    revert among
    cases kind <;> decide
  simp [step, ended, afterOperand, outside, free, among, other]

private theorem step_boolean (start' stop : Position) (ended : q.awaits = .operator)
    (outside : q.opened = []) (among : kind ∈ [Operator.and, .or]) :
    q.step ⟨start', stop, .operator kind⟩ = some start := by
  have other : kind ∉ arithmetic ∧ kind ∉ comparisons := by
    revert among
    cases kind <;> decide
  simp only [step, if_pos ended, afterOperand, if_neg other.1, outside, other.2, false_and,
    if_false, if_pos among]

/-- Where a scan awaits a factor it moves on with whatever it would move on with for an operand. -/
private theorem step_factor {q' : Scan} {token : Token} (compared : Bool) (opened : List Token)
    (moved : step ⟨.operand, compared, opened⟩ token = some q') :
    step ⟨.factor, compared, opened⟩ token = some q' := by
  obtain ⟨start, stop, lexeme⟩ := token
  cases lexeme with
  | operator kind =>
    simp only [step, beforeOperand, reduceCtorEq, if_false, and_false, and_true] at moved ⊢
    split
    next sign => rwa [if_pos sign] at moved
    next noSign =>
      rw [if_neg noSign] at moved
      split
      next opening => rwa [if_pos opening] at moved
      next noOpening =>
        rw [if_neg noOpening] at moved
        cases moved
  | _ => exact moved

/-- Only `!` is taken for a factor and not for an operand. -/
private theorem step_operand {token : Token} (compared : Bool) (opened : List Token)
    (other : token.operator? [.not] = none) :
    step ⟨.factor, compared, opened⟩ token = step ⟨.operand, compared, opened⟩ token := by
  obtain ⟨start, stop, lexeme⟩ := token
  cases lexeme with
  | operator kind =>
    have different : kind ≠ .not := by
      rintro rfl
      cases other
    simp [step, beforeOperand, different]
  | _ => rfl

private theorem run_factor {q' : Scan} {ts : List Token} (compared : Bool) (opened : List Token)
    (moved : run ⟨.operand, compared, opened⟩ ts = some q') (more : ts ≠ []) :
    run ⟨.factor, compared, opened⟩ ts = some q' := by
  cases ts with
  | nil => exact absurd rfl more
  | cons token ts =>
    -- The two states differ in the first step only.
    rw [run_cons] at moved
    obtain ⟨mid, first, rest⟩ := Option.bind_eq_some_iff.mp moved
    rw [run_cons_of_step ts (step_factor compared opened first), rest]

/-! ### The grammar -/

private theorem enters_first {level first later : Level} {operators : List Operator}
    (iterated : Iterated level first operators later) (entered : Enters level q) :
    Enters first q := by
  cases iterated <;> exact entered

private theorem ends_first {level first later : Level} {operators : List Operator}
    (iterated : Iterated level first operators later) (ended : Ends first q m) :
    Ends level q m := by
  cases iterated <;> exact ended

/-- After an operator of an iterated level the next operand can start, and it ends where an
expression of the level can. -/
private theorem step_iterated {level first later : Level} {operators : List Operator}
    (start' stop : Position) (iterated : Iterated level first operators later)
    (ended : Ends level q m) (among : kind ∈ operators) :
    ∃ q', m.step ⟨start', stop, .operator kind⟩ = some q' ∧ Enters later q' ∧ Enters level q' ∧
      (∀ q'', Ends later q' q'' → Ends level q q'') ∧
      ∀ q'', Ends level q' q'' → Ends level q q'' := by
  cases iterated with
  | power | product | sum =>
    -- Arithmetic goes on within the same comparison and the same parentheses.
    subst ended
    have arithmetical : kind ∈ arithmetic := by
      revert among
      cases kind <;> decide
    exact ⟨_, step_arithmetic start' stop rfl arithmetical, rfl, rfl, fun _ ended => ended,
      fun _ ended => ended⟩
  | conjunction | disjunction =>
    -- A boolean operator starts over.
    have boolean : kind ∈ [Operator.and, .or] := by
      revert among
      cases kind <;> decide
    exact ⟨start, step_boolean start' stop ended.1 ended.2 boolean, rfl, rfl, fun _ ended => ended,
      fun _ ended => ended⟩

private theorem step_prefixed {level operand : Level} {operators : List Operator}
    (start' stop : Position) (prefixed : Prefixed level operand operators)
    (entered : Enters level q) (among : kind ∈ operators) :
    ∃ q', q.step ⟨start', stop, .operator kind⟩ = some q' ∧ Enters level q' ∧
      ∀ q'', Ends level q' q'' → Ends level q q'' := by
  cases prefixed with
  | sign =>
    exact ⟨_, step_sign start' stop (ne_operator_of_operand entered) among, rfl,
      fun _ ended => ended⟩
  | negation =>
    subst entered
    obtain rfl := List.mem_singleton.mp among
    exact ⟨start, step_not start' stop, rfl, fun _ ended => ended⟩

/-- Without an operator in front, an expression of a level with such operators is its operand. -/
private theorem run_unsigned {level operand : Level} {operators : List Operator}
    (prefixed : Prefixed level operand operators) (entered : Enters level q) :
    ∃ m, Enters operand m ∧ ∀ ts q', m.run ts = some q' → Ends operand m q' →
      q.run ts = some q' ∧ Ends level q q' := by
  cases prefixed with
  | sign => exact ⟨q, entered, fun ts q' reached ended => ⟨reached, ended⟩⟩
  | negation =>
    subst entered
    -- The comparison is read where only an operand is awaited; a factor can be one.
    refine ⟨⟨.operand, false, []⟩, rfl, fun ts q' reached ended => ⟨?_, ended⟩⟩
    apply run_factor false [] reached
    rintro rfl
    cases reached
    cases ended.1

/-- An expression of a level leads from a state where it can start to one where it can end. -/
theorem run_sentence {level : Level} {ts : List Token} (sentence : Sentence level ts)
    (entered : Enters level q) : ∃ q', q.run ts = some q' ∧ Ends level q q' := by
  induction sentence generalizing q with
  | number | identifier =>
    have awaited := ne_operator_of_operand entered
    refine ⟨_, ?_, rfl⟩
    rw [run_cons_of_step [] (step_value awaited (by simp [Token.number?, Token.identifier?])),
      run_nil]
  | @parens ts start stop start' stop' _ ih =>
    -- Inside, the scan runs with one more parenthesis open; the closing one takes it off again.
    have awaited := ne_operator_of_operand entered
    obtain ⟨inside, reached, rfl⟩ :=
      ih (q := ⟨.operand, q.compared, ⟨start, stop, .operator .leftParen⟩ :: q.opened⟩) rfl
    refine ⟨_, ?_, rfl⟩
    rw [List.cons_append, run_cons_of_step _ (step_opening start stop awaited),
      run_append_of_run _ reached, run_cons_of_step [] (step_closing start' stop' rfl rfl), run_nil]
  | first iterated _ ih =>
    obtain ⟨q', reached, ended⟩ := ih (enters_first iterated entered)
    exact ⟨q', reached, ends_first iterated ended⟩
  | more start' stop iterated _ among _ ihFront ihOperand =>
    obtain ⟨mid, reached, ended⟩ := ihFront entered
    obtain ⟨next, moved, entered', -, ends, -⟩ := step_iterated start' stop iterated ended among
    obtain ⟨q', reached', ended'⟩ := ihOperand entered'
    refine ⟨q', ?_, ends q' ended'⟩
    rw [run_append_of_run _ reached, run_cons_of_step _ moved, reached']
  | unsigned prefixed _ ih =>
    obtain ⟨m, entered', inner⟩ := run_unsigned prefixed entered
    obtain ⟨q', reached, ended⟩ := ih entered'
    exact ⟨q', inner _ q' reached ended⟩
  | signed start' stop prefixed among _ ih =>
    obtain ⟨next, moved, entered', ends⟩ := step_prefixed start' stop prefixed entered among
    obtain ⟨q', reached, ended⟩ := ih entered'
    exact ⟨q', by rw [run_cons_of_step _ moved, reached], ends q' ended⟩
  | lone _ ih =>
    subst entered
    obtain ⟨q', reached, rfl⟩ := ih (q := ⟨.operand, false, []⟩) rfl
    exact ⟨⟨.operator, false, []⟩, reached, rfl, rfl⟩
  | compared start' stop _ among _ ihLeft ihRight =>
    -- The left side is read before the operator is known, the right side after it.
    subst entered
    obtain ⟨mid, reached, rfl⟩ := ihLeft (q := ⟨.operand, false, []⟩) rfl
    obtain ⟨q', reached', rfl⟩ := ihRight (q := ⟨.operand, true, []⟩) rfl
    refine ⟨⟨.operator, true, []⟩, ?_, rfl, rfl⟩
    rw [run_append_of_run _ reached,
      run_cons_of_step _ (step_comparison start' stop rfl rfl rfl among), reached']

/-! ### The parser -/

/-- No operator comes next with which an expression of a level that ended here could go on. -/
def Halts (level : Level) (q : Scan) (ts : List Token) : Prop :=
  ∀ token later, ts = token :: later → token.operator? (goesOn level q) = none

private theorem Halts.of_subset {level level' : Level} {ts : List Token}
    (subset : goesOn level' q ⊆ goesOn level q) (halts : Halts level q ts) : Halts level' q ts :=
  fun token later equal => Token.operator?_eq_none_of_subset subset (halts token later equal)

section Shapes

variable {level first later operand : Level} {operators : List Operator} {repeats : Bool}

private theorem enters_of_shape (shaped : level.shape = .chain first later operators repeats)
    (entered : Enters level q) : Enters first q := by
  cases level <;> cases shaped <;> first | exact entered | (subst entered; rfl)

/-- What a level adds to the operators that continue its first operand. -/
private theorem goesOn_stop (m : Scan)
    (shaped : level.shape = .chain first later operators repeats) :
    goesOn level m ⊆ operators ++ goesOn first m := by
  cases level <;> cases shaped
  -- A comparison that has its operator is continued by fewer operators, not by more.
  case comparison =>
    intro kind member
    rcases List.mem_append.mp member with comparing | arithmetical
    · split at comparing
      · cases comparing
      · exact List.mem_append_left _ comparing
    · exact List.mem_append_right _ arithmetical
  all_goals exact List.Subset.refl _

private theorem goesOn_first (m : Scan) (shaped : level.shape = .chain first later operators true) :
    goesOn first m ⊆ goesOn later m := by
  cases level <;> cases shaped
  · exact List.subset_cons_self _ _
  · exact List.subset_cons_self _ _
  · exact show [Operator.star, .slash, .percent, .power] ⊆ arithmetic by decide
  · exact List.Subset.refl _
  · exact List.nil_subset _

private theorem goesOn_signed (m : Scan) (shaped : level.shape = .signed operand operators) :
    goesOn level m ⊆ goesOn operand m := by
  cases level <;> cases shaped <;> exact List.Subset.refl _

/-- After an operator of a level that repeats, the operand that is read next can start. -/
private theorem step_of_shape (start' stop : Position)
    (shaped : level.shape = .chain first later operators true) (ended : Ends level q m)
    (among : kind ∈ operators) :
    ∃ q', m.step ⟨start', stop, .operator kind⟩ = some q' ∧ Enters later q' ∧
      ∀ q'', Ends later q' q'' → Ends level q q'' := by
  rcases iterated_of_shape shaped with iterated | ⟨iterated, rfl⟩
  · obtain ⟨q', moved, entered, -, ends, -⟩ := step_iterated start' stop iterated ended among
    exact ⟨q', moved, entered, ends⟩
  · obtain ⟨q', moved, -, entered, -, ends⟩ := step_iterated start' stop iterated ended among
    exact ⟨q', moved, entered, ends⟩

/-- The operator of a level can follow its first operand, whether or not the level repeats. -/
private theorem step_join (start' stop : Position)
    (shaped : level.shape = .chain first later operators repeats) (entered : Enters level q)
    (ended : Ends (if repeats then level else first) q m) (among : kind ∈ operators) :
    ∃ q', m.step ⟨start', stop, .operator kind⟩ = some q' ∧ Enters later q' := by
  cases repeats with
  | true =>
    obtain ⟨q', moved, entered', -⟩ := step_of_shape start' stop shaped ended among
    exact ⟨q', moved, entered'⟩
  | false =>
    obtain ⟨rfl, rfl, rfl, rfl⟩ := comparison_of_shape shaped
    subst entered ended
    exact ⟨_, step_comparison start' stop rfl rfl rfl among, rfl⟩

private theorem ends_of_shape (shaped : level.shape = .chain first later operators repeats)
    (entered : Enters level q) (ended : Ends (if repeats then level else first) q m) :
    Ends level q m := by
  cases repeats with
  | true => exact ended
  | false =>
    -- A lone sum is a comparison, and it ends outside of all parentheses like one.
    obtain ⟨rfl, rfl, -, -⟩ := comparison_of_shape shaped
    subst entered ended
    exact ⟨rfl, rfl⟩

private theorem ends_first_of_shape (shaped : level.shape = .chain first later operators repeats)
    (ended : Ends first q m) : Ends (if repeats then level else first) q m := by
  cases repeats with
  | false => exact ended
  | true =>
    rcases iterated_of_shape shaped with iterated | ⟨iterated, -⟩
    · exact ends_first iterated ended
    · exact ends_first iterated ended

end Shapes

/-- How a scan moves over the tokens that a rule takes, seen with the tokens that are left. -/
def Moves : Parser.Rule → List Token → List Token → Prop
  | .expression level, taken, rest => ∀ q, Enters level q →
      ∃ q', q.run taken = some q' ∧ Ends level q q' ∧ Halts level q' rest
  | .chain later operators repeats _, taken, rest => ∀ level first q m,
      level.shape = .chain first later operators repeats → Enters level q →
      Ends (if repeats then level else first) q m → Halts first m (taken ++ rest) →
      ∃ q', m.run taken = some q' ∧ Ends level q q' ∧ Halts level q' rest

/-- The induction is on the reading. What a chain needs to know is that its first operand has ended
and cannot go on, which is why `Moves` asks for it there. -/
theorem moves_of_reads {rule : Parser.Rule} {ts rest : List Token} {node : Node}
    (read : Parser.Reads rule ts node rest) :
    ∃ taken, ts = taken ++ rest ∧ Moves rule taken rest := by
  induction read with
  | @operands level first later operators repeats _ _ _ _ _ shaped _ _ ihHead ihTail =>
    obtain ⟨front, rfl, head⟩ := ihHead
    obtain ⟨back, rfl, tail⟩ := ihTail
    refine ⟨front ++ back, by simp, fun q entered => ?_⟩
    obtain ⟨m, reached, ended, halts⟩ := head q (enters_of_shape shaped entered)
    obtain ⟨q', reached', ended', halts'⟩ :=
      tail level first q m shaped entered (ends_first_of_shape shaped ended) halts
    exact ⟨q', by rw [run_append_of_run _ reached, reached'], ended', halts'⟩
  | signed shaped sign _ ih =>
    obtain ⟨taken, rfl, inner⟩ := ih
    obtain ⟨rfl, among⟩ := Token.operator?_eq_some sign
    refine ⟨_ :: taken, rfl, fun q entered => ?_⟩
    obtain ⟨next, moved, entered', ends⟩ :=
      step_prefixed _ _ (prefixed_of_shape shaped) entered among
    obtain ⟨q', reached, ended, halts⟩ := inner next entered'
    exact ⟨q', by rw [run_cons_of_step _ moved, reached], ends q' ended, halts⟩
  | unsigned shaped other _ ih =>
    obtain ⟨taken, split, inner⟩ := ih
    refine ⟨taken, split, fun q entered => ?_⟩
    obtain ⟨m, entered', outer⟩ := run_unsigned (prefixed_of_shape shaped) entered
    obtain ⟨q', reached, ended, halts⟩ := inner m entered'
    obtain ⟨reached', ended'⟩ := outer _ q' reached ended
    exact ⟨q', reached', ended', halts.of_subset (goesOn_signed q' shaped)⟩
  | number start stop value rest =>
    refine ⟨[_], rfl, fun q entered => ?_⟩
    obtain ⟨q', reached, ended⟩ := run_sentence (.number start stop value) entered
    exact ⟨q', reached, ended, fun token _ _ => token.operator?_nil⟩
  | identifier start stop name rest =>
    refine ⟨[_], rfl, fun q entered => ?_⟩
    obtain ⟨q', reached, ended⟩ := run_sentence (.identifier start stop name) entered
    exact ⟨q', reached, ended, fun token _ _ => token.operator?_nil⟩
  | @parens start stop operator _ _ _ closing inner closes ih =>
    obtain ⟨taken, split, sentence⟩ := inner.sentence
    obtain ⟨rfl, among⟩ := Token.operator?_eq_some closes
    rw [List.mem_singleton.mp among] at split
    refine ⟨⟨start, stop, .operator .leftParen⟩ :: taken ++
      [⟨operator.start, operator.stop, .operator .rightParen⟩], by simp [split],
      fun q entered => ?_⟩
    obtain ⟨q', reached, ended⟩ := run_sentence (.parens start stop _ _ sentence) entered
    exact ⟨q', reached, ended, fun token _ _ => token.operator?_nil⟩
  | stop repeats left other =>
    -- None of the level's own operators comes next, and none that continues its last operand.
    refine ⟨[], rfl, fun level first q m shaped entered ended halts => ?_⟩
    refine ⟨m, rfl, ends_of_shape shaped entered ended, ?_⟩
    intro token later equal
    cases equal
    apply Token.operator?_eq_none_of_subset (goesOn_stop m shaped)
    exact Token.operator?_append_eq_none other (halts _ _ rfl)
  | once join _ ih =>
    obtain ⟨taken, rfl, operand⟩ := ih
    obtain ⟨rfl, among⟩ := Token.operator?_eq_some join
    refine ⟨_ :: taken, rfl, fun level first q m shaped entered ended _ => ?_⟩
    -- The only level that does not repeat. From its operator on, the comparison has one.
    obtain ⟨rfl, rfl, rfl, rfl⟩ := comparison_of_shape shaped
    subst entered ended
    obtain ⟨q', reached, rfl, halts⟩ := operand ⟨.operand, true, []⟩ rfl
    refine ⟨⟨.operator, true, []⟩, ?_, ⟨rfl, rfl⟩, halts⟩
    rw [run_cons_of_step _ (step_comparison _ _ rfl rfl rfl among), reached]
  | @more _ _ _ _ _ _ _ _ _ token join _ _ ihOperand ihTail =>
    obtain ⟨front, rfl, operand⟩ := ihOperand
    obtain ⟨back, rfl, tail⟩ := ihTail
    refine ⟨token :: (front ++ back), by simp, fun level first q m shaped entered ended _ => ?_⟩
    obtain ⟨rfl, among⟩ := Token.operator?_eq_some join
    obtain ⟨next, moved, entered', ends⟩ := step_of_shape _ _ shaped ended among
    obtain ⟨m', reached, ended', halts⟩ := operand next entered'
    -- What cannot go on as a later operand cannot go on as a first one either.
    obtain ⟨q', reached', ended'', halts'⟩ := tail level first q m' shaped entered
      (ends m' ended') (halts.of_subset (goesOn_first m' shaped))
    refine ⟨q', ?_, ended'', halts'⟩
    rw [run_cons_of_step _ moved, run_append_of_run _ reached, reached']

/-! ### Refusals -/

/-- What a failure says about the state it was met in: a token that is no operand stood where one
was awaited, or a token that is not the closing parenthesis stood behind what it should close. -/
def Reports (q : Scan) (failure : Failure) (token : Token) (later rest : List Token) : Prop :=
  (failure = .unexpectedToken token ∧ rest = later ∧ q.awaits ≠ .operator) ∨
    ∃ opening outer node, failure = .unclosedParen opening node .rightParen token ∧
      rest = token :: later ∧ q.awaits = .operator ∧ q.opened = opening :: outer

/-- A failure at the first token with which the scan cannot move on. -/
def Blocked (q : Scan) (ts : List Token) (failure : Failure) (rest : List Token) : Prop :=
  ∃ before token later q', ts = before ++ token :: later ∧ q.run before = some q' ∧
    q'.step token = none ∧ Reports q' failure token later rest

private theorem Blocked.of_run {taken ts rest : List Token} {failure : Failure}
    (reached : q.run taken = some m) (blocked : Blocked m ts failure rest) :
    Blocked q (taken ++ ts) failure rest := by
  obtain ⟨before, token, later, q', rfl, moved, stuck, reports⟩ := blocked
  refine ⟨taken ++ before, token, later, q', by simp, ?_, stuck, reports⟩
  rw [run_append_of_run _ reached, moved]

private theorem Blocked.of_step {token : Token} {ts rest : List Token} {failure : Failure}
    (moved : q.step token = some m) (blocked : Blocked m ts failure rest) :
    Blocked q (token :: ts) failure rest := by
  have reached : q.run [token] = some m := by rw [run_cons_of_step [] moved, run_nil]
  exact blocked.of_run reached

/-- A token that is no operand and no sign cannot stand where an operand is awaited. -/
private theorem step_unexpected {token : Token} (awaited : q.awaits = .operand)
    (noNumber : token.number? = none) (noName : token.identifier? = none)
    (noOpening : token.operator? [.leftParen] = none)
    (noSign : token.operator? [.plus, .minus] = none) : q.step token = none := by
  obtain ⟨start, stop, lexeme⟩ := token
  cases lexeme with
  | operator kind =>
    have noSign' := Token.notMem_of_operator?_eq_none noSign
    have noOpening' := Token.notMem_of_operator?_eq_none noOpening
    rw [List.mem_singleton] at noOpening'
    simp only [step, awaited, reduceCtorEq, if_false, beforeOperand, if_neg noSign',
      if_neg noOpening', and_false]
  | number | identifier => simp [Token.number?, Token.identifier?] at noNumber noName
  | _ => rfl

/-- Inside parentheses only arithmetic operators and the closing parenthesis follow an operand. -/
private theorem step_unclosed {token opening : Token} {outer : List Token}
    (ended : q.awaits = .operator) (inside : q.opened = opening :: outer)
    (noClosing : token.operator? [.rightParen] = none)
    (noArithmetic : token.operator? arithmetic = none) : q.step token = none := by
  obtain ⟨start, stop, lexeme⟩ := token
  cases lexeme with
  | operator kind =>
    have noArithmetic' := Token.notMem_of_operator?_eq_none noArithmetic
    have noClosing' := Token.notMem_of_operator?_eq_none noClosing
    rw [List.mem_singleton] at noClosing'
    simp only [step, if_pos ended, afterOperand, if_neg noArithmetic', inside, if_neg noClosing']
  | number | identifier => simp [step, ended]
  | _ => rfl

/-- Outside parentheses, what continues a disjunction is all that can follow an operand. -/
theorem step_halted {token : Token} (ended : q.awaits = .operator) (outside : q.opened = [])
    (halted : token.operator? (goesOn .disjunction q) = none) : q.step token = none := by
  obtain ⟨start, stop, lexeme⟩ := token
  cases lexeme with
  | operator kind =>
    have other : kind ∉ arithmetic ∧ ¬(kind ∈ comparisons ∧ q.compared = false) ∧
        kind ∉ [.and, .or] := by
      have absent := Token.notMem_of_operator?_eq_none halted
      simp only [goesOn] at absent
      generalize q.compared = compared at absent ⊢
      revert absent
      cases compared <;> cases kind <;> decide
    simp only [step, if_pos ended, afterOperand, if_neg other.1, outside, if_neg other.2.1,
      if_neg other.2.2]
  | number | identifier => simp [step, ended]
  | _ => rfl

private theorem blocked_unsigned {level operand : Level} {operators : List Operator} {token : Token}
    (prefixed : Prefixed level operand operators) (entered : Enters level q)
    (other : token.operator? operators = none) :
    ∃ m, Enters operand m ∧ ∀ ts failure rest, Blocked m (token :: ts) failure rest →
      Blocked q (token :: ts) failure rest := by
  cases prefixed with
  | sign => exact ⟨q, entered, fun _ _ _ blocked => blocked⟩
  | negation =>
    subst entered
    refine ⟨⟨.operand, false, []⟩, rfl, fun ts failure rest blocked => ?_⟩
    obtain ⟨before, stuck, later, q', split, reached, halted, reports⟩ := blocked
    cases before with
    | nil =>
      -- The first token is refused: it is no operand, and no factor either.
      cases split
      cases reached
      refine ⟨[], token, ts, start, rfl, rfl, ?_, ?_⟩
      · exact (step_operand false [] other).trans halted
      · rcases reports with ⟨failed, left, -⟩ | ⟨_, _, _, _, _, ended, _⟩
        · exact .inl ⟨failed, left, by decide⟩
        · cases ended
    | cons first before =>
      cases split
      have reached' := run_factor false [] reached (List.cons_ne_nil _ _)
      exact ⟨token :: before, stuck, later, q', rfl, reached', halted, reports⟩

/-- The operands of a sign are only read where no sign stands. -/
private theorem operator?_of_unsigned {level operand : Level} {operators : List Operator}
    {token : Token} (shaped : level.shape = .signed operand operators) (tight : operand.rank ≤ 1)
    (other : token.operator? operators = none) : token.operator? [.plus, .minus] = none := by
  cases level <;> cases shaped
  · exact absurd tight (by decide)
  · exact other

/-- How a scan is blocked at the token that a rule refuses. A rule below the signs is only tried
where no sign stands. -/
def Blocks : Parser.Rule → List Token → Failure → List Token → Prop
  | .expression level, ts, failure, rest => ∀ q, Enters level q →
      (level.rank ≤ 1 → ∀ token later, ts = token :: later →
        token.operator? [.plus, .minus] = none) →
      Blocked q ts failure rest
  | .chain later operators repeats _, ts, failure, rest => ∀ level first q m,
      level.shape = .chain first later operators repeats → Enters level q →
      Ends (if repeats then level else first) q m → Blocked m ts failure rest

theorem blocks_of_refuses {rule : Parser.Rule} {ts rest : List Token} {failure : Failure}
    (refused : Parser.Refuses rule ts failure rest) : Blocks rule ts failure rest := by
  induction refused with
  | first shaped _ ih =>
    intro q entered noSign
    exact ih q (enters_of_shape shaped entered) fun tight =>
      noSign (Level.rank_le_one_of_first shaped tight)
  | @operands level first _ _ _ _ _ _ _ _ shaped head _ ih =>
    -- The first operand was read, so the scan gets through it and is blocked behind it.
    intro q entered _
    obtain ⟨front, rfl, moves⟩ := moves_of_reads head
    obtain ⟨m, reached, ended, -⟩ := moves q (enters_of_shape shaped entered)
    exact (ih level first q m shaped entered (ends_first_of_shape shaped ended)).of_run reached
  | @signed level _ _ _ _ _ _ _ shaped sign _ ih =>
    intro q entered _
    have loose := Level.one_lt_rank_of_signed shaped
    obtain ⟨rfl, among⟩ := Token.operator?_eq_some sign
    obtain ⟨next, moved, entered', -⟩ :=
      step_prefixed _ _ (prefixed_of_shape shaped) entered among
    exact (ih next entered' fun tight => absurd tight (by omega)).of_step moved
  | unsigned shaped other _ ih =>
    intro q entered _
    obtain ⟨m, entered', outer⟩ := blocked_unsigned (prefixed_of_shape shaped) entered other
    refine outer _ _ _ (ih m entered' fun tight => ?_)
    intro token later equal
    cases equal
    exact operator?_of_unsigned shaped tight other
  | unexpected noNumber noName noOpening =>
    intro q entered noSign
    -- An atom is only read where no sign stands, so nothing is left that the token could be.
    have stuck := step_unexpected entered noNumber noName noOpening (noSign (by decide) _ _ rfl)
    exact ⟨[], _, _, q, rfl, rfl, stuck, .inl ⟨rfl, rfl, ne_operator_of_operand entered⟩⟩
  | inner _ ih =>
    intro q entered _
    have awaited := ne_operator_of_operand entered
    apply Blocked.of_step (step_opening _ _ awaited)
    exact ih _ (by rfl) fun tight => absurd tight (by decide)
  | @unclosed start stop _ node rest token inner other =>
    intro q entered _
    have awaited := ne_operator_of_operand entered
    obtain ⟨taken, rfl, moves⟩ := moves_of_reads inner
    obtain ⟨m, reached, ended, halts⟩ :=
      moves ⟨.operand, q.compared, ⟨start, stop, .operator .leftParen⟩ :: q.opened⟩ rfl
    -- The sum inside has ended, so what blocks the scan is that the parenthesis is not closed.
    have awaits : m.awaits = .operator := by rw [ended]
    have inside : m.opened = ⟨start, stop, .operator .leftParen⟩ :: q.opened := by rw [ended]
    have stuck := step_unclosed awaits inside other (halts _ _ rfl)
    have blocked : Blocked _ (taken ++ token :: rest) _ _ :=
      ⟨taken, token, rest, m, rfl, reached, stuck, .inr ⟨_, _, node, rfl, rfl, awaits, inside⟩⟩
    exact blocked.of_step (step_opening start stop awaited)
  | @later _ _ repeats _ _ _ _ _ _ join _ ih =>
    intro level first q m shaped entered ended
    have loose := Level.one_lt_rank_of_later shaped
    obtain ⟨rfl, among⟩ := Token.operator?_eq_some join
    obtain ⟨next, moved, entered'⟩ := step_join _ _ shaped entered ended among
    exact (ih next entered' fun tight => absurd tight (by omega)).of_step moved
  | more join operand _ ih =>
    intro level first q m shaped entered ended
    obtain ⟨front, rfl, moves⟩ := moves_of_reads operand
    obtain ⟨rfl, among⟩ := Token.operator?_eq_some join
    obtain ⟨next, moved, entered', ends⟩ := step_of_shape _ _ shaped ended among
    obtain ⟨m', reached, ended', -⟩ := moves next entered'
    exact ((ih level first q m' shaped entered (ends m' ended')).of_run reached).of_step moved

end Scan
end Bashling
