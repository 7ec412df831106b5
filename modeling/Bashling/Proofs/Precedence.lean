import Bashling.Proofs.Blocks
import Bashling.Proofs.Parentheses

/-!
# Precedence in trees

Each operator has a precedence, from 1 for `||` up to 8 for `**`; names and numbers have 9. Where no
parentheses stand, the precedences of two operators decide which of them can be an operand of the
other. `OperandsBind` lists what is allowed, operator by operator: a product may be the left operand
of a product but not the right one, and the base of a power is a name or a number.

All trees that the parser reads without parentheses are of this kind (`tree_keeps_precedence`). An
expression of a level has at least the precedence of that level. The operators that group to the
right need one more fact: behind such an operator the operand takes all that follows, so the chain
does not come back to the same level with its own result as a left operand (`Reads.exhausts`).
-/

namespace Bashling

namespace Node

/-- How tightly the operator at the root of a tree binds. -/
def precedence : Node → Nat
  | .binary _ operator _ =>
    match operator.value with
    | .or => 1
    | .and => 2
    | .equals | .notEquals | .less | .lessEqual | .more | .moreEqual => 4
    | .plus | .minus => 5
    | .star | .slash | .percent => 6
    | .power => 8
    | _ => 0
  | .unary operator _ =>
    match operator.value with
    | .not => 3
    | .plus | .minus => 7
    | _ => 0
  | .number _ | .identifier _ => 9
  | _ => 0

/-- Whether the operands at the root of an expression may stand there without parentheses. -/
def OperandsBind : Node → Prop
  | .binary left operator right =>
    match operator.value with
    | .or => 2 ≤ left.precedence ∧ 1 ≤ right.precedence
    | .and => 3 ≤ left.precedence ∧ 2 ≤ right.precedence
    | .equals | .notEquals | .less | .lessEqual | .more | .moreEqual =>
      5 ≤ left.precedence ∧ 5 ≤ right.precedence
    | .plus | .minus => 5 ≤ left.precedence ∧ 5 ≤ right.precedence
    | .star | .slash | .percent => 6 ≤ left.precedence ∧ 7 ≤ right.precedence
    | .power => left.isLeaf = true ∧ 7 ≤ right.precedence
    | _ => False
  | .unary operator operand =>
    match operator.value with
    | .not => 3 ≤ operand.precedence
    | .plus | .minus => 7 ≤ operand.precedence
    | _ => False
  | .number _ | .identifier _ => True
  | _ => False

/-- The trees inside an expression, which is one of them itself. -/
inductive Within (inner : Node) : Node → Prop where
  | root : Within inner inner
  | operand {operand} (operator) (within : Within inner operand) :
      Within inner (.unary operator operand)
  | left {left} (operator right) (within : Within inner left) :
      Within inner (.binary left operator right)
  | right {right} (left operator) (within : Within inner right) :
      Within inner (.binary left operator right)

/-- Whether all operands in an expression may stand where they do. -/
def KeepsPrecedence (node : Node) : Prop :=
  ∀ inner, Within inner node → inner.OperandsBind

private theorem keepsPrecedence_unary {operator : Located Operator} {operand : Node}
    (root : (unary operator operand).OperandsBind) (inside : operand.KeepsPrecedence) :
    (unary operator operand).KeepsPrecedence := by
  intro inner within
  cases within with
  | root => exact root
  | operand _ within => exact inside inner within

private theorem keepsPrecedence_binary {left right : Node} {operator : Located Operator}
    (root : (binary left operator right).OperandsBind) (front : left.KeepsPrecedence)
    (back : right.KeepsPrecedence) : (binary left operator right).KeepsPrecedence := by
  intro inner within
  cases within with
  | root => exact root
  | left _ _ within => exact front inner within
  | right _ _ within => exact back inner within

/-- Nothing but a name or a number binds tighter than every operator. -/
private theorem isLeaf_of_precedence {node : Node} (tight : 9 ≤ node.precedence) :
    node.isLeaf = true := by
  cases node with
  | number | identifier => rfl
  | unary operator operand | binary left operator right =>
    simp only [precedence] at tight
    split at tight <;> omega
  | _ => simp [precedence] at tight

end Node

namespace Parser

open Scan

/-! ### Levels -/

/-- An expression of a level: nothing in it binds looser than the level, and all operands in it may
stand where they do. The precedence of a level is what its rank leaves of nine. -/
structure Placed (level : Level) (node : Node) : Prop where
  tight : 9 ≤ node.precedence + level.rank
  keeps : node.KeepsPrecedence

theorem Placed.loosen {tight loose : Level} {node : Node} (placed : Placed tight node)
    (looser : tight.rank ≤ loose.rank) : Placed loose node :=
  ⟨Nat.le_trans placed.tight (Nat.add_le_add_left looser _), placed.keeps⟩

private theorem placed_number (literal : Located Binary64) : Placed .atom (.number literal) := by
  refine ⟨Nat.le_refl _, fun inner within => ?_⟩
  cases within
  trivial

private theorem placed_identifier (name : Located String) : Placed .atom (.identifier name) := by
  refine ⟨Nat.le_refl _, fun inner within => ?_⟩
  cases within
  trivial

private theorem placed_unary {level operand : Level} {operators : List Operator}
    {operator : Located Operator} {node : Node} (shaped : level.shape = .signed operand operators)
    (among : operator.value ∈ operators) (inner : Placed level node) :
    Placed level (.unary operator node) := by
  obtain ⟨start, stop, kind⟩ := operator
  obtain ⟨tight, keeps⟩ := inner
  cases level <;> cases shaped
  case negation =>
    obtain rfl := List.mem_singleton.mp among
    simp only [Level.rank] at tight
    have binds : 3 ≤ node.precedence := by omega
    exact ⟨Nat.le_refl 9, Node.keepsPrecedence_unary binds keeps⟩
  case sign =>
    simp only [Level.rank] at tight
    have binds : 7 ≤ node.precedence := by omega
    simp only [List.mem_cons, List.not_mem_nil, or_false] at among
    rcases among with rfl | rfl <;>
      exact ⟨Nat.le_refl 9, Node.keepsPrecedence_unary binds keeps⟩

/-- The level of what may stand in front of an operator. Where the operand behind it is read like
the first one, the operators group to the left, and all that was read so far stands in front. -/
def frontLevel (level first later : Level) (repeats : Bool) : Level :=
  if repeats = true ∧ later = first then level else first

private theorem placed_binary {level first later : Level} {operators : List Operator}
    {repeats : Bool} {operator : Located Operator} {left right : Node}
    (shaped : level.shape = .chain first later operators repeats)
    (among : operator.value ∈ operators)
    (front : Placed (frontLevel level first later repeats) left)
    (back : Placed later right) : Placed level (.binary left operator right) := by
  obtain ⟨start, stop, kind⟩ := operator
  obtain ⟨tight, keeps⟩ := front
  obtain ⟨tight', keeps'⟩ := back
  cases level <;> cases shaped <;>
    simp only [frontLevel, Level.rank, reduceCtorEq, and_false, and_true, Bool.false_eq_true,
      if_true, if_false] at tight tight' <;>
    simp only [List.mem_cons, List.not_mem_nil, or_false] at among
  case power =>
    subst among
    have leaf := Node.isLeaf_of_precedence tight
    exact ⟨Nat.le_refl 9, Node.keepsPrecedence_binary ⟨leaf, by omega⟩ keeps keeps'⟩
  case disjunction | conjunction =>
    subst among
    exact ⟨Nat.le_refl 9, Node.keepsPrecedence_binary ⟨by omega, by omega⟩ keeps keeps'⟩
  case sum =>
    rcases among with rfl | rfl <;>
      exact ⟨Nat.le_refl 9, Node.keepsPrecedence_binary ⟨by omega, by omega⟩ keeps keeps'⟩
  case product =>
    rcases among with rfl | rfl | rfl <;>
      exact ⟨Nat.le_refl 9, Node.keepsPrecedence_binary ⟨by omega, by omega⟩ keeps keeps'⟩
  case comparison =>
    rcases among with rfl | rfl | rfl | rfl | rfl | rfl <;>
      exact ⟨Nat.le_refl 9, Node.keepsPrecedence_binary ⟨by omega, by omega⟩ keeps keeps'⟩

/-! ### The rules -/

/-- An operand that is read behind an operator which groups to the right is not followed by such an
operator again. -/
theorem Reads.exhausts {level first later : Level} {operators : List Operator} {token : Token}
    {ts rest : List Token} {node : Node}
    (shaped : level.shape = .chain first later operators true) (right : later ≠ first)
    (read : Reads (.expression later) ts node (token :: rest)) :
    token.operator? operators = none := by
  -- A scan through the operand comes to a state in which these operators would let it go on.
  obtain ⟨q, entered, goes⟩ : ∃ q, Enters later q ∧ ∀ q', operators ⊆ goesOn later q' := by
    cases level <;> cases shaped
    case disjunction | conjunction => exact ⟨start, rfl, fun q' => by simp [goesOn]⟩
    case sum => exact ⟨⟨.operand, false, []⟩, rfl, fun q' => by simp [goesOn, arithmetic]⟩
    case product => exact absurd rfl right
    case power => exact ⟨⟨.operand, false, []⟩, rfl, fun q' => by simp [goesOn]⟩
  obtain ⟨taken, -, moves⟩ := moves_of_reads read
  obtain ⟨q', -, -, halts⟩ := moves q entered
  exact Token.operator?_eq_none_of_subset (goes q') (halts token rest rfl)

/-- What a rule builds, given what it goes on with. -/
def Places : Rule → Node → Prop
  | .expression level, node => Placed level node
  | .chain later operators repeats left, node => ∀ level first,
      level.shape = .chain first later operators repeats →
      Placed (frontLevel level first later repeats) left → Placed level node

private theorem rank_frontLevel {level first later : Level} {operators : List Operator}
    {repeats : Bool} (shaped : level.shape = .chain first later operators repeats) :
    first.rank ≤ (frontLevel level first later repeats).rank ∧
      (frontLevel level first later repeats).rank ≤ level.rank := by
  have tighter := Level.rank_lt_of_chain shaped
  unfold frontLevel
  split <;> omega

theorem Reads.places {rule : Rule} {ts rest : List Token} {node : Node}
    (read : Reads rule ts node rest) (plain : Without .leftParen ts) : Places rule node := by
  induction read with
  | operands shaped head _ ihHead ihTail =>
    obtain ⟨taken, rfl, -⟩ := head.consumed
    have front := (ihHead plain).loosen (rank_frontLevel shaped).1
    exact ihTail (without_append.mp plain).2 _ _ shaped front
  | signed shaped sign _ ih =>
    obtain ⟨-, among⟩ := Token.operator?_eq_some sign
    exact placed_unary shaped among (ih (without_cons.mp plain).2)
  | unsigned shaped _ _ ih =>
    exact (ih plain).loosen (Nat.le_of_lt (Level.rank_lt_of_signed shaped))
  | number start stop value => exact placed_number _
  | identifier start stop name => exact placed_identifier _
  | parens => exact absurd rfl (without_cons.mp plain).1
  | stop repeats left _ =>
    intro level first shaped front
    exact front.loosen (rank_frontLevel shaped).2
  | once join _ ih =>
    obtain ⟨-, among⟩ := Token.operator?_eq_some join
    intro level first shaped front
    exact placed_binary shaped among front (ih (without_cons.mp plain).2)
  | @more later _ _ _ _ _ _ _ _ _ join operand tail ihOperand ihTail =>
    obtain ⟨-, among⟩ := Token.operator?_eq_some join
    obtain ⟨taken, rfl, -⟩ := operand.consumed
    have plain' := (without_cons.mp plain).2
    intro level first shaped front
    have joined := placed_binary shaped among front (ihOperand plain')
    by_cases same : later = first
    · -- The operators group to the left: what was joined stands in front of the next one.
      have left : frontLevel level first later true = level := if_pos ⟨rfl, same⟩
      exact ihTail (without_append.mp plain').2 level first shaped (left.symm ▸ joined)
    · -- They group to the right: the operand has taken all that follows, and the chain stops.
      cases tail with
      | stop => exact joined
      | more again => cases again.symm.trans (operand.exhausts shaped same)

/-- All operands in an expression that is read from tokens without an opening parenthesis may stand
where they do. -/
theorem tree_keeps_precedence (tokens : List Token) (plain : Without .leftParen tokens)
    (node : Node) (rest : Stream (Cursor Token))
    (read : (expression .disjunction (.ofTokens tokens)).outcome = (.ok node, rest)) :
    ∀ inner, Node.Within inner node → inner.OperandsBind := by
  have loose : Level.disjunction.rank ≤ 1 → (Lookahead.ofTokens tokens).isOver = false :=
    fun tight => absurd tight (by decide)
  have done := ((expression_runs .disjunction _ loose).of_outcome_ok read).1
  rw [Lookahead.ahead_ofTokens] at done
  exact (done.places plain).keeps

/-- A tree with every kind of operator: the minus sign takes the whole power behind it, the products
group to the left, and the differences, the powers and the boolean operators to the right. -/
theorem tree_keeps_precedence_mixed :
    let text := "!a || b && -c ** -d ** e * f / g < h - i - j && !!k || m".toList
    let tokens := (Lexer.ofText text).tokens.1
    Without .leftParen tokens ∧ ∃ node rest,
      (expression .disjunction (.ofTokens tokens)).outcome = (.ok node, rest) ∧
        node.precedence = 1 ∧ ∀ inner, Node.Within inner node → inner.OperandsBind := by
  intro text tokens
  have absent : tokens.all (fun token => decide (token.value ≠ .operator .leftParen)) = true := by
    decide +kernel
  have plain : Without .leftParen tokens := by simpa [Without] using absent
  let reply := (expression .disjunction (.ofTokens tokens)).outcome
  have loosest : reply.1.toOption.map Node.precedence = some 1 := by decide +kernel
  cases built : reply.1 with
  | error failure => simp [built, Except.toOption] at loosest
  | ok node =>
    have root : node.precedence = 1 := by simpa [built, Except.toOption] using loosest
    have read : (expression .disjunction (.ofTokens tokens)).outcome = (.ok node, reply.2) :=
      Prod.ext built rfl
    exact ⟨plain, node, reply.2, read, root, tree_keeps_precedence tokens plain node reply.2 read⟩

end Parser

end Bashling
