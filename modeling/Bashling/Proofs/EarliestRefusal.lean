import Bashling.Proofs.Completeness
import Bashling.Proofs.Recognition

/-!
# Where an expression is refused

A reader of a refused program is told of one token. It is the earliest one that could be told of: an
expression begins with the tokens in front of it, and none begins with these and the token itself.
If a parenthesis is reported as unclosed, it is the innermost one that the tokens in front leave
unclosed (`refused_at_earliest`).

That the token is the earliest comes from the scan, which gets through the tokens in front and is
stuck at the token. The scan also keeps the open parentheses. What they are among the tokens it has
passed is said here by counting (`depth`), and is kept by every step (`Leaves.turn`).
-/

namespace Bashling

namespace Grammar

/-- What a token does to the number of open parentheses. -/
def shift (token : Token) : Int :=
  if token.value = .operator .leftParen then 1
  else if token.value = .operator .rightParen then -1
  else 0

/-- How many more parentheses are open behind some tokens than in front of them. -/
def depth : List Token → Int
  | [] => 0
  | token :: ts => shift token + depth ts

/-- Whether no closing parenthesis among some tokens closes one in front of them. -/
def ClosesNone (ts : List Token) : Prop := ∀ front, front <+: ts → 0 ≤ depth front

/-- An opening parenthesis that some tokens leave unclosed. -/
structure Unclosed (ts before : List Token) (opening : Token) (behind : List Token) : Prop where
  split : ts = before ++ opening :: behind
  opens : opening.value = .operator .leftParen
  stays : ClosesNone behind

/-- The last of the opening parentheses that some tokens leave unclosed. -/
def Innermost (ts : List Token) (opening : Token) : Prop :=
  ∃ before behind, Unclosed ts before opening behind ∧
    ∀ before' opening' behind', Unclosed ts before' opening' behind' →
      before'.length ≤ before.length

/-- Whether the parentheses among some tokens belong together in pairs. -/
structure Paired (ts : List Token) : Prop where
  closesNone : ClosesNone ts
  level : depth ts = 0

/-- Which opening parentheses some tokens leave unclosed, the innermost one first. -/
inductive Leaves : List Token → List Token → Prop where
  | none {ts} (paired : Paired ts) : Leaves ts []
  | more {before opening behind outer} (front : Leaves before outer)
      (opens : opening.value = .operator .leftParen) (paired : Paired behind) :
      Leaves (before ++ opening :: behind) (opening :: outer)

/-- What one more token does to the open parentheses. -/
inductive Turns (token : Token) : List Token → List Token → Prop where
  | opens {opened} (equal : token.value = .operator .leftParen) :
      Turns token opened (token :: opened)
  | closes {opening opened} (equal : token.value = .operator .rightParen) :
      Turns token (opening :: opened) opened
  | neutral {opened} (equal : shift token = 0) : Turns token opened opened

section Depth

variable {token opening : Token} {ts ts' : List Token}

private theorem depth_append : depth (ts ++ ts') = depth ts + depth ts' := by
  induction ts with
  | nil => simp [depth]
  | cons token ts ih =>
    rw [List.cons_append, depth, depth, ih]
    omega

private theorem depth_concat : depth (ts ++ [token]) = depth ts + shift token := by
  simp [depth_append, depth]

private theorem shift_opening (opens : token.value = .operator .leftParen) : shift token = 1 := by
  simp [shift, opens]

private theorem shift_closing (closes : token.value = .operator .rightParen) :
    shift token = -1 := by
  simp [shift, closes]

private theorem shift_of_mem {kind : Operator} {operators : List Operator}
    (equal : token.value = .operator kind) (among : kind ∈ operators)
    (noOpening : .leftParen ∉ operators) (noClosing : .rightParen ∉ operators) :
    shift token = 0 := by
  have other : kind ≠ .leftParen ∧ kind ≠ .rightParen :=
    ⟨fun opens => noOpening (opens ▸ among), fun closes => noClosing (closes ▸ among)⟩
  simp [shift, equal, other]

theorem ClosesNone.append (front : ClosesNone ts) (back : ClosesNone ts') :
    ClosesNone (ts ++ ts') := by
  intro part shorter
  rcases List.prefix_or_prefix_of_prefix shorter (List.prefix_append ts ts') with inFront | beyond
  · exact front part inFront
  · -- A part that reaches into the second tokens has all of the first ones in front.
    obtain ⟨part', rfl⟩ := beyond
    have first := front ts (List.prefix_refl ts)
    have second := back part' ((List.prefix_append_right_inj ts).mp shorter)
    rw [depth_append]
    omega

private theorem ClosesNone.concat (front : ClosesNone ts) (last : 0 ≤ depth (ts ++ [token])) :
    ClosesNone (ts ++ [token]) := by
  intro part shorter
  rcases List.prefix_concat_iff.mp shorter with rfl | inFront
  · exact last
  · exact front part inFront

private theorem closesNone_nil : ClosesNone [] := by
  intro part shorter
  rw [List.prefix_nil.mp shorter]
  exact Int.le_refl 0

private theorem paired_nil : Paired [] := ⟨closesNone_nil, rfl⟩

private theorem Paired.concat (paired : Paired ts) (neutral : shift token = 0) :
    Paired (ts ++ [token]) := by
  have level : depth (ts ++ [token]) = 0 := by
    rw [depth_concat, paired.level, neutral]
    rfl
  exact ⟨paired.closesNone.concat (Int.le_of_eq level.symm), level⟩

/-- A pair of parentheses may stand behind pairs, with pairs inside. -/
theorem Paired.enclose {closing : Token} (front : Paired ts)
    (opens : opening.value = .operator .leftParen) (inner : Paired ts')
    (closes : closing.value = .operator .rightParen) :
    Paired (ts ++ opening :: (ts' ++ [closing])) := by
  have opened : ClosesNone [opening] := by
    apply ClosesNone.concat closesNone_nil
    simp [depth, shift_opening opens]
  -- The closing parenthesis takes back what the opening one added; nothing before it went lower.
  have level : depth (opening :: ts' ++ [closing]) = 0 := by
    simp [depth_concat, depth, inner.level, shift_opening opens, shift_closing closes]
  have pair : ClosesNone (opening :: ts' ++ [closing]) :=
    (opened.append inner.closesNone).concat (Int.le_of_eq level.symm)
  refine ⟨front.closesNone.append pair, ?_⟩
  rw [← List.cons_append, depth_append, front.level, level]
  rfl

/-- Behind tokens in pairs, an opening parenthesis in front of them is the innermost one. -/
theorem Paired.innermost {before : List Token} (paired : Paired ts)
    (opens : opening.value = .operator .leftParen) :
    Innermost (before ++ opening :: ts) opening := by
  refine ⟨before, ts, ⟨rfl, opens, paired.closesNone⟩, ?_⟩
  rintro before' opening' behind' ⟨split, opens', stays⟩
  apply Nat.le_of_not_lt
  intro later
  rcases List.append_eq_append_iff.mp split with ⟨more, rfl, inside⟩ | ⟨more, rfl, -⟩
  · cases more with
    | nil => simp at later
    | cons first more =>
      -- A later one stands among the pairs, and the tokens behind it close it.
      obtain ⟨-, inside⟩ := List.cons.inj inside
      have level := paired.level
      have first := paired.closesNone more ⟨_, inside.symm⟩
      have second := stays behind' (List.prefix_refl _)
      rw [inside, List.append_eq, depth_append, depth, shift_opening opens'] at level
      omega
  · rw [List.length_append] at later
    omega

theorem Innermost.unique {opening' : Token} (one : Innermost ts opening)
    (other : Innermost ts opening') : opening = opening' := by
  obtain ⟨before, behind, unclosed, last⟩ := one
  obtain ⟨before', behind', unclosed', last'⟩ := other
  -- Each is last among the unclosed ones, so they stand at the same place.
  have same : before.length = before'.length :=
    Nat.le_antisymm (last' _ _ _ unclosed) (last _ _ _ unclosed')
  obtain ⟨-, equal⟩ := List.append_inj (unclosed.split.symm.trans unclosed'.split) same
  exact (List.cons.inj equal).1

/-! ### The open parentheses of a scan -/

private theorem Leaves.concat {opened : List Token} (leaves : Leaves ts opened)
    (neutral : shift token = 0) : Leaves (ts ++ [token]) opened := by
  cases leaves with
  | none paired => exact .none (paired.concat neutral)
  | more front opens paired =>
    rw [List.append_assoc, List.cons_append]
    exact .more front opens (paired.concat neutral)

/-- A closing parenthesis and the innermost open one become a pair behind the next outer one. -/
theorem Leaves.close {outer : List Token} (leaves : Leaves ts (opening :: outer))
    (closes : token.value = .operator .rightParen) : Leaves (ts ++ [token]) outer := by
  cases leaves with
  | more front opens paired =>
    cases front with
    | none paired' =>
      rw [List.append_assoc, List.cons_append]
      exact .none (paired'.enclose opens paired closes)
    | more front' opens' paired' =>
      simp only [List.append_assoc, List.cons_append]
      exact .more front' opens' (paired'.enclose opens paired closes)

theorem Leaves.turn {opened opened' : List Token} (leaves : Leaves ts opened)
    (turns : Turns token opened opened') : Leaves (ts ++ [token]) opened' := by
  cases turns with
  | opens equal => exact .more leaves equal paired_nil
  | closes equal => exact leaves.close equal
  | neutral equal => exact leaves.concat equal

end Depth

end Grammar

namespace Scan

open Grammar

variable {q q' : Scan} {token : Token} {ts : List Token}

/-- In front of an operand, only an opening parenthesis changes the open ones. -/
private theorem turns_beforeOperand {kind : Operator} (equal : token.value = .operator kind)
    (moved : q.beforeOperand token kind = some q') : Turns token q.opened q'.opened := by
  rw [beforeOperand] at moved
  split at moved
  next sign =>
    cases moved
    exact .neutral (shift_of_mem equal sign (by decide) (by decide))
  next =>
    split at moved
    next opens =>
      cases moved
      exact .opens (opens ▸ equal)
    next =>
      split at moved
      next negates =>
        cases moved
        have among := List.mem_singleton.mpr negates.1
        exact .neutral (shift_of_mem equal among (by decide) (by decide))
      next => cases moved

/-- Behind an operand, only a closing one does. -/
private theorem turns_afterOperand {kind : Operator} (equal : token.value = .operator kind)
    (moved : q.afterOperand kind = some q') : Turns token q.opened q'.opened := by
  rw [afterOperand] at moved
  split at moved
  next arithmetical =>
    cases moved
    exact .neutral (shift_of_mem equal arithmetical (by decide) (by decide))
  next =>
    split at moved
    next opening outer inside =>
      split at moved
      next closes =>
        cases moved
        rw [inside]
        exact .closes (closes ▸ equal)
      next => cases moved
    next outside =>
      rw [outside]
      split at moved
      next comparing =>
        cases moved
        exact .neutral (shift_of_mem equal comparing.1 (by decide) (by decide))
      next =>
        split at moved
        next boolean =>
          cases moved
          exact .neutral (shift_of_mem equal boolean (by decide) (by decide))
        next => cases moved

private theorem turns_step (moved : q.step token = some q') : Turns token q.opened q'.opened := by
  obtain ⟨start', stop, lexeme⟩ := token
  cases lexeme with
  | operator kind =>
    simp only [step] at moved
    split at moved
    · exact turns_afterOperand rfl moved
    · exact turns_beforeOperand rfl moved
  | number | identifier =>
    simp only [step] at moved
    split at moved
    · cases moved
    · cases moved
      exact .neutral rfl
  | _ => cases moved

/-- Along a run, the open parentheses of a scan are those that the tokens so far leave unclosed. -/
private theorem leaves_run {ts' : List Token} (leaves : Leaves ts q.opened)
    (moved : q.run ts' = some q') : Leaves (ts ++ ts') q'.opened := by
  -- The induction is on the tokens to come. Each of them moves to the ones that were passed.
  induction ts' generalizing q ts with
  | nil =>
    cases moved
    rwa [List.append_nil]
  | cons token ts' ih =>
    rw [run_cons] at moved
    obtain ⟨mid, first, rest⟩ := Option.bind_eq_some_iff.mp moved
    have further := ih (leaves.turn (turns_step first)) rest
    rwa [List.append_assoc] at further

private theorem innermost_of_run {opening : Token} {outer : List Token}
    (reached : start.run ts = some q)
    (inside : q.opened = opening :: outer) : Innermost ts opening := by
  have leaves := leaves_run (.none paired_nil) reached
  rw [List.nil_append, inside] at leaves
  cases leaves with
  | more _ opens paired => exact paired.innermost opens

end Scan

namespace Parser

open Grammar Scan

/-- A refused expression is refused at the first token with which none goes on. Where an operand is
missing, the parser has taken that token and reports it. Where a parenthesis is not closed it has
left the token, and it reports the innermost one that is open there. -/
theorem refused_at_earliest (ts : List Token) (closed : ∃ token ∈ ts, token.isEof = true)
    (failure : Failure) (rest : Stream (Cursor Token))
    (failed : (expression .disjunction (.ofTokens ts)).outcome = (.error failure, rest)) :
    ∃ front token later, ts = front ++ token :: later ∧
      Begins front ∧ ¬Begins (front ++ [token]) ∧
      ((failure = .unexpectedToken token ∧ rest.ahead = later) ∨
        ∃ opening node, failure = .unclosedParen opening node .rightParen token ∧
          rest.ahead = token :: later ∧ Innermost front opening) := by
  have closed' : ¬NoEnd (Lookahead.ofTokens ts).ahead := by
    obtain ⟨token, member, ended⟩ := closed
    intro noEnd
    rw [Lookahead.ahead_ofTokens] at noEnd
    simp [noEnd token member] at ended
  have blocked := (expression_stops_or_blocks closed').of_outcome_error failed
  rw [Lookahead.ahead_ofTokens] at blocked
  -- The scan gets through what stands in front of the reported token, and not through the token.
  obtain ⟨front, token, later, q, split, reached, stuck, reports⟩ := blocked
  refine ⟨front, token, later, split, ?_, not_begins_of_stuck reached stuck, ?_⟩
  · rw [begins_iff_run, reached]
    rfl
  · rcases reports with ⟨reported, left, -⟩ | ⟨opening, outer, node, reported, left, -, inside⟩
    · exact .inl ⟨reported, left⟩
    · exact .inr ⟨opening, node, reported, left, innermost_of_run reached inside⟩

/-- In `((a)+b<c)` the comparison is refused, since a parenthesis is open. It is the outer one: the
inner one has been closed. -/
theorem refused_at_earliest_comparison_inside :
    let name (column : Int) (text : String) : Token :=
      ⟨⟨1, column⟩, ⟨1, column⟩, .identifier text⟩
    let sign (column : Int) (kind : Operator) : Token :=
      ⟨⟨1, column⟩, ⟨1, column⟩, .operator kind⟩
    let front := [sign 1 .leftParen, sign 2 .leftParen, name 3 "a", sign 4 .rightParen,
      sign 5 .plus, name 6 "b"]
    let later := [name 8 "c", sign 9 .rightParen, ⟨⟨1, 10⟩, ⟨1, 10⟩, .eof⟩]
    ∃ node rest, (expression .disjunction (.ofTokens (front ++ sign 7 .less :: later))).outcome =
        (.error (.unclosedParen (sign 1 .leftParen) node .rightParen (sign 7 .less)), rest) ∧
      rest.ahead = sign 7 .less :: later ∧ Begins front ∧ ¬Begins (front ++ [sign 7 .less]) ∧
      Innermost front (sign 1 .leftParen) := by
  intro name sign front later
  let reply := (expression .disjunction (.ofTokens (front ++ sign 7 .less :: later))).outcome
  have fails : reply.1.isOk = false := by decide +kernel
  have left : reply.2.ahead = sign 7 .less :: later := by
    rw [(Cursor.ahead_stream reply.2).1]
    decide +kernel
  have reached : start.run front = some ⟨.operator, false, [sign 1 .leftParen]⟩ := rfl
  have innermost := innermost_of_run reached rfl
  cases result : reply.1 with
  | ok node => simp [result, Except.isOk, Except.toBool] at fails
  | error failure =>
    obtain ⟨front', token, later', split, begins, stuck, reports⟩ :=
      refused_at_earliest _ (by decide) failure reply.2 (Prod.ext result rfl)
    rcases reports with ⟨-, taken⟩ | ⟨opening, node, rfl, kept, inner⟩
    · -- The token in front of the comparison cannot be the one that was refused.
      rw [← taken, left] at split
      have whole : front = front' ++ [token] := List.append_cancel_right (split.trans (by simp))
      exact absurd (begins_iff_run.mpr (by rw [← whole, reached]; rfl)) stuck
    · obtain ⟨rfl, rfl⟩ := List.cons.inj (left.symm.trans kept)
      obtain rfl := List.append_cancel_right split
      obtain rfl := inner.unique innermost
      exact ⟨node, reply.2, Prod.ext result rfl, kept, begins, stuck, innermost⟩

end Parser

end Bashling
