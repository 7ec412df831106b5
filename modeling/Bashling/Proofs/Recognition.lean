import Bashling.Proofs.Scan

/-!
# The parser recognises the language of expressions

The scan decides two things about tokens: whether they are an expression (`accepts_of_sentence`,
`sentence_of_accepts`) and whether an expression begins with them (`begins_iff_run`). The first is
proved with the parser itself: given the tokens and an end of text, it can neither stop early nor
refuse one of them.

From this follows what the parser does with any tokens that an end of text closes. It takes the one
expression in front of them that no expression continues with the next token, and it fails if there
is none (`expression_recognises`).
-/

namespace Bashling

open Grammar

namespace Grammar

/-- Whether some expression begins with these tokens. -/
def Begins (ts : List Token) : Prop := ∃ w, Sentence .disjunction w ∧ ts <+: w

/-- Whether the tokens in front are an expression, and no expression goes on with the next token. -/
def Longest (ts front : List Token) : Prop :=
  Sentence .disjunction front ∧
    ∃ next later, ts = front ++ next :: later ∧ ¬Begins (front ++ [next])

/-- Tokens in front of the same list as others are cut off by them, or go on with the next token. -/
theorem front_cases {before before' later later' ts : List Token} {next next' : Token}
    (split : ts = before ++ next :: later) (split' : ts = before' ++ next' :: later') :
    before = before' ∨ before ++ [next] <+: before' ∨ before' ++ [next'] <+: before := by
  rw [split] at split'
  rcases List.append_eq_append_iff.mp split' with ⟨more, rfl, rest⟩ | ⟨more, rfl, rest⟩
  · cases more with
    | nil => exact .inl (List.append_nil _).symm
    | cons token more =>
      cases rest
      exact .inr (.inl ⟨more, by simp⟩)
  · cases more with
    | nil => exact .inl (List.append_nil _)
    | cons token more =>
      cases rest
      exact .inr (.inr ⟨more, by simp⟩)

/-- At most one expression stands in front that does not go on. -/
theorem Longest.unique {ts front front' : List Token} (longest : Longest ts front)
    (longest' : Longest ts front') : front = front' := by
  obtain ⟨sentence, next, later, split, ended⟩ := longest
  obtain ⟨sentence', next', later', split', ended'⟩ := longest'
  rcases front_cases split split' with equal | shorter | longer
  · exact equal
  · exact absurd ⟨front', sentence', shorter⟩ ended
  · exact absurd ⟨front, sentence, longer⟩ ended'

end Grammar

namespace Scan

/-- A scan that has come to the end of an expression. -/
def Accepts (ts : List Token) : Prop :=
  ∃ q, start.run ts = some q ∧ q.awaits = .operator ∧ q.opened = []

theorem accepts_of_sentence {ts : List Token} (sentence : Sentence .disjunction ts) : Accepts ts :=
  run_sentence sentence rfl

/-- An end of text is not part of an expression. -/
private theorem step_eof (q : Scan) {token : Token} (ended : token.isEof = true) :
    q.step token = none := by
  obtain ⟨start, stop, lexeme⟩ := token
  cases lexeme with
  | eof => rfl
  | _ => cases ended

end Scan

namespace Parser

open Scan

/-- The tokens that were taken are an expression, and the scan cannot go on behind them. -/
structure Stops (ts taken rest : List Token) : Prop where
  split : ts = taken ++ rest
  noEnd : NoEnd taken
  sentence : Sentence .disjunction taken
  stuck : ∀ q, start.run taken = some q → ∀ next later, rest = next :: later → q.step next = none

theorem Reads.stops {ts rest : List Token} {node : Node}
    (read : Reads (.expression .disjunction) ts node rest) : ∃ taken, Stops ts taken rest := by
  obtain ⟨taken, split, noEnd⟩ := read.consumed
  obtain ⟨taken', split', sentence⟩ := read.sentence
  obtain ⟨taken'', split'', moves⟩ := moves_of_reads read
  -- The three lemmas speak of the same tokens, those in front of what is left.
  obtain rfl := List.append_cancel_right (split.symm.trans split')
  obtain rfl := List.append_cancel_right (split.symm.trans split'')
  obtain ⟨q, reached, ⟨ended, outside⟩, halts⟩ := moves start rfl
  refine ⟨taken, split, noEnd, sentence, fun q' reached' next later equal => ?_⟩
  cases reached.symm.trans reached'
  exact step_halted ended outside (halts next later equal)

/-- The two outcomes on tokens with an end of text among them. -/
theorem expression_stops_or_blocks {σ : Type} [TokenSource σ] {s : Stream σ}
    (closed : ¬NoEnd s.ahead) :
    (expression .disjunction s).Ensures (fun _ rest => ∃ taken, Stops s.ahead taken rest.ahead)
      (fun failure rest => Blocked start s.ahead failure rest.ahead) := by
  have loose : Level.disjunction.rank ≤ 1 → s.isOver = false :=
    fun tight => absurd tight (by decide)
  refine (expression_runs .disjunction s loose).mono ?_ ?_
  · rintro node rest ⟨read, -⟩
    exact read.stops
  · rintro failure rest (refused | ⟨-, noEnd⟩)
    · exact blocks_of_refuses refused start rfl fun tight => absurd tight (by decide)
    · exact absurd noEnd closed

end Parser

namespace Scan

/-- No failure is reported where an expression can end. -/
private theorem Reports.not_ended {q : Scan} {failure : Failure} {token : Token}
    {later rest : List Token} (reports : Reports q failure token later rest)
    (ended : q.awaits = .operator) : q.opened ≠ [] := by
  rcases reports with ⟨-, -, awaited⟩ | ⟨opening, outer, -, -, -, -, inside⟩
  · exact absurd ended awaited
  · rw [inside]
    exact List.cons_ne_nil opening outer

theorem step_of_front {before ts : List Token} {token : Token} {q : Scan}
    (front : before ++ [token] <+: ts) (moved : (start.run ts).isSome)
    (reached : start.run before = some q) : q.step token ≠ none := by
  have moves := run_of_front front moved
  rw [run_append_of_run _ reached, run_cons] at moves
  intro stuck
  rw [stuck] at moves
  cases moves

/-- An accepted list of tokens is an expression: the parser takes all of it. -/
theorem sentence_of_accepts {ts : List Token} (accepts : Accepts ts) :
    Sentence .disjunction ts := by
  obtain ⟨q, reached, ended, outside⟩ := accepts
  have moved : (start.run ts).isSome := by rw [reached]; rfl
  let eof : Token := ⟨.origin, .origin, .eof⟩
  let s : Stream (Cursor Token) := .ofSource (.ofList (ts ++ [eof]))
  have ahead : s.ahead = ts ++ [eof] := (Cursor.ahead_ofSource _).1
  have closed : ¬Parser.NoEnd s.ahead := by
    intro noEnd
    rw [ahead] at noEnd
    cases noEnd eof (by simp)
  have outcome := Parser.expression_stops_or_blocks closed
  cases result : Parser.expression .disjunction s with
  | done node rest less =>
    rw [result] at outcome
    obtain ⟨taken, split, noEnd, sentence, stuck⟩ := outcome
    cases left : rest.ahead with
    | nil =>
      rw [left, List.append_nil] at split
      exact absurd (split ▸ noEnd) closed
    | cons next later =>
      rw [left] at split
      -- The parser took all of `ts`, or the end of the text as well, or it stopped inside.
      rcases front_cases ahead split with rfl | beyond | early
      · exact sentence
      · cases noEnd eof (beyond.subset (by simp))
      · obtain ⟨q', reached', -⟩ := accepts_of_sentence sentence
        exact absurd (stuck q' reached' next later left) (step_of_front early moved reached')
  | failed failure rest =>
    rw [result] at outcome
    obtain ⟨before, token, later, q', split, reached', stuck, reports⟩ := outcome
    -- The parser refused the end of the text, or something behind it, or a token of `ts`.
    rcases front_cases ahead split with rfl | beyond | early
    · cases reached.symm.trans reached'
      exact absurd outside (reports.not_ended ended)
    · have moved' : (start.run before).isSome := by rw [reached']; rfl
      exact absurd (step_eof q rfl) (step_of_front beyond moved' reached)
    · exact absurd stuck (step_of_front early moved reached')

/-- Closing its parentheses brings a scan behind an operand to an end. -/
private theorem run_closings (compared : Bool) (opened : List Token) :
    ∃ ts, run ⟨.operator, compared, opened⟩ ts = some ⟨.operator, compared, []⟩ := by
  induction opened with
  | nil => exact ⟨[], rfl⟩
  | cons opening outer ih =>
    obtain ⟨ts, reached⟩ := ih
    refine ⟨⟨.origin, .origin, .operator .rightParen⟩ :: ts, ?_⟩
    rw [run_cons_of_step ts (step_closing .origin .origin rfl rfl), reached]

/-- From every state a scan can be brought to the end of an expression. -/
private theorem run_completes (q : Scan) :
    ∃ ts q', q.run ts = some q' ∧ q'.awaits = .operator ∧ q'.opened = [] := by
  obtain ⟨awaits, compared, opened⟩ := q
  obtain ⟨ts, reached⟩ := run_closings compared opened
  by_cases ended : awaits = .operator
  · subst ended
    exact ⟨ts, ⟨.operator, compared, []⟩, reached, rfl, rfl⟩
  · let operand : Token := ⟨.origin, .origin, .identifier "x"⟩
    have moved : step ⟨awaits, compared, opened⟩ operand = some ⟨.operator, compared, opened⟩ :=
      step_value ended (.inr (by simp [operand, Token.identifier?]))
    exact ⟨operand :: ts, _, by rw [run_cons_of_step ts moved, reached], rfl, rfl⟩

/-- Tokens begin an expression exactly if the scan gets through them. -/
theorem begins_iff_run {ts : List Token} : Begins ts ↔ (start.run ts).isSome := by
  constructor
  · rintro ⟨w, sentence, front⟩
    obtain ⟨q, reached, -⟩ := accepts_of_sentence sentence
    exact run_of_front front (by rw [reached]; rfl)
  · intro moved
    obtain ⟨q, reached⟩ := Option.isSome_iff_exists.mp moved
    obtain ⟨ts', q', completed, ended⟩ := run_completes q
    have accepts : Accepts (ts ++ ts') :=
      ⟨q', by rw [run_append_of_run _ reached, completed], ended⟩
    exact ⟨ts ++ ts', sentence_of_accepts accepts, List.prefix_append ts ts'⟩

theorem not_begins_of_stuck {ts : List Token} {token : Token} {q : Scan}
    (reached : start.run ts = some q) (stuck : q.step token = none) : ¬Begins (ts ++ [token]) := by
  rw [begins_iff_run]
  intro moved
  exact step_of_front (List.prefix_refl _) moved reached stuck

end Scan

namespace Parser

open Scan Lookahead

/-- Where the parser stops, no expression goes on. -/
theorem Stops.longest {ts taken rest : List Token} (stops : Stops ts taken rest)
    (closed : ¬NoEnd ts) : Longest ts taken := by
  obtain ⟨split, noEnd, sentence, stuck⟩ := stops
  cases rest with
  | nil =>
    rw [List.append_nil] at split
    exact absurd (split ▸ noEnd) closed
  | cons next later =>
    obtain ⟨q, reached, -⟩ := accepts_of_sentence sentence
    have ended := not_begins_of_stuck reached (stuck q reached next later rfl)
    exact ⟨sentence, next, later, split, ended⟩

/-- Where the parser refuses a token, no expression in front of the tokens ends. -/
private theorem not_longest_of_blocked {ts rest front : List Token} {failure : Failure}
    (blocked : Blocked start ts failure rest) : ¬Longest ts front := by
  rintro ⟨sentence, next, later, split, ended⟩
  obtain ⟨before, token, later', q, split', reached, stuck, reports⟩ := blocked
  obtain ⟨q', reached', awaits, outside⟩ := accepts_of_sentence sentence
  have moved : (start.run front).isSome := by rw [reached']; rfl
  -- The refused token stands right behind the expression, or further on, or inside it.
  rcases front_cases split split' with rfl | beyond | early
  · cases reached.symm.trans reached'
    exact reports.not_ended awaits outside
  · have moved' : (start.run before).isSome := by rw [reached]; rfl
    exact ended (begins_iff_run.mpr (run_of_front beyond moved'))
  · exact step_of_front early moved reached stuck

/-- The failures of expressions. -/
def Refusal (failure : Failure) : Prop :=
  (∃ token, failure = .unexpectedToken token) ∨
    ∃ opening node expected actual, failure = .unclosedParen opening node expected actual

theorem refusal_of_blocked {q : Scan} {ts rest : List Token} {failure : Failure}
    (blocked : Blocked q ts failure rest) : Refusal failure := by
  obtain ⟨before, token, later, q', -, -, -, reports⟩ := blocked
  rcases reports with ⟨rfl, -, -⟩ | ⟨opening, outer, node, rfl, -⟩
  · exact .inl ⟨token, rfl⟩
  · exact .inr ⟨opening, node, _, token, rfl⟩

theorem exists_of_isOk {α β : Type} {result : Except α β} (succeeds : result.isOk = true) :
    ∃ value, result = .ok value := by
  cases result with
  | ok value => exact ⟨value, rfl⟩
  | error failure => cases succeeds

/-- On tokens with an end of text among them, the parser succeeds and takes exactly some tokens in
front if and only if these are an expression and no expression begins with them and the next token.
At most one front is such, and without one the parser refuses a token. -/
theorem expression_recognises (ts : List Token) (closed : ∃ token ∈ ts, token.isEof = true) :
    let s : Stream (Cursor Token) := .ofSource (.ofList ts)
    (∀ front, (∃ node rest, (expression .disjunction s).outcome = (.ok node, rest) ∧
        ts = front ++ rest.ahead) ↔ Longest ts front) ∧
      (∀ front front', Longest ts front → Longest ts front' → front = front') ∧
      ((¬∃ front, Longest ts front) → ∃ failure rest,
        (expression .disjunction s).outcome = (.error failure, rest) ∧ Refusal failure) := by
  intro s
  have ahead : s.ahead = ts := (Cursor.ahead_ofSource _).1
  have closed' : ¬NoEnd ts := by
    obtain ⟨token, member, ended⟩ := closed
    intro noEnd
    rw [noEnd token member] at ended
    cases ended
  have outcome := expression_stops_or_blocks (s := s) (by rwa [ahead])
  rw [ahead] at outcome
  cases result : expression .disjunction s with
  | done node rest less =>
    rw [result] at outcome
    obtain ⟨taken, stops⟩ := outcome
    have longest := stops.longest closed'
    refine ⟨fun front => ⟨?_, fun longest' => ?_⟩, fun _ _ => Longest.unique,
      fun none => absurd ⟨taken, longest⟩ none⟩
    · rintro ⟨node', rest', built, split⟩
      cases built
      obtain rfl := List.append_cancel_right (stops.split.symm.trans split)
      exact longest
    · obtain rfl := longest.unique longest'
      exact ⟨node, rest, rfl, stops.split⟩
  | failed failure rest =>
    rw [result] at outcome
    refine ⟨fun front => ⟨?_, fun longest => ?_⟩, fun _ _ => Longest.unique, fun _ => ?_⟩
    · rintro ⟨node, rest', built, -⟩
      cases built
    · exact absurd longest (not_longest_of_blocked outcome)
    · exact ⟨failure, rest, rfl, refusal_of_blocked outcome⟩

/-- A second comparison does not continue the first one: of `a < b < c` the parser takes `a < b`. -/
theorem expression_recognises_one_comparison :
    let name (column : Nat) (text : String) : Token :=
      ⟨⟨1, column⟩, ⟨1, column⟩, .identifier text⟩
    let less (column : Nat) : Token := ⟨⟨1, column⟩, ⟨1, column⟩, .operator .less⟩
    let ts := [name 1 "a", less 3, name 5 "b", less 7, name 9 "c", ⟨⟨1, 10⟩, ⟨1, 10⟩, .eof⟩]
    (∃ token ∈ ts, token.isEof = true) ∧ Longest ts [name 1 "a", less 3, name 5 "b"] := by
  intro name less ts
  have closed : ∃ token ∈ ts, token.isEof = true := by decide
  let reply := (expression .disjunction (Lookahead.ofSource (Cursor.ofList ts))).outcome
  have succeeds : reply.1.isOk = true := by decide +kernel
  have left : ts = [name 1 "a", less 3, name 5 "b"] ++
      (reply.2.held.toList ++ reply.2.source.rest) := by decide +kernel
  refine ⟨closed, ((expression_recognises ts closed).1 _).mp ?_⟩
  obtain ⟨node, built⟩ := exists_of_isOk succeeds
  refine ⟨node, reply.2, Prod.ext built rfl, ?_⟩
  rwa [(Cursor.ahead_stream reply.2).1]

end Parser

end Bashling
