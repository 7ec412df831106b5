import Bashling.Proofs.Completeness
import Bashling.Proofs.Consumption

/-!
# What stands behind a phrase

A rule looks at one token more than it takes. So other tokens can stand behind those it takes, if
the first of them is the same as before, or one that does not continue what was read. The tree that
is built stays the same (`Reads.replace`, `ReadsPhrase.replace`).
-/

namespace Bashling

theorem Grammar.Sentence.ne_nil {level : Level} {ts : List Token}
    (sentence : Grammar.Sentence level ts) : ts ≠ [] := by
  induction sentence with
  | first _ _ ih => exact ih
  | unsigned _ _ ih => exact ih
  | lone _ ih => exact ih
  | _ => simp

namespace Parser

open Scan

/-- Tokens that can replace what is left: they start with the same token, or with one that is none
of these operators. -/
def Replaces (operators : List Operator) (rest rest' : List Token) : Prop :=
  ∃ next later, rest' = next :: later ∧
    (rest.head? = some next ∨ next.operator? operators = none)

section Replaces

variable {operators operators' : List Operator} {rest rest' : List Token}

theorem Replaces.mono (replaces : Replaces operators rest rest') (subset : operators' ⊆ operators) :
    Replaces operators' rest rest' := by
  obtain ⟨next, later, equal, same | other⟩ := replaces
  · exact ⟨next, later, equal, .inl same⟩
  · exact ⟨next, later, equal, .inr (Token.operator?_eq_none_of_subset subset other)⟩

private theorem replaces_cons (operators : List Operator) (token : Token)
    (rest rest' : List Token) : Replaces operators (token :: rest) (token :: rest') :=
  ⟨token, rest', rfl, .inl rfl⟩

/-- Tokens in front of both lists make no difference. -/
theorem Replaces.append (replaces : Replaces operators rest rest') (front : List Token) :
    Replaces operators (front ++ rest) (front ++ rest') := by
  cases front with
  | nil => exact replaces
  | cons token front => exact replaces_cons operators token _ _

end Replaces

/-- The operators that continue what a rule reads. -/
def Rule.joins : Rule → List Operator
  | .expression level => goesOn level start
  | .chain later operators _ _ => operators ++ goesOn later start

section Shapes

variable {level first later operand : Level} {operators : List Operator} {repeats : Bool}

theorem joins_of_chain (left : Node) (shaped : level.shape = .chain first later operators repeats) :
    (Rule.chain later operators repeats left).joins ⊆ (Rule.expression level).joins ∧
      (Rule.expression first).joins ⊆ (Rule.expression level).joins := by
  cases level <;> cases shaped <;> simp only [Rule.joins] <;> decide

theorem joins_of_signed (shaped : level.shape = .signed operand operators) :
    (Rule.expression operand).joins = (Rule.expression level).joins := by
  cases level <;> cases shaped <;> rfl

end Shapes

/-- An expression takes at least one token. -/
theorem Reads.ne_nil {level : Level} {ts taken rest : List Token} {node : Node}
    (read : Reads (.expression level) ts node rest) (split : ts = taken ++ rest) : taken ≠ [] := by
  obtain ⟨taken', split', sentence⟩ := read.sentence
  rw [List.append_cancel_right (split.symm.trans split')]
  exact sentence.ne_nil

/-- Reading an expression depends on what it leaves only as far as this decides where it stops. -/
theorem Reads.replace {rule : Rule} {ts rest : List Token} {node : Node}
    (read : Reads rule ts node rest) {rest' : List Token}
    (replaces : Replaces rule.joins rest rest') :
    ∃ taken, ts = taken ++ rest ∧ Reads rule (taken ++ rest') node rest' := by
  induction read generalizing rest' with
  | operands shaped _ _ ihHead ihTail =>
    -- From the back to the front: the operand is followed by what the chain takes, if anything.
    obtain ⟨ofChain, ofFirst⟩ := joins_of_chain _ shaped
    obtain ⟨back, rfl, tail⟩ := ihTail (replaces.mono ofChain)
    obtain ⟨front, rfl, head⟩ := ihHead ((replaces.mono ofFirst).append back)
    refine ⟨front ++ back, by simp, ?_⟩
    rw [List.append_assoc]
    exact .operands shaped head tail
  | @signed _ _ _ _ _ _ _ token shaped sign _ ih =>
    obtain ⟨taken, rfl, inner⟩ := ih replaces
    exact ⟨token :: taken, rfl, .signed shaped sign inner⟩
  | unsigned shaped other read ih =>
    rw [← joins_of_signed shaped] at replaces
    obtain ⟨taken, split, inner⟩ := ih replaces
    -- The token that is no sign is one of those taken, so it is still the first one.
    obtain ⟨token, taken, rfl⟩ := List.exists_cons_of_ne_nil (read.ne_nil split)
    cases split
    exact ⟨_ :: taken, rfl, .unsigned shaped other inner⟩
  | number start stop value => exact ⟨[_], rfl, .number start stop value rest'⟩
  | identifier start stop name => exact ⟨[_], rfl, .identifier start stop name rest'⟩
  | @parens start stop _ _ _ rest closing _ closes ih =>
    -- The closing parenthesis stays, so nothing changes for the sum inside.
    obtain ⟨taken, rfl, inner⟩ := ih (replaces_cons _ closing rest rest')
    exact ⟨⟨start, stop, .operator .leftParen⟩ :: (taken ++ [closing]), by simp,
      by simpa using Reads.parens inner closes⟩
  | @stop later operators rest token repeats left other =>
    obtain ⟨next, behind, rfl, same | other'⟩ := replaces
    · cases same
      exact ⟨[], rfl, .stop repeats left other⟩
    · have ended := Token.operator?_eq_none_of_subset (List.subset_append_left _ _) other'
      exact ⟨[], rfl, .stop repeats left ended⟩
  | @once _ _ _ _ _ _ _ token join _ ih =>
    obtain ⟨taken, rfl, operand⟩ := ih (replaces.mono (List.subset_append_right _ _))
    exact ⟨token :: taken, rfl, .once join operand⟩
  | @more _ _ _ _ _ _ _ _ _ token join _ _ ihOperand ihTail =>
    obtain ⟨back, rfl, tail⟩ := ihTail replaces
    obtain ⟨front, rfl, operand⟩ :=
      ihOperand ((replaces.mono (List.subset_append_right _ _)).append back)
    refine ⟨token :: (front ++ back), by simp, ?_⟩
    rw [List.cons_append, List.append_assoc]
    exact .more join operand tail

/-- Whether some tokens, with others behind them, are read in full as an expression of a level. -/
def ReadInFull (level : Level) (ts : List Token) (node : Node) : Prop :=
  ∃ next later rest,
    (expression level (.ofTokens (ts ++ next :: later))).outcome = (.ok node, rest) ∧
      rest.ahead = next :: later

/-- What is read in full is read so in front of every token that does not continue it. -/
theorem ReadInFull.reads {level : Level} {ts : List Token} {node : Node}
    (full : ReadInFull level ts node) {next : Token}
    (ended : next.operator? (Rule.expression level).joins = none) (later : List Token) :
    Reads (.expression level) (ts ++ next :: later) node (next :: later) := by
  obtain ⟨next', later', rest, built, left⟩ := full
  obtain ⟨first, behind, shown⟩ : ∃ first behind, ts ++ next' :: later' = first :: behind :=
    List.exists_cons_of_ne_nil (by simp)
  have ahead := Lookahead.ahead_ofTokens (ts ++ next' :: later')
  have opened := Lookahead.isOver_of_ahead (ahead.trans shown)
  have done := (expression_runs level _ fun _ => opened).of_outcome_ok built
  have read : Reads (.expression level) (ts ++ next' :: later') node (next' :: later') := by
    simpa only [ahead, left] using done.1
  -- So they are read with some tokens behind them, which can now be replaced.
  obtain ⟨taken, split, read'⟩ := read.replace ⟨next, later, rfl, .inr ended⟩
  rwa [List.append_cancel_right split]

/-! ### Statements -/

/-- Parameters are followed by a closing parenthesis, and what stands behind that is not seen. -/
theorem ReadsParameters.replace {ts mid : List Token} {items : List Parameter} {next : Token}
    (read : ReadsParameters ts items (next :: mid)) (mid' : List Token) :
    ∃ taken, ts = taken ++ next :: mid ∧
      ReadsParameters (taken ++ next :: mid') items (next :: mid') := by
  generalize left : next :: mid = rest at read
  induction read with
  | none other =>
    cases left
    exact ⟨[], rfl, .none other⟩
  | @last token colon typed _ _ _ _ _ named separates types other =>
    cases left
    exact ⟨[token, colon, typed], rfl, .last named separates types other⟩
  | @more token colon typed comma _ _ _ _ _ _ _ named separates types goesOn _ ih =>
    obtain ⟨taken, rfl, later⟩ := ih left
    exact ⟨token :: colon :: typed :: comma :: taken, rfl,
      .more named separates types goesOn later⟩

/-- Tokens that can replace what a phrase leaves. Where that is a closing brace, a function may have
ended there, so they start with one too. -/
def Resumes (rest rest' : List Token) : Prop :=
  Replaces (goesOn .disjunction start) rest rest' ∧ (Braced rest → Braced rest')

private theorem resumes_cons (token : Token) (rest rest' : List Token) :
    Resumes (token :: rest) (token :: rest') := by
  refine ⟨replaces_cons _ token rest rest', ?_⟩
  rintro ⟨brace, later, equal, closes⟩
  cases equal
  exact ⟨token, rest', rfl, closes⟩

theorem Resumes.append {rest rest' : List Token} (resumes : Resumes rest rest')
    (front : List Token) : Resumes (front ++ rest) (front ++ rest') := by
  cases front with
  | nil => exact resumes
  | cons token front => exact resumes_cons token _ _

theorem operator?_of_braced {rest : List Token} (braced : Braced rest) :
    ∃ token later operator, rest = token :: later ∧
      token.operator? [.rightBrace] = some operator := by
  obtain ⟨⟨start, stop, lexeme⟩, later, rfl, rfl⟩ := braced
  exact ⟨_, later, ⟨start, stop, .rightBrace⟩, rfl, rfl⟩

/-- An expression is a statement: its first token is no keyword. -/
theorem Reads.statement {ts rest : List Token} {node : Node}
    (read : Reads (.expression .disjunction) ts node rest) :
    ReadsPhrase .statement ts node rest := by
  obtain ⟨taken, rfl, sentence⟩ := read.sentence
  obtain ⟨token, later, rfl, noKeyword⟩ := sentence.head
  refine .expression (Token.keyword?_eq_none ?_ ?_) read
  · intro start stop equal
    exact noKeyword .let (congrArg Located.value equal)
  · intro start stop equal
    exact noKeyword .func (congrArg Located.value equal)

/-- A statement takes at least one token. -/
theorem ReadsPhrase.ne_nil {ts taken rest : List Token} {node : Node}
    (read : ReadsPhrase .statement ts node rest) (split : ts = taken ++ rest) : taken ≠ [] := by
  cases read with
  | expression _ read => exact read.ne_nil split
  | letStatement read | funcStatement read =>
    -- What is left is shorter than what stands behind the keyword.
    rintro rfl
    obtain ⟨front, rfl, -⟩ := read.consumed
    have lengths := congrArg List.length split
    simp only [List.length_cons, List.length_append, List.nil_append] at lengths
    omega

/-- Reading a phrase depends on what it leaves only as far as this decides where it stops. -/
theorem ReadsPhrase.replace {phrase : Phrase} {ts rest : List Token} {node : Node}
    (read : ReadsPhrase phrase ts node rest) {rest' : List Token} (resumes : Resumes rest rest') :
    ∃ taken, ts = taken ++ rest ∧ ReadsPhrase phrase (taken ++ rest') node rest' := by
  induction read generalizing rest' with
  | expression other read =>
    obtain ⟨taken, split, read'⟩ := read.replace resumes.1
    obtain ⟨_, taken, rfl⟩ := List.exists_cons_of_ne_nil (read.ne_nil split)
    cases split
    exact ⟨_ :: taken, rfl, .expression other read'⟩
  | @letStatement start stop _ _ _ rest token _ ends ih =>
    obtain ⟨taken, rfl, inner⟩ := ih (resumes_cons token rest rest')
    exact ⟨⟨start, stop, .keyword .let⟩ :: (taken ++ [token]), by simp,
      by simpa using ReadsPhrase.letStatement inner ends⟩
  | funcStatement _ ih =>
    obtain ⟨taken, rfl, inner⟩ := ih resumes
    exact ⟨_ :: taken, rfl, .funcStatement inner⟩
  | @assignment token sign _ _ _ _ _ named assigns _ ih =>
    obtain ⟨taken, rfl, inner⟩ := ih resumes
    exact ⟨token :: sign :: taken, rfl, .assignment named assigns inner⟩
  | @declaration token opening closing _ _ _ _ _ _ _ _ named opens listed closes _ ih =>
    obtain ⟨back, rfl, body⟩ := ih resumes
    obtain ⟨front, rfl, listed'⟩ := listed.replace (back ++ rest')
    exact ⟨token :: opening :: (front ++ closing :: back), by simp,
      by simpa using ReadsPhrase.declaration named opens listed' closes body⟩
  | @block token _ _ _ _ opens _ ih =>
    obtain ⟨taken, rfl, inner⟩ := ih resumes
    exact ⟨token :: taken, rfl, .block opens inner⟩
  | nil closes =>
    -- The brace itself is left here, so there has to be one in its place.
    obtain ⟨token, later, brace, rfl, closes'⟩ :=
      operator?_of_braced (resumes.2 ⟨_, _, rfl, Token.value_of_operator? closes⟩)
    exact ⟨[], rfl, .nil closes'⟩
  | @cons token _ _ _ _ _ other first _ ihFirst ihLater =>
    obtain ⟨back, rfl, later⟩ := ihLater resumes
    -- If there are no statements behind the first one, it is followed by what replaces the rest.
    obtain ⟨front, split, first'⟩ := ihFirst (resumes.append back)
    obtain ⟨_, front, rfl⟩ := List.exists_cons_of_ne_nil (first.ne_nil split)
    cases split
    refine ⟨token :: (front ++ back), by simp, ?_⟩
    rw [List.cons_append, List.append_assoc]
    exact .cons other first' later

end Parser

end Bashling
