import Bashling.Proofs.Expression

/-!
# The language of expressions

Which strings of tokens are expressions, said without the parser. A level of precedence either
repeats an operator between operands, or puts operators in front of its operand, or is one of two
exceptions: an atom, and a comparison, which has at most one operator. Here repetition is iteration
for every level. The parser repeats some levels by calling them again on the right of an operator,
so that it accepts the same strings is a theorem (`Reads.sentence`).
-/

namespace Bashling.Grammar

/-- `Iterated level first operators later`: the level is `first (operator later)*`. -/
inductive Iterated : Level → Level → List Operator → Level → Prop where
  | power : Iterated .power .atom [.power] .sign
  | product : Iterated .product .sign [.star, .slash, .percent] .sign
  | sum : Iterated .sum .product [.plus, .minus] .product
  | conjunction : Iterated .conjunction .negation [.and] .negation
  | disjunction : Iterated .disjunction .conjunction [.or] .conjunction

/-- `Prefixed level operand operators`: the level is `operator* operand`. -/
inductive Prefixed : Level → Level → List Operator → Prop where
  | sign : Prefixed .sign .power [.plus, .minus]
  | negation : Prefixed .negation .comparison [.not]

def comparisons : List Operator :=
  [.equals, .notEquals, .less, .lessEqual, .more, .moreEqual]

/-- The strings of tokens that are expressions of a level, wherever the tokens stand. -/
inductive Sentence : Level → List Token → Prop where
  | number (start stop value) : Sentence .atom [⟨start, stop, .number value⟩]
  | identifier (start stop name) : Sentence .atom [⟨start, stop, .identifier name⟩]
  | parens {ts} (start stop start' stop') (inner : Sentence .sum ts) :
      Sentence .atom
        (⟨start, stop, .operator .leftParen⟩ :: ts ++ [⟨start', stop', .operator .rightParen⟩])
  | first {level first operators later ts} (iterated : Iterated level first operators later)
      (operand : Sentence first ts) : Sentence level ts
  | more {level first operators later kind ts ts'} (start stop)
      (iterated : Iterated level first operators later) (front : Sentence level ts)
      (among : kind ∈ operators) (operand : Sentence later ts') :
      Sentence level (ts ++ ⟨start, stop, .operator kind⟩ :: ts')
  | unsigned {level operand operators ts} (prefixed : Prefixed level operand operators)
      (inner : Sentence operand ts) : Sentence level ts
  | signed {level operand operators kind ts} (start stop)
      (prefixed : Prefixed level operand operators) (among : kind ∈ operators)
      (inner : Sentence level ts) : Sentence level (⟨start, stop, .operator kind⟩ :: ts)
  | lone {ts} (operand : Sentence .sum ts) : Sentence .comparison ts
  | compared {kind ts ts'} (start stop) (left : Sentence .sum ts) (among : kind ∈ comparisons)
      (right : Sentence .sum ts') :
      Sentence .comparison (ts ++ ⟨start, stop, .operator kind⟩ :: ts')

theorem Iterated.unique {level first first' later later' : Level}
    {operators operators' : List Operator} (one : Iterated level first operators later)
    (other : Iterated level first' operators' later') :
    first = first' ∧ operators = operators' ∧ later = later' := by
  cases one <;> cases other <;> exact ⟨rfl, rfl, rfl⟩

/-- Where a level iterates over its own first operand, two of its expressions can be joined. -/
theorem Sentence.join {level first : Level} {operators : List Operator} {kind : Operator}
    {ts ts' : List Token} (start stop : Position) (iterated : Iterated level first operators first)
    (front : Sentence level ts) (among : kind ∈ operators) (back : Sentence level ts') :
    Sentence level (ts ++ ⟨start, stop, .operator kind⟩ :: ts') := by
  induction back with
  | number | identifier | parens => cases iterated
  | first same operand =>
    obtain ⟨rfl, rfl, rfl⟩ := iterated.unique same
    exact .more start stop iterated front among operand
  | more start' stop' same _ among' operand ih =>
    -- The last operand of the back becomes the last one of the whole.
    obtain ⟨rfl, rfl, rfl⟩ := iterated.unique same
    have joined := Sentence.more start' stop' iterated (ih iterated front) among' operand
    simpa using joined
  | unsigned prefixed => cases prefixed <;> cases iterated
  | signed _ _ prefixed => cases prefixed <;> cases iterated
  | lone | compared => cases iterated

/-! ### The shapes of the levels -/

theorem prefixed_of_shape {level operand : Level} {operators : List Operator}
    (shaped : level.shape = .signed operand operators) : Prefixed level operand operators := by
  cases level <;> cases shaped <;> constructor

/-- A level that repeats is an iterated one. What it reads after an operator is the operand of the
iteration or, if that is its first operand, the level itself. -/
theorem iterated_of_shape {level first later : Level} {operators : List Operator}
    (shaped : level.shape = .chain first later operators true) :
    Iterated level first operators later ∨
      (Iterated level first operators first ∧ later = level) := by
  cases level <;> cases shaped
  · exact .inr ⟨.disjunction, rfl⟩
  · exact .inr ⟨.conjunction, rfl⟩
  · exact .inr ⟨.sum, rfl⟩
  · exact .inl .product
  · exact .inl .power

theorem comparison_of_shape {level first later : Level} {operators : List Operator}
    (shaped : level.shape = .chain first later operators false) :
    level = .comparison ∧ first = .sum ∧ later = .sum ∧ operators = comparisons := by
  cases level <;> cases shaped
  exact ⟨rfl, rfl, rfl, rfl⟩

private theorem Sentence.of_first {level first later : Level} {operators : List Operator}
    {ts : List Token} (shaped : level.shape = .chain first later operators true)
    (operand : Sentence first ts) : Sentence level ts := by
  rcases iterated_of_shape shaped with iterated | ⟨iterated, _⟩
  · exact .first iterated operand
  · exact .first iterated operand

private theorem Sentence.of_later {level first later : Level} {operators : List Operator}
    {kind : Operator} {ts ts' : List Token} (start stop : Position)
    (shaped : level.shape = .chain first later operators true) (front : Sentence level ts)
    (among : kind ∈ operators) (operand : Sentence later ts') :
    Sentence level (ts ++ ⟨start, stop, .operator kind⟩ :: ts') := by
  rcases iterated_of_shape shaped with iterated | ⟨iterated, rfl⟩
  · exact .more start stop iterated front among operand
  · exact .join start stop iterated front among operand

end Bashling.Grammar

namespace Bashling.Token

/-- A token that is one of some operators, taken apart. -/
theorem operator?_eq_some {token : Token} {operators : List Operator} {operator : Located Operator}
    (found : token.operator? operators = some operator) :
    token = ⟨operator.start, operator.stop, .operator operator.value⟩ ∧
      operator.value ∈ operators := by
  obtain ⟨start, stop, lexeme⟩ := token
  cases lexeme with
  | operator kind =>
    simp only [operator?] at found
    split at found
    next among =>
      cases found
      exact ⟨rfl, among⟩
    · cases found
  | _ => cases found

theorem operator?_of_mem {operator : Located Operator} {operators : List Operator}
    (among : operator.value ∈ operators) :
    operator? (operator.map .operator) operators = some operator := by
  simp [operator?, Located.map, among]

theorem operator?_eq_none_iff {token : Token} {operators : List Operator} :
    token.operator? operators = none ↔ ∀ kind ∈ operators, token.value ≠ .operator kind := by
  obtain ⟨start, stop, lexeme⟩ := token
  cases lexeme with
  | operator found =>
    constructor
    · intro other kind member equal
      cases equal
      simp [operator?, member] at other
    · intro different
      have absent : found ∉ operators := fun member => different found member rfl
      simp [operator?, absent]
  | _ => simp [operator?]

theorem notMem_of_operator?_eq_none {start stop : Position} {kind : Operator}
    {operators : List Operator}
    (other : operator? ⟨start, stop, .operator kind⟩ operators = none) : kind ∉ operators :=
  fun member => operator?_eq_none_iff.mp other kind member rfl

theorem operator?_nil (token : Token) : token.operator? [] = none := by
  simp [operator?_eq_none_iff]

theorem operator?_eq_none_of_subset {token : Token} {operators operators' : List Operator}
    (subset : operators' ⊆ operators) (other : token.operator? operators = none) :
    token.operator? operators' = none := by
  rw [operator?_eq_none_iff] at other ⊢
  exact fun kind member => other kind (subset member)

theorem operator?_append_eq_none {token : Token} {operators operators' : List Operator}
    (other : token.operator? operators = none) (other' : token.operator? operators' = none) :
    token.operator? (operators ++ operators') = none := by
  rw [operator?_eq_none_iff] at other other' ⊢
  intro kind member
  rcases List.mem_append.mp member with inFirst | inSecond
  · exact other kind inFirst
  · exact other' kind inSecond

end Bashling.Token

namespace Bashling.Parser

open Grammar

/-- The strings that a rule may take. What continues a chain makes an expression of the level out of
what stands in front of it. -/
def Spans : Rule → List Token → Prop
  | .expression level, ts => Sentence level ts
  | .chain later operators repeats _, ts => ∀ level first front,
      level.shape = .chain first later operators repeats →
      Sentence (if repeats then level else first) front → Sentence level (front ++ ts)

private theorem Reads.spans {rule : Rule} {ts rest : List Token} {node : Node}
    (read : Reads rule ts node rest) : ∃ taken, ts = taken ++ rest ∧ Spans rule taken := by
  induction read with
  | @operands level first later operators repeats _ _ _ _ _ shaped _ _ ihHead ihTail =>
    obtain ⟨front, rfl, head⟩ := ihHead
    obtain ⟨back, rfl, tail⟩ := ihTail
    refine ⟨front ++ back, by simp, tail level first front shaped ?_⟩
    cases repeats with
    | false => exact head
    | true => exact head.of_first shaped
  | signed shaped sign _ ih =>
    obtain ⟨taken, rfl, inner⟩ := ih
    obtain ⟨rfl, among⟩ := Token.operator?_eq_some sign
    exact ⟨_ :: taken, rfl, .signed _ _ (prefixed_of_shape shaped) among inner⟩
  | unsigned shaped _ _ ih =>
    obtain ⟨taken, split, inner⟩ := ih
    exact ⟨taken, split, .unsigned (prefixed_of_shape shaped) inner⟩
  | number start stop value rest => exact ⟨[_], rfl, .number start stop value⟩
  | identifier start stop name rest => exact ⟨[_], rfl, .identifier start stop name⟩
  | @parens start stop operator _ _ _ _ _ closes ih =>
    obtain ⟨taken, rfl, inner⟩ := ih
    obtain ⟨rfl, among⟩ := Token.operator?_eq_some closes
    rw [List.mem_singleton.mp among]
    have enclosed := Sentence.parens start stop operator.start operator.stop inner
    exact ⟨_, by simp, enclosed⟩
  | stop repeats left _ =>
    refine ⟨[], rfl, fun level first front shaped sentence => ?_⟩
    rw [List.append_nil]
    cases repeats with
    | false =>
      obtain ⟨rfl, rfl, -, -⟩ := comparison_of_shape shaped
      exact .lone sentence
    | true => exact sentence
  | once join _ ih =>
    obtain ⟨taken, rfl, operand⟩ := ih
    obtain ⟨rfl, among⟩ := Token.operator?_eq_some join
    -- Only a comparison takes one operator and stops.
    refine ⟨_ :: taken, rfl, fun level first front shaped sentence => ?_⟩
    obtain ⟨rfl, rfl, rfl, rfl⟩ := comparison_of_shape shaped
    exact .compared _ _ sentence among operand
  | @more _ _ operator _ _ _ _ _ _ _ join _ _ ihOperand ihTail =>
    obtain ⟨operand, rfl, spans⟩ := ihOperand
    obtain ⟨back, rfl, tail⟩ := ihTail
    obtain ⟨rfl, among⟩ := Token.operator?_eq_some join
    refine ⟨⟨operator.start, operator.stop, .operator operator.value⟩ :: (operand ++ back),
      by simp, fun level first front shaped sentence => ?_⟩
    have longer := Sentence.of_later operator.start operator.stop shaped sentence among spans
    simpa using tail level first _ shaped longer

/-- What the parser reads as an expression of a level is one. -/
theorem Reads.sentence {level : Level} {ts rest : List Token} {node : Node}
    (read : Reads (.expression level) ts node rest) :
    ∃ taken, ts = taken ++ rest ∧ Sentence level taken :=
  read.spans

end Bashling.Parser
