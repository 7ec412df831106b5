import Bashling.Proofs.Totality

/-!
# A tree keeps its tokens

The tokens of a tree, from left to right, are those that were taken to build it, less the
punctuation: parentheses and opening braces, commas and colons between parameters, and the signs
that belong to a `let`. So a parse loses nothing else, and neither repeats a token nor moves it
(`parse_keeps_tokens`). A rule that goes on with a chain adds its tokens behind those of the tree
that was built before.
-/

namespace Bashling

mutual

/-- The tokens of a tree in the order in which they are written. -/
def Node.tokens : Node → List Token
  | .bare => []
  | .identifier name => [name.map .identifier]
  | .number literal => [literal.map .number]
  | .string literal => [literal.map .string]
  | .unary operator operand => operator.map .operator :: operand.tokens
  | .binary left operator right => left.tokens ++ operator.map .operator :: right.tokens
  | .parameter item => [item.name.map .identifier, item.type.map .identifier]
  | .parameters items => Node.tokensAll items
  | .block statements => Node.tokensAll statements
  | .assignment target value => target.map .identifier :: value.tokens
  | .letStatement keyword assigned => keyword.map .keyword :: assigned.tokens
  | .declaration name items body => name.map .identifier :: (items.tokens ++ body.tokens)
  | .funcStatement keyword declared => keyword.map .keyword :: declared.tokens

def Node.tokensAll : List Node → List Token
  | [] => []
  | node :: nodes => node.tokens ++ Node.tokensAll nodes

end

/-- The operators that are written and not kept. -/
def punctuation : List Operator :=
  [.leftParen, .rightParen, .leftBrace, .comma, .colon, .assign, .semicolon]

/-- Some tokens without the punctuation. -/
def kept (ts : List Token) : List Token :=
  ts.filter fun token => (token.operator? punctuation).isNone

section Kept

variable {token : Token} {ts ts' : List Token} {operator : Located Operator}
  {operators : List Operator}

@[simp] theorem kept_nil : kept [] = [] := rfl

@[simp] theorem kept_append : kept (ts ++ ts') = kept ts ++ kept ts' :=
  List.filter_append ts ts'

private theorem kept_cons (noSign : token.operator? punctuation = none) :
    kept (token :: ts) = token :: kept ts := by
  simp [kept, noSign]

private theorem kept_operator (found : token.operator? operators = some operator)
    (counted : ∀ kind ∈ operators, kind ∉ punctuation) :
    kept (token :: ts) = operator.map .operator :: kept ts := by
  obtain ⟨rfl, among⟩ := Token.operator?_eq_some found
  refine kept_cons ?_
  simp [Token.operator?, counted operator.value among]

private theorem kept_punctuation {kind : Operator} (found : token.operator? [kind] = some operator)
    (among : kind ∈ punctuation) : kept (token :: ts) = kept ts := by
  obtain ⟨rfl, member⟩ := Token.operator?_eq_some found
  rw [List.mem_singleton.mp member]
  simp [kept, Token.operator?, among]

private theorem kept_identifier {name : Located String} (found : token.identifier? = some name) :
    kept (token :: ts) = name.map .identifier :: kept ts := by
  obtain ⟨start, stop, lexeme⟩ := token
  cases lexeme with
  | identifier text =>
    cases found
    exact kept_cons rfl
  | _ => cases found

end Kept

namespace Parser

/-! ### Expressions -/

/-- What a rule has kept of the tokens it took. -/
def Keeps (taken : List Token) (node : Node) : Rule → Prop
  | .expression _ => node.tokens = kept taken
  | .chain _ operators _ left => (∀ kind ∈ operators, kind ∉ punctuation) →
      node.tokens = left.tokens ++ kept taken

private theorem notMem_punctuation_of_chain {level first later : Level} {operators : List Operator}
    {repeats : Bool} (shaped : level.shape = .chain first later operators repeats) :
    ∀ kind ∈ operators, kind ∉ punctuation := by
  cases level <;> cases shaped <;> decide

private theorem notMem_punctuation_of_signed {level operand : Level} {operators : List Operator}
    (shaped : level.shape = .signed operand operators) :
    ∀ kind ∈ operators, kind ∉ punctuation := by
  cases level <;> cases shaped <;> decide

theorem Reads.keeps {rule : Rule} {ts rest : List Token} {node : Node}
    (read : Reads rule ts node rest) : ∃ taken, ts = taken ++ rest ∧ Keeps taken node rule := by
  induction read with
  | operands shaped _ _ ihHead ihTail =>
    obtain ⟨front, rfl, head⟩ := ihHead
    obtain ⟨back, rfl, tail⟩ := ihTail
    refine ⟨front ++ back, by simp, ?_⟩
    have whole := tail (notMem_punctuation_of_chain shaped)
    rw [Keeps] at head ⊢
    rw [whole, head, kept_append]
  | @signed _ _ _ _ _ _ _ token shaped sign _ ih =>
    obtain ⟨taken, rfl, inner⟩ := ih
    refine ⟨token :: taken, rfl, ?_⟩
    rw [Keeps] at inner ⊢
    rw [Node.tokens, inner, kept_operator sign (notMem_punctuation_of_signed shaped)]
  | unsigned _ _ _ ih => exact ih
  | number start stop value => exact ⟨[_], rfl, rfl⟩
  | identifier start stop name => exact ⟨[_], rfl, rfl⟩
  | @parens start stop _ _ _ _ closing _ closes ih =>
    obtain ⟨taken, rfl, inner⟩ := ih
    let opening : Token := ⟨start, stop, .operator .leftParen⟩
    have opens : opening.operator? [.leftParen] = some ⟨start, stop, .leftParen⟩ := rfl
    -- The parentheses leave no trace in the tree, and none among the tokens that are kept.
    refine ⟨opening :: (taken ++ [closing]), by simp [opening], ?_⟩
    rw [Keeps] at inner ⊢
    rw [inner, kept_punctuation opens (by decide), kept_append,
      kept_punctuation closes (by decide), kept_nil, List.append_nil]
  | stop repeats left _ => exact ⟨[], rfl, fun _ => by simp⟩
  | @once _ _ _ _ _ _ _ token join _ ih =>
    obtain ⟨taken, rfl, operand⟩ := ih
    refine ⟨token :: taken, rfl, fun counted => ?_⟩
    rw [Keeps] at operand
    rw [Node.tokens, operand, kept_operator join counted]
  | @more _ _ _ _ _ _ _ _ _ token join _ _ ihOperand ihTail =>
    -- The operator was seen before its right operand was read, and stands in front of it.
    obtain ⟨front, rfl, operand⟩ := ihOperand
    obtain ⟨back, rfl, tail⟩ := ihTail
    refine ⟨token :: (front ++ back), by simp, fun counted => ?_⟩
    rw [Keeps] at operand
    rw [tail counted, Node.tokens, operand, kept_operator join counted, kept_append]
    simp

/-! ### Statements -/

theorem ReadsParameters.keeps {ts rest : List Token} {items : List Parameter}
    (read : ReadsParameters ts items rest) :
    ∃ taken, ts = taken ++ rest ∧ Node.tokensAll (items.map .parameter) = kept taken := by
  induction read with
  | none => exact ⟨[], rfl, rfl⟩
  | @last token colon typed _ _ _ _ _ named separates types _ =>
    refine ⟨[token, colon, typed], rfl, ?_⟩
    rw [kept_identifier named, kept_punctuation separates (by decide), kept_identifier types]
    rfl
  | @more token colon typed comma _ _ _ _ _ _ _ named separates types goesOn _ ih =>
    -- Of the four tokens in front, the name and the type are kept.
    obtain ⟨taken, rfl, later⟩ := ih
    refine ⟨token :: colon :: typed :: comma :: taken, rfl, ?_⟩
    rw [kept_identifier named, kept_punctuation separates (by decide), kept_identifier types,
      kept_punctuation goesOn (by decide), ← later]
    rfl

theorem ReadsPhrase.keeps {phrase : Phrase} {ts rest : List Token} {node : Node}
    (read : ReadsPhrase phrase ts node rest) :
    ∃ taken, ts = taken ++ rest ∧ node.tokens = kept taken := by
  induction read with
  | expression _ read => exact read.keeps
  | @letStatement start stop _ _ _ _ token _ ends ih =>
    obtain ⟨taken, rfl, assigned⟩ := ih
    refine ⟨⟨start, stop, .keyword .let⟩ :: (taken ++ [token]), by simp, ?_⟩
    rw [kept_cons rfl, kept_append, kept_punctuation ends (by decide), kept_nil, List.append_nil,
      ← assigned]
    rfl
  | @funcStatement start stop _ _ _ _ ih =>
    obtain ⟨taken, rfl, declared⟩ := ih
    refine ⟨⟨start, stop, .keyword .func⟩ :: taken, rfl, ?_⟩
    rw [kept_cons rfl, ← declared]
    rfl
  | @assignment token sign _ _ _ _ _ named assigns _ ih =>
    obtain ⟨taken, rfl, value⟩ := ih
    refine ⟨token :: sign :: taken, rfl, ?_⟩
    rw [kept_identifier named, kept_punctuation assigns (by decide), ← value, Node.tokens]
  | @declaration token opening closing _ _ _ _ _ _ _ _ named opens listed closes _ ih =>
    obtain ⟨back, rfl, body⟩ := ih
    obtain ⟨front, rfl, items⟩ := listed.keeps
    refine ⟨token :: opening :: (front ++ closing :: back), by simp, ?_⟩
    rw [kept_identifier named, kept_punctuation opens (by decide), kept_append,
      kept_punctuation closes (by decide), ← items, ← body, Node.tokens, Node.tokens]
  | @block token _ _ _ _ opens _ ih =>
    obtain ⟨taken, rfl, statements⟩ := ih
    exact ⟨token :: taken, rfl, by rw [kept_punctuation opens (by decide), statements]⟩
  | nil => exact ⟨[], rfl, rfl⟩
  | cons _ _ _ ihFirst ihLater =>
    obtain ⟨back, rfl, later⟩ := ihLater
    obtain ⟨front, split, first⟩ := ihFirst
    refine ⟨front ++ back, by simp [split], ?_⟩
    rw [kept_append, ← first, ← later, Node.tokens, Node.tokens, Node.tokensAll]

end Parser

/-- The tokens of the tree that a parse builds are those it has taken, in the same order and without
the punctuation. -/
theorem parse_keeps_tokens {σ : Type} [TokenSource σ] (s : Stream σ) (node : Node) (rest : Stream σ)
    (read : s.parse = (.ok node, rest)) :
    ∃ taken, s.ahead = taken ++ rest.ahead ∧ node.tokens = kept taken :=
  ((Parser.statement_runs s).of_outcome_ok read).1.keeps

/-- A function with parameters, a nested `let`, signs and parentheses. -/
theorem parse_keeps_tokens_function :
    let text := "func f(a: t, b: u,) \x7b let x = let y = -(a ** b) < b; ; !x \x7d".toList
    let lexemes : List Lexeme :=
      [.keyword .func, .identifier "f", .identifier "a", .identifier "t", .identifier "b",
       .identifier "u", .keyword .let, .identifier "x", .keyword .let, .identifier "y",
       .operator .minus, .identifier "a", .operator .power, .identifier "b", .operator .less,
       .identifier "b", .operator .not, .identifier "x"]
    let reply := (tokenStream text).parse
    ∃ node taken, reply.1 = .ok node ∧ (tokenStream text).ahead = taken ++ reply.2.ahead ∧
      node.tokens = kept taken ∧ node.tokens.map (·.value) = lexemes := by
  intro text lexemes reply
  have succeeds : reply.1.isOk = true := by decide +kernel
  have listed : reply.1.toOption.map (fun node => node.tokens.map (·.value)) = some lexemes := by
    decide +kernel
  obtain ⟨node, built⟩ := Parser.exists_of_isOk succeeds
  obtain ⟨taken, split, keeps⟩ :=
    parse_keeps_tokens (tokenStream text) node reply.2 (Prod.ext built rfl)
  rw [built] at listed
  exact ⟨node, taken, built, split, keeps, Option.some.inj listed⟩

end Bashling
