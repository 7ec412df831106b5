import Bashling.Proofs.Grouping

/-!
# Functions are read as they are written

A function is written with a name, parameters between parentheses, and a body between braces. Here
the body is a list of `let` statements, each of which assigns an expression or another `let`. The
words around such parts are given by their places (`LetWords`, `FunctionWords`), together with the
tokens they make and the tree these tokens stand for. Whatever the parts are, the parser builds that
tree (`parse_written_function`).

A `let` ends with its semicolon, so it is read in the same way whatever follows it. The expression
in it is followed by the semicolon, which continues no expression.
-/

namespace Bashling

/-- Where a word starts and where it ends. -/
structure Span where
  start : Position
  stop : Position

def Span.locate {α : Type} (span : Span) (value : α) : Located α :=
  ⟨span.start, span.stop, value⟩

def Span.mark (span : Span) (kind : Operator) : Token :=
  span.locate (.operator kind)

/-- The words of a `let` around what it assigns. -/
structure LetWords where
  keyword : Span
  target : Located String
  sign : Span
  semicolon : Span

namespace LetWords

def tokens (words : LetWords) (assigned : List Token) : List Token :=
  words.keyword.locate (.keyword .let) :: words.target.map .identifier ::
    words.sign.mark .assign :: (assigned ++ [words.semicolon.mark .semicolon])

def node (words : LetWords) (value : Node) : Node :=
  .letStatement (words.keyword.locate .let) (.assignment words.target value)

end LetWords

/-- The tokens with which a `let` is written that assigns an expression, or a `let` again. -/
inductive WrittenLet : Node → List Token → Prop where
  | expression {value ts} (words : LetWords) (full : Parser.ReadInFull .disjunction ts value) :
      WrittenLet (words.node value) (words.tokens ts)
  | again {value ts} (words : LetWords) (inner : WrittenLet value ts) :
      WrittenLet (words.node value) (words.tokens ts)

/-- The tokens with which parameters are written, with commas between them. A comma may also follow
the last one. -/
inductive WrittenParameters : List Parameter → List Token → Prop where
  | none : WrittenParameters [] []
  | last (item : Parameter) (colon : Span) :
      WrittenParameters [item]
        [item.name.map .identifier, colon.mark .colon, item.type.map .identifier]
  | more {items ts} (item : Parameter) (colon comma : Span) (later : WrittenParameters items ts) :
      WrittenParameters (item :: items)
        (item.name.map .identifier :: colon.mark .colon :: item.type.map .identifier ::
          comma.mark .comma :: ts)

/-- The words of a function around its parameters and its body. -/
structure FunctionWords where
  keyword : Span
  name : Located String
  leftParen : Span
  rightParen : Span
  leftBrace : Span
  rightBrace : Span

namespace FunctionWords

def tokens (words : FunctionWords) (listed body : List Token) : List Token :=
  words.keyword.locate (.keyword .func) :: words.name.map .identifier ::
    words.leftParen.mark .leftParen :: (listed ++ words.rightParen.mark .rightParen ::
      words.leftBrace.mark .leftBrace :: (body ++ [words.rightBrace.mark .rightBrace]))

def node (words : FunctionWords) (items : List Parameter) (statements : List Node) : Node :=
  .funcStatement (words.keyword.locate .func)
    (.declaration words.name (.parameters (items.map .parameter)) (.block statements))

end FunctionWords

open Bashling.Parser

/-! ### Parts of a function -/

/-- A `let` is read if what it assigns is read in front of the semicolon. -/
theorem LetWords.reads (words : LetWords) {value : Node} {ts rest : List Token}
    (read : ReadsPhrase .statement (ts ++ words.semicolon.mark .semicolon :: rest) value
      (words.semicolon.mark .semicolon :: rest)) :
    ReadsPhrase .statement (words.tokens ts ++ rest) (words.node value) rest := by
  have split : words.tokens ts ++ rest =
      words.keyword.locate (.keyword .let) :: words.target.map .identifier ::
        words.sign.mark .assign :: (ts ++ words.semicolon.mark .semicolon :: rest) := by
    simp [tokens]
  rw [split]
  exact .letStatement (.assignment rfl rfl read) rfl

theorem WrittenLet.reads {node : Node} {ts : List Token} (written : WrittenLet node ts)
    (rest : List Token) : ReadsPhrase .statement (ts ++ rest) node rest := by
  induction written generalizing rest with
  | expression words full => exact words.reads (full.reads rfl rest).statement
  | again words _ ih => exact words.reads (ih _)

/-- The statements in front of the closing brace, one after the other. -/
private theorem reads_lets (brace : Span) (rest : List Token) (lets : List (Node × List Token))
    (written : ∀ part ∈ lets, WrittenLet part.1 part.2) :
    ReadsPhrase .statements (lets.flatMap Prod.snd ++ brace.mark .rightBrace :: rest)
      (.block (lets.map Prod.fst)) (brace.mark .rightBrace :: rest) := by
  induction lets with
  | nil => exact .nil rfl
  | cons part lets ih =>
    obtain ⟨node, ts⟩ := part
    obtain ⟨first, later⟩ := List.forall_mem_cons.mp written
    have read := first.reads (lets.flatMap Prod.snd ++ brace.mark .rightBrace :: rest)
    rw [List.flatMap_cons, List.append_assoc]
    -- A `let` starts with its keyword, so the statements have not come to their end.
    cases first with
    | expression | again => exact .cons rfl read (ih later)

theorem WrittenParameters.reads {items : List Parameter} {ts : List Token}
    (written : WrittenParameters items ts) (paren : Span) (rest : List Token) :
    ReadsParameters (ts ++ paren.mark .rightParen :: rest) items
      (paren.mark .rightParen :: rest) := by
  induction written with
  | none => exact .none rfl
  | last item colon => exact .last rfl rfl rfl rfl
  | more item colon comma _ ih => exact .more rfl rfl rfl rfl ih

/-! ### Whole functions -/

theorem FunctionWords.reads (words : FunctionWords) {items : List Parameter} {listed : List Token}
    (parameters : WrittenParameters items listed) (lets : List (Node × List Token))
    (written : ∀ part ∈ lets, WrittenLet part.1 part.2) (later : List Token) :
    ReadsPhrase .statement (words.tokens listed (lets.flatMap Prod.snd) ++ later)
      (words.node items (lets.map Prod.fst)) (words.rightBrace.mark .rightBrace :: later) := by
  have body : ReadsPhrase .block
      (words.leftBrace.mark .leftBrace ::
        (lets.flatMap Prod.snd ++ words.rightBrace.mark .rightBrace :: later))
      (.block (lets.map Prod.fst)) (words.rightBrace.mark .rightBrace :: later) :=
    .block rfl (reads_lets words.rightBrace later lets written)
  have split : words.tokens listed (lets.flatMap Prod.snd) ++ later =
      words.keyword.locate (.keyword .func) :: words.name.map .identifier ::
        words.leftParen.mark .leftParen :: (listed ++ words.rightParen.mark .rightParen ::
          words.leftBrace.mark .leftBrace ::
            (lets.flatMap Prod.snd ++ words.rightBrace.mark .rightBrace :: later)) := by
    simp [tokens]
  rw [split]
  exact .funcStatement (.declaration rfl rfl (parameters.reads words.rightParen _) rfl body)

/-- A function whose body is a list of `let` statements is parsed to the tree that it was written
for: its parameters in order, with or without a comma behind the last one, and its statements in
order, all with their own tokens. Nothing of what follows the function is taken. -/
theorem parse_written_function (words : FunctionWords) (items : List Parameter)
    (listed : List Token) (parameters : WrittenParameters items listed)
    (lets : List (Node × List Token)) (written : ∀ part ∈ lets, WrittenLet part.1 part.2)
    (later : List Token) :
    ∃ rest, (Lookahead.ofTokens (words.tokens listed (lets.flatMap Prod.snd) ++ later)).parse =
        (.ok (words.node items (lets.map Prod.fst)), rest) ∧
      rest.ahead = words.rightBrace.mark .rightBrace :: later := by
  have read := words.reads parameters lets written later
  obtain ⟨rest, built, shown, -⟩ := (read.gives _ (Lookahead.ahead_ofTokens _)).outcome
  exact ⟨rest, built, shown⟩

/-- Two parameters with a comma behind the second one, a `let` inside a `let`, and another one. -/
theorem parse_written_function_nested_let :
    let text := "func f(a: int, b: str,) \x7b let x = let y = a < b; ; let z = !x; \x7d".toList
    let span (first last : Int) : Span := ⟨⟨1, first⟩, ⟨1, last⟩⟩
    let name (first last : Int) (text : String) : Located String := (span first last).locate text
    let words : FunctionWords :=
      ⟨span 1 4, name 6 6 "f", span 7 7, span 23 23, span 25 25, span 64 64⟩
    let items : List Parameter :=
      [⟨name 8 8 "a", name 11 13 "int"⟩, ⟨name 16 16 "b", name 19 21 "str"⟩]
    let outer : LetWords := ⟨span 27 29, name 31 31 "x", span 33 33, span 50 50⟩
    let inner : LetWords := ⟨span 35 37, name 39 39 "y", span 41 41, span 48 48⟩
    let last : LetWords := ⟨span 52 54, name 56 56 "z", span 58 58, span 62 62⟩
    let compared : Node := .binary (.identifier (name 43 43 "a")) ((span 45 45).locate .less)
      (.identifier (name 47 47 "b"))
    let negated : Node := .unary ((span 60 60).locate .not) (.identifier (name 61 61 "x"))
    ∃ rest, (Lookahead.ofTokens (Lexer.ofText text).tokens.1).parse =
        (.ok (words.node items [outer.node (inner.node compared), last.node negated]), rest) ∧
      rest.ahead = [(span 64 64).mark .rightBrace, (span 65 65).locate .eof] := by
  intro text span name words items outer inner last compared negated
  let listed : List Token :=
    [(name 8 8 "a").map .identifier, (span 9 9).mark .colon, (name 11 13 "int").map .identifier,
     (span 14 14).mark .comma, (name 16 16 "b").map .identifier, (span 17 17).mark .colon,
     (name 19 21 "str").map .identifier, (span 22 22).mark .comma]
  have parameters : WrittenParameters items listed := .more _ _ _ (.more _ _ _ .none)
  let comparison : List Token :=
    [(name 43 43 "a").map .identifier, (span 45 45).mark .less, (name 47 47 "b").map .identifier]
  let negation : List Token := [(span 60 60).mark .not, (name 61 61 "x").map .identifier]
  let eof : Token := (span 65 65).locate .eof
  have fullComparison : ReadInFull .disjunction comparison compared := by
    have read : Reads (.expression .comparison) (comparison ++ [eof]) compared [eof] :=
      .operands rfl (reads_name .sum _ _ _ _ _ rfl) (.once rfl (reads_name .sum _ _ _ _ _ rfl))
    exact (read.climb .disjunction (by decide) (fun _ _ _ _ _ => rfl) rfl).inFull
  have fullNegation : ReadInFull .disjunction negation negated := by
    have read : Reads (.expression .negation) (negation ++ [eof]) negated [eof] :=
      .signed rfl rfl (reads_name .negation _ _ _ _ _ rfl)
    refine (read.climb .disjunction (by decide) ?_ rfl).inFull
    intro level operand operators shaped above
    cases level <;> cases shaped <;> exact absurd above (by decide)
  let lets : List (Node × List Token) :=
    [(outer.node (inner.node compared), outer.tokens (inner.tokens comparison)),
     (last.node negated, last.tokens negation)]
  have written : ∀ part ∈ lets, WrittenLet part.1 part.2 := by
    simp only [lets, List.forall_mem_cons]
    exact ⟨.again outer (.expression inner fullComparison), .expression last fullNegation, by simp⟩
  have spelled : (Lexer.ofText text).tokens.1 =
      words.tokens listed (lets.flatMap Prod.snd) ++ [eof] := by decide +kernel
  rw [spelled]
  exact parse_written_function words items listed parameters lets written [eof]

end Bashling
