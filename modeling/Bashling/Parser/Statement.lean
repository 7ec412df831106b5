import Bashling.Parser.Expression

/-!
# Parsing statements

A statement is a `let`, a function, or an expression. A `let` assigns a statement and ends with a
semicolon; a function has parameters and a block. A block reads statements up to a closing brace
and leaves that brace in the stream.
-/

namespace Bashling.Parser

variable {σ : Type} [TokenSource σ]

/-- Reads a parameter and its type, or nothing if no name comes next. -/
def parameter (s : Stream σ) : Reply σ (Option Parameter) (s.size + 1) :=
  match s.glance with
  | .failed failure rest => .failed failure rest
  | .seen token kept rest within less =>
    match token.identifier? with
    | none => .unmoved none kept within
    | some name =>
      (((expectOperator rest .colon (.invalidParameter .colon)).andThen fun _ after shorter =>
        ((after.expect Token.identifier? (.missingType name.value)).map fun type =>
          some ⟨name, type⟩).onRest shorter).onRest less).loosen

/-- Reads parameters between commas; a comma may also follow the last one. -/
def parameters (s : Stream σ) : Reply σ (List Parameter) (s.size + 1) :=
  (parameter s).andThen fun found rest less =>
    match found with
    | none => .done [] rest less
    | some first =>
      match rest.glance with
      | .failed failure rest => .failed failure rest
      | .seen token kept after within shorter =>
        match token.operator? [.comma] with
        | none => (Reply.unmoved [first] kept within).widen less
        | some _ => (((parameters after).map (first :: ·)).widen shorter).onRest less
termination_by s.size
decreasing_by omega

mutual

/-- Reads a statement. -/
def statement (s : Stream σ) : Reply σ Node s.size :=
  match s.glance with
  | .failed failure rest => .failed failure rest
  | .seen token kept rest within less =>
    match token with
    | ⟨start, stop, .keyword .let⟩ =>
      ((assignment rest).andThen fun assigned after shorter =>
        ((expectOperator after .semicolon .missingSemicolon).map fun _ =>
          .letStatement ⟨start, stop, .let⟩ assigned).onRest shorter).onRest less
    | ⟨start, stop, .keyword .func⟩ =>
      ((declaration rest).map (.funcStatement ⟨start, stop, .func⟩)).onRest less
    | _ => (expression .disjunction kept).widen within
termination_by 2 * s.size
decreasing_by all_goals omega

/-- Reads a name, an assignment sign and the statement that is assigned. -/
def assignment (s : Stream σ) : Reply σ Node s.size :=
  (s.expect Token.identifier? .missingTarget).andThen fun target rest less =>
    ((expectOperator rest .assign (.missingAssign target.value)).andThen fun _ after shorter =>
      ((statement after).map (.assignment target)).onRest shorter).onRest less
termination_by 2 * s.size
decreasing_by omega

/-- Reads the name, the parameters and the body of a function. -/
def declaration (s : Stream σ) : Reply σ Node s.size :=
  (s.expect Token.identifier? .missingFunctionName).andThen fun name opening less =>
    ((expectOperator opening .leftParen .missingLeftParen).andThen fun _ inside shorter =>
      ((parameters inside).andThen fun items closing within =>
        ((expectOperator closing .rightParen .missingRightParen).andThen fun _ rest last =>
          ((block rest).map (.declaration name (.parameters (items.map .parameter)))).onRest
            last).onRest within).widen shorter).onRest less
termination_by 2 * s.size
decreasing_by omega

/-- Reads an opening brace and the statements before the next closing one. -/
def block (s : Stream σ) : Reply σ Node s.size :=
  (expectOperator s .leftBrace .missingLeftBrace).andThen fun _ rest less =>
    ((statements rest).map .block).widen less
termination_by 2 * s.size
decreasing_by omega

/-- Reads statements as long as no closing brace comes next. -/
def statements (s : Stream σ) : Reply σ (List Node) (s.size + 1) :=
  match s.glance with
  | .failed failure rest => .failed failure rest
  | .seen token kept _ within _ =>
    match token.operator? [.rightBrace] with
    | some _ => .unmoved [] kept within
    | none =>
      (((statement kept).andThen fun first rest less =>
        ((statements rest).map (first :: ·)).widen less).widen within).loosen
termination_by 2 * s.size + 1
decreasing_by all_goals omega

end

end Bashling.Parser

namespace Bashling

/-- Reads the statement that comes next in a stream. -/
def Lookahead.parse {σ : Type} [TokenSource σ] (s : Stream σ) : Except Failure Node × Stream σ :=
  (Parser.statement s).outcome

end Bashling
