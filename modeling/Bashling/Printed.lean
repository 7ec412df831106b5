import Bashling.Failure
import Bashling.Form
import Bashling.Number.Layout
import Bashling.Text.Quoted

/-!
# What tokens, trees and failures look like

Each kind of thing has a name under which it is printed and its fields in a fixed order. A token
shows its place first.
-/

namespace Bashling

/-- A quoted text. -/
def Form.text (text : String) : Form := .atom (Text.quoted text)

def Form.integer (value : Int) : Form := .atom (toString value)

namespace Position

def form (p : Position) : Form :=
  .record "Position" [("row", .integer p.row), ("column", .integer p.column)]

end Position

/-- A member of a closed set, by its name and its spelling. -/
def Form.member (kind label : String) (spelling : List Char) : Form :=
  .atom ("<" ++ kind ++ "." ++ label ++ ": " ++ Text.quoted (String.ofList spelling) ++ ">")

namespace Operator

def form (op : Operator) : Form := .member "Operator" op.label op.spelling

end Operator

namespace Keyword

def form (k : Keyword) : Form := .member "Keyword" k.label k.spelling

end Keyword

namespace Binary64

def form (b : Binary64) : Form := .atom (String.ofList b.text)

end Binary64

namespace Lexeme

/-- The name under which tokens of a kind are printed. -/
def label : Lexeme → String
  | .bare => "BaseToken"
  | .eof => "EOFToken"
  | .number _ => "NumberToken"
  | .string _ => "StringToken"
  | .keyword _ => "KeywordToken"
  | .identifier _ => "IdentifierToken"
  | .operator _ => "OperatorToken"

/-- What a token shows after its place. -/
def fields : Lexeme → List (String × Form)
  | .bare => []
  | .eof => []
  | .number value => [("value", value.form)]
  | .string value => [("value", .text value)]
  | .keyword kind => [("kind", kind.form)]
  | .identifier name => [("name", .text name)]
  | .operator kind => [("kind", kind.form)]

end Lexeme

namespace Token

def form (t : Token) : Form :=
  .record t.value.label
    (("start", t.start.form) :: ("end", t.stop.form) :: t.value.fields)

end Token

namespace Parameter

def form (p : Parameter) : Form :=
  .record "ArgumentNode"
    [("identifier", Token.form (p.name.map .identifier)),
     ("type_identifier", Token.form (p.type.map .identifier))]

end Parameter

namespace Node

/-- The name under which trees of a kind are printed. -/
def label : Node → String
  | .bare => "BaseASTNode"
  | .identifier _ => "IdentifierNode"
  | .number _ => "NumberLiteralNode"
  | .string _ => "StringLiteralNode"
  | .unary .. => "UnaryOperationNode"
  | .binary .. => "BinaryOperationNode"
  | .parameter _ => "ArgumentNode"
  | .parameters _ => "ArgumentsNode"
  | .block _ => "BlockNode"
  | .assignment .. => "AssignmentNode"
  | .letStatement .. => "LetStatementNode"
  | .declaration .. => "FuncDeclerationNode"
  | .funcStatement .. => "FuncStatementNode"

mutual

def form : Node → Form
  | .bare => .record "BaseASTNode" []
  | .identifier name =>
    .record "IdentifierNode" [("identifier", Token.form (name.map .identifier))]
  | .number literal => .record "NumberLiteralNode" [("number", Token.form (literal.map .number))]
  | .string literal => .record "StringLiteralNode" [("string", Token.form (literal.map .string))]
  | .unary operator operand =>
    .record "UnaryOperationNode"
      [("value", operand.form), ("operator", Token.form (operator.map .operator))]
  | .binary left operator right =>
    .record "BinaryOperationNode"
      [("left", left.form), ("right", right.form),
       ("operator", Token.form (operator.map .operator))]
  | .parameter item => item.form
  | .parameters items => .record "ArgumentsNode" [("arguments", .sequence (formAll items))]
  | .block statements => .record "BlockNode" [("statements", .sequence (formAll statements))]
  | .assignment target value =>
    .record "AssignmentNode"
      [("identifier", Token.form (target.map .identifier)), ("value", value.form)]
  | .letStatement keyword assigned =>
    .record "LetStatementNode"
      [("let", Token.form (keyword.map .keyword)), ("assignment", assigned.form)]
  | .declaration name items body =>
    .record "FuncDeclerationNode"
      [("identifier", Token.form (name.map .identifier)), ("arguments", items.form),
       ("block", body.form)]
  | .funcStatement keyword declared =>
    .record "FuncStatementNode"
      [("func", Token.form (keyword.map .keyword)), ("decelration", declared.form)]

def formAll : List Node → List Form
  | [] => []
  | node :: rest => node.form :: formAll rest

end

end Node

namespace Value

mutual

def form : Value → Form
  | .absent => .atom "None"
  | .flag value => .atom (if value then "True" else "False")
  | .integer value => .integer value
  | .text value => .text value
  | .list items => .sequence (formAll items)
  | .token t => t.form
  | .node n => n.form

def formAll : List Value → List Form
  | [] => []
  | value :: rest => value.form :: formAll rest

end

end Value

namespace Family

/-- The name under which a failure that is only stated is printed. -/
def label : Family → String
  | .general => "VDSHError"
  | .exhausted => "IteratorIsOverError"
  | .lexical => "TokenizerError"
  | .grammatical => "ParserError"

end Family

namespace Failure

/-- The name under which failures of a kind are printed. -/
def label : Failure → String
  | .unexpectedCharacter .. => "UnexpectedCharacterError"
  | .invalidOperator .. => "InvalidOperatorError"
  | .unterminatedString _ => "UnterminatedStringError"
  | .invalidNumber .. => "InvalidNumberError"
  | .unclosedParen .. => "UnclosedParenError"
  | .unexpectedToken _ => "UnexpectedTokenError"
  | .invalidParameter .. => "InvalidArgumentDeclarationError"
  | .missingTarget _ => "MisingIdentifierInAssignmentError"
  | .missingAssign .. => "MissingAssignInAssignmentError"
  | .missingType .. => "MissingTypeIdentifierError"
  | .missingSemicolon _ => "MissingSemicolonError"
  | .missingLeftBrace _ => "BlockMissingInitialBraceError"
  | .missingAssignedStatement _ => "MissingAssignmentStatementError"
  | .missingFunctionName _ => "MissingIdentifierInFuncDeclerationError"
  | .missingRightParen _ => "MissingRightParenInFuncDeclerationError"
  | .missingLeftParen _ => "MissingLeftParenInFuncDeclerationError"
  | .stated family _ => family.label
  | .unsupported _ => "Unsupported"
  | .lacking .. => "Lacking"
  | .notAList _ => "NotAList"
  | .unplaced => "Unplaced"

/-- The details of a failure, by name. -/
def fields : Failure → List (String × Form)
  | .unexpectedCharacter text position => [("char", .text text), ("position", position.form)]
  | .invalidOperator start stop text | .invalidNumber start stop text =>
    [("start", start.form), ("end", stop.form), ("value", .text text)]
  | .unterminatedString start => [("start", start.form)]
  | .unclosedParen opening inner expected actual =>
    [("opening_token", opening.form), ("parsed_value", inner.form), ("expected", expected.form),
     ("actual", actual.form)]
  | .unexpectedToken token => [("token", token.form)]
  | .invalidParameter expected actual => [("expected", expected.form), ("actual", actual.form)]
  | .missingAssign target actual => [("identifier_name", .text target), ("actual", actual.form)]
  | .missingType parameter actual => [("argument_name", .text parameter), ("actual", actual.form)]
  | .missingAssignedStatement target => [("identifier", target.form)]
  | .missingTarget actual | .missingSemicolon actual | .missingLeftBrace actual
  | .missingFunctionName actual | .missingRightParen actual | .missingLeftParen actual =>
    [("actual", actual.form)]
  | .stated .. | .unplaced => []
  | .unsupported value => [("value", value.form)]
  | .lacking node _ | .notAList node => [("node", node.form)]

/-- A failure that is only stated shows its message, any other one its details. -/
def form (failure : Failure) : Form :=
  match failure with
  | .stated family message => .atom (family.label ++ "(" ++ Text.quoted message ++ ")")
  | failure => .record failure.label failure.fields

end Failure
end Bashling
