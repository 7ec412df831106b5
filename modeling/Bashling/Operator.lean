/-!
# Operators

The arithmetic, comparison and boolean operators and the punctuation of the language, in the order
in which they are listed. Some spellings begin others: `*` and `**`, `:` and `::`, `-` and `->`.
-/

namespace Bashling

inductive Operator where
  | plus | minus | star | slash | power | percent
  | assign
  | equals | notEquals | less | lessEqual | more | moreEqual
  | and | or | not
  | leftParen | rightParen | leftBrace | rightBrace | leftBracket | rightBracket
  | comma | colon | semicolon | doubleColon
  | arrow
  deriving DecidableEq, Repr

namespace Operator

def all : List Operator :=
  [.plus, .minus, .star, .slash, .power, .percent, .assign,
   .equals, .notEquals, .less, .lessEqual, .more, .moreEqual, .and, .or, .not,
   .leftParen, .rightParen, .leftBrace, .rightBrace, .leftBracket, .rightBracket,
   .comma, .colon, .semicolon, .doubleColon, .arrow]

def spelling : Operator → List Char
  | .plus => ['+']
  | .minus => ['-']
  | .star => ['*']
  | .slash => ['/']
  | .power => ['*', '*']
  | .percent => ['%']
  | .assign => ['=']
  | .equals => ['=', '=']
  | .notEquals => ['!', '=']
  | .less => ['<']
  | .lessEqual => ['<', '=']
  | .more => ['>']
  | .moreEqual => ['>', '=']
  | .and => ['&', '&']
  | .or => ['|', '|']
  | .not => ['!']
  | .leftParen => ['(']
  | .rightParen => [')']
  | .leftBrace => ['\x7b']
  | .rightBrace => ['\x7d']
  | .leftBracket => ['[']
  | .rightBracket => [']']
  | .comma => [',']
  | .colon => [':']
  | .semicolon => [';']
  | .doubleColon => [':', ':']
  | .arrow => ['-', '>']

/-- The name under which an operator is shown. -/
def label : Operator → String
  | .plus => "PLUS"
  | .minus => "MINUS"
  | .star => "STAR"
  | .slash => "SLASH"
  | .power => "POWER"
  | .percent => "PERCENT"
  | .assign => "ASSIGN"
  | .equals => "EQUALS"
  | .notEquals => "NOT_EQUALS"
  | .less => "LESS"
  | .lessEqual => "LESS_EQUAL"
  | .more => "MORE"
  | .moreEqual => "MORE_EQUAL"
  | .and => "AND"
  | .or => "OR"
  | .not => "NOT"
  | .leftParen => "LEFT_PAREN"
  | .rightParen => "RIGHT_PAREN"
  | .leftBrace => "LEFT_BRACE"
  | .rightBrace => "RIGHT_BRACE"
  | .leftBracket => "LEFT_BRACKET"
  | .rightBracket => "RIGHT_BRACKET"
  | .comma => "COMMA"
  | .colon => "COLON"
  | .semicolon => "SEMICOLON"
  | .doubleColon => "DOUBLE_COLON"
  | .arrow => "ARROW"

def ofSpelling? (text : List Char) : Option Operator :=
  all.find? (·.spelling == text)

theorem mem_all (op : Operator) : op ∈ all := by
  cases op <;> decide

theorem ofSpelling?_spelling (op : Operator) : ofSpelling? op.spelling = some op := by
  cases op <;> decide

theorem spelling_of_ofSpelling? {text : List Char} {op : Operator}
    (found : ofSpelling? text = some op) : op.spelling = text := by
  simpa using List.find?_some found

end Operator
end Bashling
