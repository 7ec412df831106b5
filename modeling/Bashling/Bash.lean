import Bashling.Printed

/-!
# Bash text

Expressions become Bash arithmetic, `let` a local variable and a function a Bash function that
copies its positional parameters into local variables, starting with parameter 0. Every name of a
program gets the same stem in front, so that it cannot meet a name of Bash. A whole number is
written out digit by digit. A number that is not whole, and a string, are written as their printed
tokens.

Only some trees have a Bash text. The first one in reading order that has none is the failure, and
so is the first one that lacks a part it is asked for: a `let` asks for the name and the value of
what it assigns, a function for the name, the parameters and the statements of what it declares, and
a parameter list for the name of each item.
-/

namespace Bashling

namespace Bash

/-- The Bash name of a variable or function. -/
def mangled (name : String) : String := "__VDSH__" ++ name

/-- Makes a local variable. -/
def localText (target value : String) : String :=
  "local " ++ mangled target ++ "=" ++ value

/-- The name of a tree, which it may lack. -/
def nameOf (node : Node) : Except Failure String :=
  match node.name? with
  | some name => .ok name.value
  | none => .error (.lacking node .name)

/-- Copies the positional parameters, from a number on, into local variables. -/
def bindParameters (index : Nat) : List Node → Except Failure String
  | [] => .ok ""
  | item :: rest => do
    let name ← nameOf item
    let later ← bindParameters (index + 1) rest
    return localText name ("$" ++ toString index) ++ "\n" ++ later

/-- The items of a parameter list. A declaration has parameters too, but no list of them. -/
def itemsOf : Node → Except Failure (List Node)
  | .parameters items => .ok items
  | .declaration _ inner _ => .error (.notAList inner)
  | node => .error (.lacking node .parameters)

/-- The text of a number. -/
def number (literal : Located Binary64) : String :=
  match literal.value.toInt? with
  | some value => toString value
  | none => (Token.form (literal.map .number)).line

def arithmetic (text : String) : String := "$((" ++ text ++ "))"

end Bash

mutual

/-- The Bash text of a tree. -/
def Node.toBash : Node → Except Failure String
  | .identifier name => .ok ("$" ++ Bash.mangled name.value)
  | .number literal => .ok (Bash.number literal)
  | .string literal => .ok ("\"" ++ (Token.form (literal.map .string)).line ++ "\"")
  | .unary operator operand => do
    let operand ← operand.toBash
    return Bash.arithmetic (String.ofList operator.value.spelling ++ operand)
  | .binary left operator right => do
    let left ← left.toBash
    let right ← right.toBash
    return Bash.arithmetic (left ++ String.ofList operator.value.spelling ++ right)
  | .parameters items => Bash.bindParameters 0 items
  | .block statements => do
    let statements ← Node.toBashAll statements
    return "\x7b\n" ++ "\n".intercalate statements ++ "\n\x7d"
  | .letStatement _ (.assignment target value) => do
    let value ← value.toBash
    return Bash.localText target.value value
  | .letStatement _ other => do
    let _ ← Bash.nameOf other
    .error (.lacking other .value)
  | .funcStatement _ (.declaration name list body) => do
    let items ← Bash.itemsOf list
    let bindings ← Bash.bindParameters 0 items
    let body ← Node.toBashBody body
    return "function " ++ Bash.mangled name.value ++ "()\x7b\n" ++ bindings ++
      "\n".intercalate body ++ "\n\x7d"
  | .funcStatement _ other => do
    let _ ← Bash.nameOf other
    .error (.lacking other .parameters)
  | node => .error (.unsupported (.node node))

/-- The Bash texts of the statements of a body, which has to be a block. -/
def Node.toBashBody : Node → Except Failure (List String)
  | .block statements => Node.toBashAll statements
  | node => .error (.lacking node .statements)

/-- The Bash texts of statements, in order. -/
def Node.toBashAll : List Node → Except Failure (List String)
  | [] => .ok []
  | node :: rest => do
    let text ← node.toBash
    let texts ← Node.toBashAll rest
    return text :: texts

end

/-- The Bash text of a value, which only a tree can have. -/
def Value.toBash : Value → Except Failure String
  | .node tree => tree.toBash
  | value => .error (.unsupported value)

end Bashling
