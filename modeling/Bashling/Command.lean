import Bashling.Compilation
import Bashling.Report

/-!
# Commands

What a user can ask for. Each command works on one text and reports what it found. A command shows
the failures it is prepared for: reading tokens those of the lexer, parsing those of the grammar,
building and running every failure of the language. Any other failure ends the command.
-/

namespace Bashling

inductive Command where
  | version
  | tokenize (oneLine : Bool)
  | parse (oneLine : Bool)
  | build
  | run
  deriving DecidableEq, Repr

namespace Command

def currentVersion : String := "0.0.1"

/-- Shows a failure of an expected kind; any other one ends the command. -/
def report (expected : Option Family → Bool) (verbose : Bool) (failure : Failure) : Report :=
  if expected failure.family? then .failure failure verbose else .raise failure

/-- Shows each token as it is read. -/
def tokenizeText (verbose oneLine : Bool) (text : List Char) : Report :=
  let (tokens, failure) := (Lexer.ofText text).tokens
  let shown := tokens.foldl (fun shown token => shown ++ .display token.form oneLine) Report.empty
  match failure with
  | none => shown
  | some failure => shown ++ report (· == some .lexical) verbose failure

def parseText (verbose oneLine : Bool) (text : List Char) : Report :=
  match Bashling.parse text with
  | .ok node => .display node.form oneLine
  | .error failure => report (· == some .grammatical) verbose failure

def buildText (verbose : Bool) (text : List Char) : Report :=
  match compile text with
  | .ok bash => .print bash
  | .error failure => report Option.isSome verbose failure

/-- Has Bash run the text of a program. -/
def runText (verbose : Bool) (text : List Char) : Report :=
  match compile text with
  | .ok bash => .start ["bash", "-c", bash]
  | .error failure => report Option.isSome verbose failure

def perform (verbose : Bool) (text : List Char) : Command → Report
  | .version => .print ("VDSH Version: " ++ currentVersion)
  | .tokenize oneLine => tokenizeText verbose oneLine text
  | .parse oneLine => parseText verbose oneLine text
  | .build => buildText verbose text
  | .run => runText verbose text

end Command
end Bashling
