import Bashling.Printed

/-!
# Reports

What the program tells its user. A report is the log of what has been told, the failure with which
it ended if it did, and the processes it asks to be started. Messages carry a mark in brackets;
failures and values are shown in their printed form. What is printed follows from the log.
-/

namespace Bashling

/-- One thing that a user is told. -/
inductive Entry where
  | line (message : String)
  | shown (form : Form) (oneLine : Bool)
  | failed (failure : Failure)

def Entry.text : Entry → String
  | .line message => message
  | .shown form oneLine => if oneLine then form.line else form.expanded
  | .failed failure => "[!] " ++ failure.form.line

structure Report where
  /-- What has been told, in order. -/
  log : List Entry
  raised : Option Failure
  /-- Each process by its program and arguments. -/
  started : List (List String)

namespace Report

/-- The text on the screen, where every entry ends its line. -/
def printed (r : Report) : String :=
  String.join (r.log.map fun entry => entry.text ++ "\n")

/-- Prints a line. -/
def print (message : String) : Report := ⟨[.line message], none, []⟩

def info (message : String) : Report :=
  print ("[+] " ++ message)

def warning (message : String) : Report :=
  print ("[!] " ++ message)

/-- Shows a form on one line or expanded. -/
def display (form : Form) (oneLine : Bool) : Report := ⟨[.shown form oneLine], none, []⟩

/-- Shows a failure, and ends with it if a user wants to know more. -/
def failure (failure : Failure) (verbose : Bool) : Report :=
  ⟨[.failed failure], if verbose then some failure else none, []⟩

/-- Ends with a failure and prints nothing. -/
def raise (failure : Failure) : Report :=
  ⟨[], some failure, []⟩

/-- Asks for a process to be started. -/
def start (process : List String) : Report :=
  ⟨[], none, [process]⟩

/-- One report after another. -/
def append (first second : Report) : Report :=
  ⟨first.log ++ second.log, first.raised <|> second.raised, first.started ++ second.started⟩

instance : Append Report := ⟨append⟩

def empty : Report := ⟨[], none, []⟩

end Report
end Bashling
