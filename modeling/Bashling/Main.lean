import Bashling.Invocation
import Bashling.Text.Lines

/-!
# The program

Reads the command line and the source, and prints the report. A process that a report asks for is
printed too, as the Bash text to be run.
-/

namespace Bashling

/-- The program text that an invocation is about; none if its file is not UTF-8. -/
def Invocation.readSource (invocation : Invocation) : IO (Option String) := do
  match invocation.source with
  | none => return some ""
  | some source =>
    if invocation.options.code then return some source
    else return Text.ofBytes? (← IO.FS.readBinFile source)

/-- Prints a report; the result is the exit code. -/
def Report.emit (report : Report) : IO UInt32 := do
  IO.print report.printed
  for process in report.started do
    IO.println (process.getLastD "")
  match report.raised with
  | none => return 0
  | some failure =>
    IO.eprintln failure.form.line
    return 1

end Bashling

open Bashling in
def main (arguments : List String) : IO UInt32 := do
  match Invocation.ofArguments? arguments with
  | none =>
    IO.eprintln Invocation.usage
    return 2
  | some invocation =>
    match ← invocation.readSource with
    | none =>
      IO.eprintln "the source is not UTF-8"
      return 1
    | some text => (invocation.command.perform invocation.options.verbose text.toList).emit
