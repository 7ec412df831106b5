import Bashling.Command

/-!
# The command line

A command line names a command and, for all but the version, a source and some options. The source
is the path of a file, or with `--code` the program itself. Options may stand before or after it.
-/

namespace Bashling

/-- Which options are set. -/
structure Options where
  verbose : Bool
  code : Bool
  oneLine : Bool
  deriving DecidableEq, Repr

namespace Options

def unset : Options := ⟨false, false, false⟩

/-- The options after one more of them, if it is one. -/
def set? (o : Options) : String → Option Options
  | "--verbose" => some ⟨true, o.code, o.oneLine⟩
  | "--no-verbose" => some ⟨false, o.code, o.oneLine⟩
  | "--code" => some ⟨o.verbose, true, o.oneLine⟩
  | "--no-code" => some ⟨o.verbose, false, o.oneLine⟩
  | "--oneline" => some ⟨o.verbose, o.code, true⟩
  | "--no-oneline" => some ⟨o.verbose, o.code, false⟩
  | _ => none

end Options

/-- A command with its options and its source; the version needs no source. -/
structure Invocation where
  command : Command
  options : Options
  source : Option String
  deriving Repr

namespace Invocation

/-- The options among some arguments, and the arguments that are none. -/
def sorted (arguments : List String) : Options × List String :=
  arguments.foldl
    (fun (options, others) argument =>
      match options.set? argument with
      | some options => (options, others)
      | none => (options, others ++ [argument]))
    (Options.unset, [])

def ofArguments? : List String → Option Invocation
  | ["version"] => some ⟨.version, .unset, none⟩
  | name :: arguments =>
    let (options, others) := sorted arguments
    match name, others with
    | "tokenize", [source] => some ⟨.tokenize options.oneLine, options, some source⟩
    | "parse", [source] => some ⟨.parse options.oneLine, options, some source⟩
    | "build", [source] => some ⟨.build, options, some source⟩
    | "run", [source] => some ⟨.run, options, some source⟩
    | _, _ => none
  | [] => none

def usage : String :=
  "usage: bashling version\n" ++
    "       bashling (build | run | parse | tokenize) [--code] [--verbose] [--oneline] SOURCE"

end Invocation
end Bashling
