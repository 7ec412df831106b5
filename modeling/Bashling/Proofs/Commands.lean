import Bashling.Command
import Bashling.Proofs.Totality

/-!
# What becomes of a failure

A command shows the failure its work ends with, once and as the last thing, and ends with that
failure only if the user wants to know more. There is one exception. Parsing takes its tokens from
the lexer one by one and so can fail as the lexer does, but the command that parses is prepared for
failures of the grammar alone. A failure of the lexer ends it, and nothing is shown
(`command_shows_failure`).
-/

namespace Bashling

/-- The failure that an entry of a log shows, if it shows one. -/
def Entry.failure? : Entry → Option Failure
  | .failed failure => some failure
  | _ => none

namespace Report

/-- The failures that a report has shown, in order. -/
def failures (r : Report) : List Failure := r.log.filterMap Entry.failure?

/-- A report that has shown one failure, as the last thing, and that ends with it if asked to. -/
structure ShowsOnce (r : Report) (failure : Failure) (verbose : Bool) : Prop where
  once : r.failures = [failure]
  last : r.log.getLast? = some (.failed failure)
  raised : r.raised = if verbose then some failure else none

private theorem showsOnce_failure (failure : Failure) (verbose : Bool) :
    (Report.failure failure verbose).ShowsOnce failure verbose :=
  ⟨rfl, rfl, rfl⟩

/-- The report that shows some forms, one after the other. -/
def ofForms (forms : List Form) (oneLine : Bool) : Report :=
  ⟨forms.map (.shown · oneLine), none, []⟩

private theorem log_append (first second : Report) :
    (first ++ second).log = first.log ++ second.log := rfl

private theorem failures_ofForms (forms : List Form) (oneLine : Bool) :
    (ofForms forms oneLine).failures = [] := by
  simp [failures, ofForms, Entry.failure?]

private theorem foldl_display (tokens : List Token) (forms : List Form) (oneLine : Bool) :
    tokens.foldl (fun shown token => shown ++ .display token.form oneLine)
        (ofForms forms oneLine) =
      ofForms (forms ++ tokens.map Token.form) oneLine := by
  induction tokens generalizing forms with
  | nil => simp
  | cons token tokens ih =>
    -- What is shown next goes behind what was shown so far.
    have first : ofForms forms oneLine ++ .display token.form oneLine =
        ofForms (forms ++ [token.form]) oneLine := by
      change append (ofForms forms oneLine) (display token.form oneLine) = _
      simp [append, ofForms, display]
    rw [List.foldl_cons, first, ih, List.append_assoc]
    rfl

/-- Values that were shown before a failure are no failures. -/
private theorem ShowsOnce.after_forms {r : Report} {failure : Failure} {verbose : Bool}
    (shows : r.ShowsOnce failure verbose) (forms : List Form) (oneLine : Bool) :
    (ofForms forms oneLine ++ r).ShowsOnce failure verbose where
  once := by
    have before := failures_ofForms forms oneLine
    have after := shows.once
    rw [failures] at before after ⊢
    rw [log_append, List.filterMap_append, before, after, List.nil_append]
  last := by
    rw [log_append, List.getLast?_append, shows.last]
    rfl
  raised := shows.raised

end Report

namespace Command

/-- The failure with which the work of a command on a text ends. -/
inductive Fails (text : List Char) : Command → Failure → Prop where
  | tokenize {failure} (oneLine) (stopped : (Lexer.ofText text).tokens.2 = some failure) :
      Fails text (.tokenize oneLine) failure
  | parse {failure} (oneLine) (refused : Bashling.parse text = .error failure) :
      Fails text (.parse oneLine) failure
  | build {failure} (refused : compile text = .error failure) : Fails text .build failure
  | run {failure} (refused : compile text = .error failure) : Fails text .run failure

/-- The failures that a command is not prepared for. -/
def Overlooks : Command → Failure → Prop
  | .parse _, failure => failure.Specific .lexical
  | _, _ => False

variable {text : List Char} {failure : Failure}

private theorem lexical_of_stopped (stopped : (Lexer.ofText text).tokens.2 = some failure) :
    failure.Specific .lexical := by
  have listed := (Lexer.ofText text).lists_tokens rfl
  rwa [← Prod.eta (Lexer.ofText text).tokens, stopped] at listed

/-- Whatever a command works on, it fails with a failure of the language that has details. -/
theorem Fails.specific {command : Command} (fails : Fails text command failure) :
    failure.Specific .lexical ∨ failure.Specific .grammatical := by
  cases fails with
  | tokenize _ stopped => exact .inl (lexical_of_stopped stopped)
  | parse _ refused => exact parse_refused refused
  | build refused | run refused => exact parse_refused (compile_eq_error_iff.mp refused)

private theorem report_of_expected (expected : Option Family → Bool) {family : Family}
    (verbose : Bool) (specific : failure.Specific family)
    (prepared : expected (some family) = true) :
    report expected verbose failure = .failure failure verbose := by
  rw [report, specific.1, if_pos prepared]

private theorem tokenizeText_of_read (verbose oneLine : Bool)
    (read : (Lexer.ofText text).tokens.2 = none) :
    tokenizeText verbose oneLine text =
      .ofForms ((Lexer.ofText text).tokens.1.map Token.form) oneLine := by
  simp only [tokenizeText, read]
  exact Report.foldl_display _ [] oneLine

private theorem tokenizeText_of_stopped (verbose oneLine : Bool)
    (stopped : (Lexer.ofText text).tokens.2 = some failure)
    (lexical : failure.Specific .lexical) :
    tokenizeText verbose oneLine text =
      .ofForms ((Lexer.ofText text).tokens.1.map Token.form) oneLine ++
        .failure failure verbose := by
  have shown := report_of_expected (· == some .lexical) verbose lexical rfl
  simp only [tokenizeText, stopped, shown]
  exact congrArg (· ++ Report.failure failure verbose) (Report.foldl_display _ [] oneLine)

/-- A command that is prepared for a failure shows it once. -/
private theorem Fails.showsOnce {command : Command} (fails : Fails text command failure)
    (prepared : ¬command.Overlooks failure) (verbose : Bool) :
    (command.perform verbose text).ShowsOnce failure verbose := by
  have specific := fails.specific
  cases fails with
  | tokenize oneLine stopped =>
    rw [perform, tokenizeText_of_stopped verbose oneLine stopped (lexical_of_stopped stopped)]
    exact (Report.showsOnce_failure failure verbose).after_forms _ oneLine
  | parse oneLine refused =>
    -- Without the failures of the lexer, those of the grammar are left.
    have grammatical := specific.resolve_left prepared
    have shown := report_of_expected (· == some .grammatical) verbose grammatical rfl
    simp only [perform, parseText, refused, shown]
    exact Report.showsOnce_failure failure verbose
  | build refused | run refused =>
    -- Both families belong to the language, and that is all that is asked here.
    have shown : report Option.isSome verbose failure = .failure failure verbose := by
      rcases specific with lexical | grammatical
      · exact report_of_expected _ verbose lexical rfl
      · exact report_of_expected _ verbose grammatical rfl
    simp only [perform, buildText, runText, refused, shown]
    exact Report.showsOnce_failure failure verbose

/-- A failure that a command overlooks ends it with nothing shown. -/
theorem Fails.escapes {command : Command} (fails : Fails text command failure)
    (overlooked : command.Overlooks failure) (verbose : Bool) :
    command.perform verbose text = .raise failure := by
  cases fails with
  | tokenize | build | run => exact overlooked.elim
  | parse oneLine refused =>
    -- Only the grammatical family is looked for.
    have unprepared : ¬((failure.family? == some .grammatical) = true) := by
      rw [overlooked.1]
      decide
    simp only [perform, parseText, refused, report, if_neg unprepared]

/-- Without a failure nothing is shown as one. -/
private theorem perform_of_succeeds (command : Command) (verbose : Bool) (text : List Char)
    (succeeds : ∀ failure, ¬Fails text command failure) :
    (command.perform verbose text).failures = [] ∧
      (command.perform verbose text).raised = none := by
  cases command with
  | version => exact ⟨rfl, rfl⟩
  | tokenize oneLine =>
    cases read : (Lexer.ofText text).tokens.2 with
    | some failure => exact absurd (.tokenize oneLine read) (succeeds failure)
    | none =>
      rw [perform, tokenizeText_of_read verbose oneLine read]
      exact ⟨Report.failures_ofForms _ oneLine, rfl⟩
  | parse oneLine =>
    cases read : Bashling.parse text with
    | error failure => exact absurd (.parse oneLine read) (succeeds failure)
    | ok node =>
      simp only [perform, parseText, read]
      exact ⟨rfl, rfl⟩
  | build =>
    cases built : compile text with
    | error failure => exact absurd (.build built) (succeeds failure)
    | ok bash =>
      simp only [perform, buildText, built]
      exact ⟨rfl, rfl⟩
  | run =>
    cases built : compile text with
    | error failure => exact absurd (.run built) (succeeds failure)
    | ok bash =>
      simp only [perform, runText, built]
      exact ⟨rfl, rfl⟩

/-- Only a program that compiles is run. -/
private theorem mem_started (command : Command) (verbose : Bool) (text : List Char)
    (process : List String) :
    process ∈ (command.perform verbose text).started ↔
      command = .run ∧ ∃ bash, compile text = .ok bash ∧ process = ["bash", "-c", bash] := by
  -- Whether a failure is shown or not, it starts nothing.
  have quiet (expected : Option Family → Bool) (failure : Failure) :
      (report expected verbose failure).started = [] := by
    rw [report]
    split <;> rfl
  cases command with
  | version => simp [perform, Report.print]
  | tokenize oneLine =>
    have silent : (tokenizeText verbose oneLine text).started = [] := by
      cases read : (Lexer.ofText text).tokens.2 with
      | none =>
        rw [tokenizeText_of_read verbose oneLine read]
        rfl
      | some failure =>
        rw [tokenizeText_of_stopped verbose oneLine read (lexical_of_stopped read)]
        rfl
    simp [perform, silent]
  | parse oneLine =>
    cases read : Bashling.parse text with
    | ok node => simp [perform, parseText, read, Report.display]
    | error failure => simp [perform, parseText, read, quiet]
  | build =>
    cases built : compile text with
    | ok bash => simp [perform, buildText, built, Report.print]
    | error failure => simp [perform, buildText, built, quiet]
  | run =>
    cases built : compile text with
    | ok bash => simp [perform, runText, built, Report.start]
    | error failure => simp [perform, runText, built, quiet]

end Command

/-- A command shows the failure of its work once and ends with it only if asked to, unless it is the
command that parses and the failure is one of the lexer. That one ends the command, asked or not,
and is not shown. A process is asked for by the command that runs programs, when the program
compiles, and it is Bash with the text of the program. -/
theorem command_shows_failure (command : Command) (verbose : Bool) (text : List Char) :
    let report := command.perform verbose text
    (∀ failure, Command.Fails text command failure →
      (failure.Specific .lexical ∨ failure.Specific .grammatical) ∧
        (¬command.Overlooks failure → report.ShowsOnce failure verbose) ∧
        (command.Overlooks failure → report.log = [] ∧ report.raised = some failure)) ∧
      ((∀ failure, ¬Command.Fails text command failure) →
        report.failures = [] ∧ report.raised = none) ∧
      ∀ process, process ∈ report.started ↔
        command = .run ∧ ∃ bash, compile text = .ok bash ∧ process = ["bash", "-c", bash] := by
  intro report
  refine ⟨fun failure fails => ⟨fails.specific, fun prepared => ?_, fun overlooked => ?_⟩,
    command.perform_of_succeeds verbose text, command.mem_started verbose text⟩
  · exact fails.showsOnce prepared verbose
  · rw [show report = .raise failure from fails.escapes overlooked verbose]
    exact ⟨rfl, rfl⟩

/-- Not every failure is shown: a character that no token begins with ends the command that parses,
though it was not asked to end. -/
theorem lexer_failure_ends_parsing :
    ¬∀ (command : Command) (text : List Char) (failure : Failure),
      Command.Fails text command failure →
      (command.perform false text).ShowsOnce failure false := by
  intro claimed
  have refused : (parse ['$']).isOk = false := by decide +kernel
  have raised : (Command.perform false ['$'] (.parse false)).raised.isSome = true := by
    decide +kernel
  cases result : parse ['$'] with
  | ok node => simp [result, Except.isOk, Except.toBool] at refused
  | error failure =>
    have shows := claimed (.parse false) ['$'] failure (.parse false result)
    simp [shows.raised] at raised

end Bashling
