import Bashling.Proofs.Progress
import Bashling.Proofs.Rendering
import Bashling.Text.Lines

/-!
# Line ends

A program that is given as it stands keeps its carriage returns, and one that is read from a file
has a single line feed at the end of every line. If each carriage return stands in front of a line
feed, both texts have the same tokens at the same places, or stop with the same failure
(`tokens_of_file`). Strings are left out: what stands between their quotes is kept as it is.

A lexer over each of the texts is at another place than the other one inside a line end. But a line
end is blank, no token and no failure starts in it, and the line feed takes both lexers to the start
of the next line. Thus they are in step (`InStep`) before and after each call.
-/

namespace Bashling

/-! ### Texts -/

namespace Text

/-- Every carriage return stands right in front of a line feed. -/
def PairedReturns (text : List Char) : Prop :=
  ∀ i, text[i]? = some '\r' → text[i + 1]? = some '\n'

private theorem pairedReturns_nil : PairedReturns [] := by
  intro i found
  cases found

private theorem pairedReturns_cons {c : Char} {rest : List Char} :
    PairedReturns (c :: rest) ↔ (c = '\r' → rest.head? = some '\n') ∧ PairedReturns rest := by
  constructor
  · intro paired
    constructor
    · rintro rfl
      rw [List.head?_eq_getElem?]
      exact paired 0 rfl
    · intro i found
      exact paired (i + 1) found
  · rintro ⟨first, later⟩ i found
    cases i with
    | zero =>
      rw [List.getElem?_cons_zero, Option.some.injEq] at found
      rw [List.getElem?_cons_succ, ← List.head?_eq_getElem?]
      exact first found
    | succ i => exact later i found

instance PairedReturns.decide : (text : List Char) → Decidable (PairedReturns text)
  | [] => .isTrue pairedReturns_nil
  | _ :: rest =>
    have := PairedReturns.decide rest
    decidable_of_iff _ pairedReturns_cons.symm

theorem PairedReturns.of_append (front : List Char) {later : List Char}
    (paired : PairedReturns (front ++ later)) : PairedReturns later := by
  induction front with
  | nil => exact paired
  | cons c front ih => exact ih (pairedReturns_cons.mp paired).2

/-- A character that does not start a line end is no carriage return. -/
private theorem PairedReturns.ne_return {c : Char} {rest : List Char}
    (paired : PairedReturns (c :: rest))
    (apart : ∀ later, c = '\r' → rest = '\n' :: later → False) : c ≠ '\r' := by
  intro return'
  obtain ⟨later, fed⟩ := List.head?_eq_some_iff.mp ((pairedReturns_cons.mp paired).1 return')
  exact apart later return' fed

/-- Where every carriage return stands in front of a line feed, they are all that is removed. -/
private theorem PairedReturns.normalizeLines_eq {text : List Char} (paired : PairedReturns text) :
    normalizeLines text = text.filter (· ≠ '\r') := by
  fun_induction normalizeLines text with
  | case1 => rfl
  | case2 rest ih =>
    have later : PairedReturns rest := PairedReturns.of_append ['\r', '\n'] paired
    simp [ih later]
  | case3 c rest apart ih =>
    have other := paired.ne_return apart
    simp [other, ih (pairedReturns_cons.mp paired).2]

private theorem normalizeLines_append (front : List Char) (plain : '\r' ∉ front)
    (later : List Char) : normalizeLines (front ++ later) = front ++ normalizeLines later := by
  induction front with
  | nil => rfl
  | cons c front ih =>
    rw [List.mem_cons, not_or] at plain
    have other : c ≠ '\r' := Ne.symm plain.1
    rw [List.cons_append, normalizeLines, if_neg other, ih plain.2, List.cons_append]
    intro _ return'
    exact absurd return' other

/-- A run of characters ends in front of a line end, whichever characters the line end has. -/
private theorem takeWhile_normalizeLines {p : Char → Bool} (feed : p '\n' = false)
    (return' : p '\r' = false) (text : List Char) :
    (normalizeLines text).takeWhile p = text.takeWhile p := by
  fun_induction normalizeLines text with
  | case1 => rfl
  | case2 rest => simp [feed, return']
  | case3 c rest _ ih =>
    split
    next lone => simp [lone, feed, return']
    next => rw [List.takeWhile_cons, List.takeWhile_cons, ih]

private theorem isBlank_lineFeed : isBlank '\n' = true := by decide

private theorem isBlank_carriageReturn : isBlank '\r' = true := by decide

/-- Blanks are passed over in both texts up to the same character. -/
private theorem dropWhile_normalizeLines (text : List Char) :
    (normalizeLines text).dropWhile isBlank = normalizeLines (text.dropWhile isBlank) := by
  fun_induction normalizeLines text with
  | case1 => rfl
  | case2 rest ih => simp [isBlank_lineFeed, isBlank_carriageReturn, ih]
  | case3 c rest apart ih =>
    split
    next lone => simp [lone, isBlank_lineFeed, isBlank_carriageReturn, ih]
    next other =>
      by_cases blank : isBlank c = true
      · simp [blank, ih]
      · rw [List.dropWhile_cons_of_neg blank, List.dropWhile_cons_of_neg blank, normalizeLines,
          if_neg other]
        exact apart

private theorem ofBytes?_toUTF8 (text : String) :
    ofBytes? text.toUTF8 = some (String.ofList (normalizeLines text.toList)) := by
  have decoded : String.fromUTF8? text.toUTF8 = some text := by
    rw [String.fromUTF8?, String.toUTF8_eq_toByteArray, dif_pos text.isValidUTF8]
    rfl
  rw [ofBytes?, decoded, Option.map_some]

end Text

open Bashling.Text (PairedReturns normalizeLines)

/-- The column in which a carriage return leaves off is forgotten at the line feed behind it. -/
private theorem Position.afterAll_blanks {text : List Char} (paired : PairedReturns text)
    (p : Position) :
    p.afterAll ((normalizeLines text).takeWhile Text.isBlank) =
      p.afterAll (text.takeWhile Text.isBlank) := by
  fun_induction normalizeLines text generalizing p with
  | case1 => rfl
  | case2 rest ih =>
    have later : PairedReturns rest := PairedReturns.of_append ['\r', '\n'] paired
    simp only [List.takeWhile_cons_of_pos Text.isBlank_lineFeed,
      List.takeWhile_cons_of_pos Text.isBlank_carriageReturn]
    -- Whichever column the line feed stands in, the next line starts at the same place.
    exact ih later (p.after '\n')
  | case3 c rest apart ih =>
    rw [if_neg (paired.ne_return apart), List.takeWhile_cons, List.takeWhile_cons]
    split
    · exact ih (Text.pairedReturns_cons.mp paired).2 (p.after c)
    · rfl

namespace Lexer

/-! ### One token -/

/-- Two lexers of which the second one has the rest of the first one's text with single line feeds.
What they have read last need not stand at the same place. -/
structure InStep (l l' : Lexer) : Prop where
  rest : l'.rest = normalizeLines l.rest
  position : l'.position = l.position
  isOver : l'.isOver = l.isOver
  paired : PairedReturns l.rest
  unquoted : '"' ∉ l.rest

/-- Two outcomes with the same result and with lexers that are in step. -/
def SameOutcome (outcome outcome' : Except Failure Token × Lexer) : Prop :=
  outcome.1 = outcome'.1 ∧ InStep outcome.2 outcome'.2

private theorem notMem_takeWhile {p : Char → Bool} {c : Char} (stops : p c = false)
    (text : List Char) : c ∉ text.takeWhile p := by
  intro member
  rw [List.all_eq_true.mp List.all_takeWhile c member] at stops
  cases stops

/-- A character of an extension is one of a candidate. -/
private theorem exists_of_mem_extension {candidates : List (List Char)} {current text : List Char}
    {c : Char} (member : c ∈ extension candidates current text) :
    ∃ candidate ∈ candidates, c ∈ candidate := by
  fun_induction extension candidates current text with
  | case1 => cases member
  | case2 current initial rest grows ih =>
    rcases List.mem_cons.mp member with rfl | later
    · obtain ⟨candidate, listed, front⟩ := List.any_eq_true.mp grows
      exact ⟨candidate, listed, (List.isPrefixOf_iff_prefix.mp front).subset (by simp)⟩
    · exact ih later
  | case3 => cases member

private theorem extension_of_notMem {candidates : List (List Char)} {c : Char}
    (absent : ∀ candidate ∈ candidates, c ∉ candidate) (current rest : List Char) :
    extension candidates current (c :: rest) = [] := by
  rw [extension, if_neg]
  intro grows
  obtain ⟨candidate, listed, front⟩ := List.any_eq_true.mp grows
  exact absent candidate listed ((List.isPrefixOf_iff_prefix.mp front).subset (by simp))

private theorem extension_normalizeLines {candidates : List (List Char)}
    (feed : ∀ candidate ∈ candidates, '\n' ∉ candidate)
    (return' : ∀ candidate ∈ candidates, '\r' ∉ candidate) (current text : List Char) :
    extension candidates current (normalizeLines text) = extension candidates current text := by
  fun_induction normalizeLines text generalizing current with
  | case1 => rfl
  | case2 rest => rw [extension_of_notMem feed, extension_of_notMem return']
  | case3 c rest _ ih =>
    split
    next lone =>
      subst lone
      rw [extension_of_notMem feed, extension_of_notMem return']
    next => rw [extension, extension, ih]

section Steps

variable {l l' : Lexer} {initial : Char} {rest text : List Char}

theorem InStep.read (inStep : InStep l l') (front : text <+: l.rest) (plain : '\r' ∉ text) :
    InStep (l.read text) (l'.read text) := by
  obtain ⟨later, split⟩ := front
  have left : (l.read text).rest = later := rest_read_of_append split.symm
  have left' : (l'.read text).rest = normalizeLines later := by
    apply rest_read_of_append
    rw [inStep.rest, ← split, Text.normalizeLines_append text plain]
  refine ⟨by rw [left, left'], ?_, inStep.isOver, ?_, ?_⟩
  · exact congrArg (·.afterAll text) inStep.position
  · rw [left]
    exact PairedReturns.of_append text (split ▸ inStep.paired)
  · rw [left]
    intro member
    exact inStep.unquoted (split ▸ List.mem_append_right text member)

/-- A token that has a character ends at the same place in both texts. -/
theorem InStep.endingHere (inStep : InStep l l') (nonempty : text ≠ []) (front : text <+: l.rest)
    (plain : '\r' ∉ text) (token : Position → Except Failure Token) :
    SameOutcome ((l.read text).endingHere token) ((l'.read text).endingHere token) := by
  rw [endingHere_read l nonempty, endingHere_read l' nonempty, inStep.position]
  exact ⟨rfl, inStep.read front plain⟩

private theorem InStep.takeWhile_rest {p : Char → Bool} (inStep : InStep l l')
    (feed : p '\n' = false)
    (return' : p '\r' = false) : l'.rest.takeWhile p = l.rest.takeWhile p := by
  rw [inStep.rest, Text.takeWhile_normalizeLines feed return']

private theorem InStep.endingRun {p : Char → Bool} (inStep : InStep l l') (return' : p '\r' = false)
    (nonempty : l.rest.takeWhile p ≠ []) (token : Position → Except Failure Token) :
    SameOutcome ((l.read (l.rest.takeWhile p)).endingHere token)
      ((l'.read (l.rest.takeWhile p)).endingHere token) :=
  inStep.endingHere nonempty (List.takeWhile_prefix p) (notMem_takeWhile return' l.rest) token

theorem InStep.readNumber (inStep : InStep l l') (comes : l.rest = initial :: rest)
    (digit : Text.isDigit initial = true) : SameOutcome l.readNumber l'.readNumber := by
  have same : l'.rest.takeWhile isNumeric = _ := inStep.takeWhile_rest (by decide) (by decide)
  have nonempty : l.rest.takeWhile isNumeric ≠ [] := by simp [comes, isNumeric, digit]
  simp only [Lexer.readNumber, same, inStep.position]
  exact inStep.endingRun (by decide) nonempty _

theorem InStep.readWord (inStep : InStep l l') (comes : l.rest = initial :: rest)
    (letter : Text.isLetter initial = true) : SameOutcome l.readWord l'.readWord := by
  have same : l'.rest.takeWhile Text.isLetter = _ := inStep.takeWhile_rest (by decide) (by decide)
  have nonempty : l.rest.takeWhile Text.isLetter ≠ [] := by simp [comes, letter]
  simp only [Lexer.readWord, same, inStep.position]
  exact inStep.endingRun (by decide) nonempty _

/-- The spellings under a first character have no blanks. -/
private theorem notMem_of_isBlank {candidates : List (List Char)} {c : Char}
    (listed : Operator.table.candidates? initial = some candidates)
    (blank : Text.isBlank c = true) : ∀ candidate ∈ candidates, c ∉ candidate := by
  intro candidate member inside
  obtain ⟨kind, rfl⟩ := Operator.exists_of_listed listed member
  rw [(kind.class_of_mem_spelling c inside).2.2.1] at blank
  cases blank

theorem InStep.readOperator {candidates : List (List Char)} (inStep : InStep l l')
    (comes : l.rest = initial :: rest) (comes' : l'.rest = initial :: normalizeLines rest)
    (other : initial ≠ '\r') (listed : Operator.table.candidates? initial = some candidates) :
    SameOutcome (l.readOperator candidates) (l'.readOperator candidates) := by
  have feed := notMem_of_isBlank listed Text.isBlank_lineFeed
  have return' := notMem_of_isBlank listed Text.isBlank_carriageReturn
  rw [readOperator_of_cons comes, readOperator_of_cons comes', inStep.position,
    extension_normalizeLines feed return']
  apply inStep.endingHere (List.cons_ne_nil _ _)
  · rw [comes]
    exact List.cons_prefix_cons.mpr ⟨rfl, extension_front candidates [initial] rest⟩
  · intro member
    rcases List.mem_cons.mp member with same | later
    · exact other same.symm
    · obtain ⟨candidate, member', inside⟩ := exists_of_mem_extension later
      exact return' candidate member' inside

theorem InStep.readToken (inStep : InStep l l') (comes : l.rest = initial :: rest)
    (comes' : l'.rest = initial :: normalizeLines rest) (other : initial ≠ '\r') :
    SameOutcome (l.readToken initial) (l'.readToken initial) := by
  unfold Lexer.readToken
  split
  next digit => exact inStep.readNumber comes digit
  next =>
    split
    next quote => exact absurd (by simp [comes, quote]) inStep.unquoted
    next =>
      split
      next letter => exact inStep.readWord comes letter
      next =>
        split
        next listed => exact inStep.readOperator comes comes' other listed
        next =>
          rw [inStep.position]
          exact ⟨rfl, inStep⟩

/-! ### One call -/

theorem InStep.skipBlanks (inStep : InStep l l') : InStep l.skipBlanks l'.skipBlanks := by
  have split := List.takeWhile_append_dropWhile (p := Text.isBlank) (l := l.rest)
  refine ⟨?_, ?_, inStep.isOver, ?_, ?_⟩
  · rw [rest_skipBlanks, rest_skipBlanks, inStep.rest, Text.dropWhile_normalizeLines]
  · show l'.position.afterAll _ = l.position.afterAll _
    rw [inStep.position, inStep.rest, Position.afterAll_blanks inStep.paired]
  · rw [rest_skipBlanks]
    exact PairedReturns.of_append _ (split.symm ▸ inStep.paired)
  · rw [rest_skipBlanks]
    intro member
    exact inStep.unquoted ((List.dropWhile_suffix _).subset member)

theorem InStep.next (inStep : InStep l l') : SameOutcome l.next l'.next := by
  have behind := inStep.skipBlanks
  simp only [Lexer.next, readHere]
  cases comes : l.skipBlanks.rest with
  | nil =>
    have comes' : l'.skipBlanks.rest = [] := by rw [behind.rest, comes]; rfl
    simp only [comes', behind.position]
    exact ⟨rfl, rfl, rfl, rfl, Text.pairedReturns_nil, List.not_mem_nil⟩
  | cons initial rest =>
    -- What stands behind the blanks is no part of a line end.
    have other : initial ≠ '\r' := by
      rintro rfl
      rw [rest_skipBlanks] at comes
      have visible := head_dropWhile Text.isBlank l.rest '\r' (by simp [comes])
      exact absurd visible (by decide)
    have comes' : l'.skipBlanks.rest = initial :: normalizeLines rest := by
      rw [behind.rest, comes]
      exact Text.normalizeLines_append [initial] (by simpa using Ne.symm other) rest
    simp only [comes']
    exact behind.readToken comes comes' other

end Steps

/-! ### All calls -/

theorem InStep.tokens {l l' : Lexer} (inStep : InStep l l') : l'.tokens = l.tokens := by
  fun_induction Lexer.tokens l generalizing l' with
  | case1 l ended => exact tokens_of_over (inStep.isOver.trans ended)
  | case2 l running failure after step =>
    have running' : l'.isOver = false := inStep.isOver.trans (by simpa using running)
    have outcome := inStep.next
    rw [step] at outcome
    have step' : l'.next = (.error failure, l'.next.2) := Prod.ext outcome.1.symm rfl
    exact tokens_of_failed running' step'
  | case3 l running token after step _ later failure listed ih =>
    have running' : l'.isOver = false := inStep.isOver.trans (by simpa using running)
    have outcome := inStep.next
    rw [step] at outcome
    have step' : l'.next = (.ok token, l'.next.2) := Prod.ext outcome.1.symm rfl
    rw [tokens_of_token running' step', ih outcome.2, listed]

/-- A program without strings, each of whose carriage returns stands in front of a line feed, is
read from a file as the program without its carriage returns. Both have the same tokens, and the
same failure if there is one. -/
theorem tokens_of_file (text : String) (unquoted : '"' ∉ text.toList)
    (paired : PairedReturns text.toList) :
    ∃ file, Text.ofBytes? text.toUTF8 = some file ∧
      file.toList = text.toList.filter (· ≠ '\r') ∧
      (ofText file.toList).tokens = (ofText text.toList).tokens := by
  refine ⟨_, Text.ofBytes?_toUTF8 text, ?_, ?_⟩
  · rw [String.toList_ofList, paired.normalizeLines_eq]
  · rw [String.toList_ofList]
    exact InStep.tokens ⟨rfl, rfl, rfl, paired, unquoted⟩

/-- A failure behind two line ends, the first of which follows an operator. -/
theorem tokens_of_file_failure_on_third_line :
    let text := "x =\r\n\r\n  1.2.3\r\n"
    '"' ∉ text.toList ∧ PairedReturns text.toList ∧
      (∃ file, Text.ofBytes? text.toUTF8 = some file ∧
        file.toList = text.toList.filter (· ≠ '\r') ∧
        (ofText file.toList).tokens = (ofText text.toList).tokens) ∧
      (ofText text.toList).tokens.2.isSome = true := by
  intro text
  have unquoted : '"' ∉ text.toList := by decide
  have paired : PairedReturns text.toList := by decide
  exact ⟨unquoted, paired, tokens_of_file text unquoted paired, by decide +kernel⟩

end Lexer
end Bashling
