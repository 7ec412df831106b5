import Bashling.Proofs.Lexemes

/-!
# A lexer gets on with its text

A lexer can be called again and again, also behind a failure. Each call takes a character that is no
blank, or comes to the end of the text, or is stuck at a character with which no token starts
(`advances`). The end and such a character are not passed by any later call, so from there on all
calls do the same. What holds along all calls on a text follows from what each of them does
(`calls_advance`).
-/

namespace Bashling
namespace Lexer

/-- The lexer after a number of calls. -/
def after (l : Lexer) : Nat → Lexer
  | 0 => l
  | n + 1 => l.next.2.after n

theorem after_succ (l : Lexer) (n : Nat) : l.after (n + 1) = (l.after n).next.2 := by
  induction n generalizing l with
  | zero => rfl
  | succ n ih => exact ih l.next.2

private theorem after_of_fixed {l : Lexer} (fixed : l.next.2 = l) (n : Nat) : l.after n = l := by
  induction n with
  | zero => rfl
  | succ n ih => rw [after_succ, ih, fixed]

/-- The next call hands out the end of the text. -/
def GivesEnd (l : Lexer) : Prop :=
  ∃ token, l.next.1 = .ok token ∧ token.isEof = true

/-- The results that stand for characters which belong together. -/
inductive Grouped : Except Failure Token → Prop where
  | token {token} (inner : token.isEof = false) : Grouped (.ok token)
  | number {start stop text} : Grouped (.error (.invalidNumber start stop text))
  | operator {start stop text} : Grouped (.error (.invalidOperator start stop text))

/-- What a call does to the text. It takes characters that belong together, or all of the text for
a string that nothing closes, or it comes to the end, or it is stuck at a character with which no
token starts. The last two are for good. -/
inductive Advances (l : Lexer) : Prop where
  | took (consumed : List Char) (split : l.rest = consumed ++ l.next.2.rest)
      (visible : ∃ c ∈ consumed, Text.isBlank c = false) (grouped : Grouped l.next.1)
      (kept : l.next.2.isOver = l.isOver)
  | unclosed (start : Position) (given : l.next.1 = .error (.unterminatedString start))
      (visible : ∃ c ∈ l.rest, Text.isBlank c = false) (left : l.next.2.rest = [])
      (kept : l.next.2.isOver = l.isOver) (thenEnd : l.next.2.GivesEnd)
  | ended (token : Token) (given : l.next.1 = .ok token) (eof : token.isEof = true)
      (left : l.next.2.rest = []) (reached : l.next.2.isOver = true)
      (again : ∀ n, (l.next.2.after n).next = (.ok token, l.next.2))
  | stuck (c : Char) (consumed later : List Char) (split : l.rest = consumed ++ c :: later)
      (blank : ∀ b ∈ consumed, Text.isBlank b = true) (visible : Text.isBlank c = false)
      (unknown : ∀ text behind value, ¬Spelled behind (c :: text) value)
      (given : l.next.1 = .error
        (.unexpectedCharacter (String.singleton c) (l.position.afterAll consumed)))
      (left : l.next.2.rest = c :: later) (kept : l.next.2.isOver = l.isOver)
      (again : ∀ n, (l.next.2.after n).next = (.error
        (.unexpectedCharacter (String.singleton c) (l.position.afterAll consumed)), l.next.2))

/-! ### One token -/

/-- What is done to the text by reading the token that stands at its front. -/
inductive Consumes (l : Lexer) : Except Failure Token × Lexer → Prop where
  | took {result text} (nonempty : text ≠ []) (grouped : Grouped result) :
      Consumes l (result, l.read text)
  | unclosed {start} : Consumes l (.error (.unterminatedString start), l.read l.rest)
  | stuck {c} (unknown : ∀ text behind value, ¬Spelled behind (c :: text) value)
      (first : l.rest.head? = some c) :
      Consumes l (.error (.unexpectedCharacter (String.singleton c) l.position), l)

/-- A token starts with a digit, a quote, a letter or the first character of an operator. -/
private theorem not_spelled {c : Char} (digit : Text.isDigit c = false) (quote : c ≠ '"')
    (letter : Text.isLetter c = false) (unlisted : Operator.table.candidates? c = none)
    {text behind : List Char} {value : Lexeme} : ¬Spelled behind (c :: text) value := by
  intro spelled
  rcases spelled.head_cases rfl with ⟨digit', -⟩ | quote' | ⟨letter', -⟩ | ⟨kind, -, starts, -⟩
  · rw [digit] at digit'
    cases digit'
  · exact quote quote'
  · rw [letter] at letter'
    cases letter'
  · obtain ⟨initial, rest, candidates, spelling, listed, -⟩ := kind.mem_candidates
    rw [spelling, List.take_succ_cons, List.take_zero, List.cons.injEq] at starts
    rw [starts.1, unlisted] at listed
    cases listed

private theorem consumes_endingHere (l : Lexer) {text : List Char} (nonempty : text ≠ [])
    {token : Position → Except Failure Token} (grouped : ∀ stop, Grouped (token stop)) :
    Consumes l ((l.read text).endingHere token) := by
  rw [endingHere_read l nonempty]
  exact .took nonempty (grouped _)

private theorem consumes_readNumber (l : Lexer) {initial : Char} {rest : List Char}
    (comes : l.rest = initial :: rest) (digit : Text.isDigit initial = true) :
    Consumes l l.readNumber := by
  apply consumes_endingHere l
  · simp [comes, isNumeric, digit]
  · intro stop
    cases Binary64.ofLiteral? (l.rest.takeWhile isNumeric) with
    | some value => exact .token rfl
    | none => exact .number

private theorem consumes_readWord (l : Lexer) {initial : Char} {rest : List Char}
    (comes : l.rest = initial :: rest) (letter : Text.isLetter initial = true) :
    Consumes l l.readWord := by
  apply consumes_endingHere l
  · simp [comes, letter]
  · intro stop
    cases Keyword.ofSpelling? (l.rest.takeWhile Text.isLetter) with
    | some kind => exact .token rfl
    | none => exact .token rfl

private theorem consumes_readString (l : Lexer) {initial : Char} {rest : List Char}
    (comes : l.rest = initial :: rest) : Consumes l l.readString := by
  simp only [readString, comes]
  split
  next => exact consumes_endingHere l (by simp) fun stop => .token rfl
  next =>
    rw [← comes]
    exact .unclosed

private theorem consumes_readOperator (l : Lexer) {initial : Char} {rest : List Char}
    (comes : l.rest = initial :: rest) (candidates : List (List Char)) :
    Consumes l (l.readOperator candidates) := by
  rw [readOperator_of_cons comes]
  apply consumes_endingHere l (List.cons_ne_nil _ _)
  intro stop
  rw [operatorToken]
  cases Operator.ofSpelling? (initial :: extension candidates [initial] rest) with
  | some kind => exact .token rfl
  | none => exact .operator

private theorem consumes_readToken (l : Lexer) {initial : Char} {rest : List Char}
    (comes : l.rest = initial :: rest) : Consumes l (l.readToken initial) := by
  unfold readToken
  split
  next digit => exact consumes_readNumber l comes digit
  next noDigit =>
    split
    next => exact consumes_readString l comes
    next noQuote =>
      split
      next letter => exact consumes_readWord l comes letter
      next noLetter =>
        split
        next candidates _ => exact consumes_readOperator l comes candidates
        next unlisted =>
          refine .stuck (fun _ _ _ => ?_) (by rw [comes, List.head?_cons])
          exact not_spelled (by simpa using noDigit) noQuote (by simpa using noLetter) unlisted

/-! ### One call -/

private theorem next_of_nothing_left {l : Lexer} (ended : l.rest = []) :
    l.next = (.ok ⟨l.position, l.position, .eof⟩, { l with reachedEnd := true }) := by
  have same : l.skipBlanks = l := by
    cases l
    simp_all [skipBlanks, read, Position.afterAll]
  simp only [next, same, readHere, ended]

/-- What is left behind the blanks. -/
theorem rest_skipBlanks (l : Lexer) : l.skipBlanks.rest = l.rest.dropWhile Text.isBlank :=
  rest_read_of_append List.takeWhile_append_dropWhile.symm

private theorem skipBlanks_skipBlanks (l : Lexer) : l.skipBlanks.skipBlanks = l.skipBlanks := by
  have none : l.skipBlanks.rest.takeWhile Text.isBlank = [] := by
    rw [rest_skipBlanks]
    cases left : l.rest.dropWhile Text.isBlank with
    | nil => rfl
    | cons c rest =>
      have visible := head_dropWhile Text.isBlank l.rest c (by simp [left])
      exact List.takeWhile_cons_of_neg (by simp [visible])
  rw [skipBlanks, none]
  rfl

/-- The characters that a call has taken when it has read some behind the blanks. The first of them
is no blank. -/
private theorem split_of_read (l : Lexer) {initial : Char} {rest text : List Char}
    (comes : l.skipBlanks.rest = initial :: rest) (nonempty : text ≠ []) :
    ∃ consumed, l.rest = consumed ++ (l.skipBlanks.read text).rest ∧
      ∃ c ∈ consumed, Text.isBlank c = false := by
  rw [rest_skipBlanks] at comes
  refine ⟨l.rest.takeWhile Text.isBlank ++ l.skipBlanks.rest.take text.length, ?_, initial, ?_, ?_⟩
  · rw [rest_read, List.append_assoc, List.take_append_drop, rest_skipBlanks,
      List.takeWhile_append_dropWhile]
  · have pos := List.length_pos_iff.mpr nonempty
    obtain ⟨n, counted⟩ := Nat.exists_eq_succ_of_ne_zero (Nat.ne_of_gt pos)
    simp [rest_skipBlanks, comes, counted]
  · exact head_dropWhile Text.isBlank l.rest initial (by simp [comes])

theorem advances (l : Lexer) : Advances l := by
  cases comes : l.skipBlanks.rest with
  | nil =>
    have given : l.next = (.ok ⟨l.skipBlanks.position, l.skipBlanks.position, .eof⟩,
        { l.skipBlanks with reachedEnd := true }) := by
      simp only [next, readHere, comes]
    have fixed : l.next.2.next = (.ok ⟨l.skipBlanks.position, l.skipBlanks.position, .eof⟩,
        l.next.2) := by
      rw [given]
      exact next_of_nothing_left comes
    refine .ended _ (by rw [given]) rfl (by rw [given]; exact comes) (by rw [given]; rfl) ?_
    intro n
    rw [after_of_fixed (by rw [fixed]), fixed]
  | cons initial rest =>
    have given : l.next = l.skipBlanks.readToken initial := by simp only [next, readHere, comes]
    have consumes := consumes_readToken l.skipBlanks comes
    rw [← given] at consumes
    generalize outcome : l.next = after at consumes
    cases consumes with
    | took nonempty grouped =>
      obtain ⟨consumed, split, visible⟩ := split_of_read l comes nonempty
      exact .took consumed (by rw [outcome]; exact split) visible (by rw [outcome]; exact grouped)
        (by rw [outcome]; rfl)
    | unclosed =>
      have left : l.next.2.rest = [] := by simp [outcome, rest_read]
      obtain ⟨consumed, split, c, member, visible⟩ :=
        split_of_read l comes (by simp [comes] : l.skipBlanks.rest ≠ [])
      refine .unclosed _ (by rw [outcome]) ⟨c, ?_, visible⟩ left (by rw [outcome]; rfl) ?_
      · rw [split]
        exact List.mem_append_left _ member
      · exact ⟨_, by rw [next_of_nothing_left left], rfl⟩
    | @stuck c unknown first =>
      obtain rfl : initial = c := by simpa [comes] using first
      -- Nothing but blanks was taken, so the next call finds the same character.
      have fixed : l.next.2.next = l.next := by
        rw [outcome, next, skipBlanks_skipBlanks]
        exact outcome
      have behind : l.rest.dropWhile Text.isBlank = initial :: rest := by
        rw [← rest_skipBlanks, comes]
      refine .stuck initial (l.rest.takeWhile Text.isBlank) rest ?_ ?_ ?_ unknown
        (by rw [outcome]; rfl) (by rw [outcome]; exact comes) (by rw [outcome]; rfl) ?_
      · rw [← behind, List.takeWhile_append_dropWhile]
      · exact fun b member => List.all_eq_true.mp List.all_takeWhile b member
      · exact head_dropWhile Text.isBlank l.rest initial (by simp [behind])
      · intro n
        rw [after_of_fixed (by rw [fixed]), fixed, outcome]
        rfl

/-! ### All calls -/

private theorem isOver_next (l : Lexer) :
    l.next.2.isOver = true ↔ l.isOver = true ∨ l.GivesEnd := by
  unfold GivesEnd
  cases l.advances with
  | took _ _ _ grouped kept =>
    rw [kept]
    generalize l.next.1 = result at grouped
    cases grouped <;> simp_all
  | unclosed _ given _ _ kept => simp [given, kept]
  | ended token given eof _ reached => simp [given, eof, reached]
  | stuck _ _ _ _ _ _ _ given _ kept => simp [given, kept]

/-- A lexer is over when one of the calls has handed out the end, and only then. -/
private theorem isOver_after_iff (text : List Char) (n : Nat) :
    ((ofText text).after n).isOver = true ↔ ∃ m < n, ((ofText text).after m).GivesEnd := by
  induction n with
  | zero => simp [after, ofText, isOver]
  | succ n ih => simp only [after_succ, isOver_next, ih, Nat.lt_succ_iff_lt_or_eq, or_and_right,
      exists_or, exists_eq_left]

private theorem length_tokens_le (l : Lexer) : l.tokens.1.length ≤ l.size := by
  fun_induction tokens l with
  | case1 => simp
  | case2 => simp
  | case3 l running token l' step less later failure listed ih =>
    have shorter : later.length ≤ l'.size := by rwa [listed] at ih
    simp only [List.length_cons]
    omega

/-- The tokens of a text are what the calls give until the lexer is over or a call fails. -/
private theorem calls_of_tokens (l : Lexer) :
    (∀ n token, l.tokens.1[n]? = some token →
      (l.after n).isOver = false ∧ (l.after n).next.1 = .ok token) ∧
    (∀ failure, l.tokens.2 = some failure → (l.after l.tokens.1.length).next.1 = .error failure) ∧
    (l.tokens.2 = none → (l.after l.tokens.1.length).isOver = true) := by
  fun_induction tokens l with
  | case1 l ended => exact ⟨by simp, by simp, fun _ => ended⟩
  | case2 l running failure l' step => simp [after, step]
  | case3 l running token l' step less later failure listed ih =>
    have left : l' = l.next.2 := by rw [step]
    rw [listed, left] at ih
    obtain ⟨calls, ending⟩ := ih
    refine ⟨?_, ending⟩
    intro n token' found
    cases n with
    | zero =>
      cases found
      exact ⟨by simpa [after] using running, by rw [after, step]⟩
    | succ n => exact calls n token' (by simpa using found)

/-- On every text each call gets on, unless it meets the end or a character that starts no token,
which all later calls meet as well. The lexer is over from the call on that first hands out the end.
So calling it until it is over takes at most one call for each character and one more, if none of
the calls fails. -/
theorem calls_advance (text : List Char) :
    (∀ n, Advances ((ofText text).after n)) ∧
    (∀ n, ((ofText text).after n).isOver = true ↔ ∃ m < n, ((ofText text).after m).GivesEnd) ∧
    (∀ n token, (ofText text).tokens.1[n]? = some token →
      ((ofText text).after n).isOver = false ∧ ((ofText text).after n).next.1 = .ok token) ∧
    (∀ failure, (ofText text).tokens.2 = some failure →
      ((ofText text).after (ofText text).tokens.1.length).next.1 = .error failure) ∧
    ((ofText text).tokens.2 = none →
      ((ofText text).after (ofText text).tokens.1.length).isOver = true) ∧
    (ofText text).tokens.1.length ≤ text.length + 1 := by
  obtain ⟨calls, failed, finished⟩ := (ofText text).calls_of_tokens
  have bound := (ofText text).length_tokens_le
  exact ⟨fun n => advances _, isOver_after_iff text, calls, failed, finished, bound⟩

end Lexer
end Bashling
