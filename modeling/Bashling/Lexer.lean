import Bashling.Number.Decimal
import Bashling.Source
import Bashling.SpellingTable
import Bashling.Text.Blank
import Bashling.Text.Letter

/-!
# Reading tokens

A lexer reads tokens from the front of a text. It skips blanks, looks at one character to tell what
comes, and reads as far as that kind of token goes: a number is a run of digits and points, a word a
run of letters, a string everything up to the next double quote, and an operator grows as long as it
still begins some spelling. Each reading step returns its outcome together with the lexer after it,
so a failure leaves a defined place from which to read on. The end of the text is a token, and
having handed it out is what it means for a lexer to be over.

Reading always ends. `size` counts the characters left and one more for the end of the text, and
every token taken before the end makes it smaller (`size_next_lt`).
-/

namespace Bashling

structure Lexer where
  /-- The text that is still to be read. -/
  rest : List Char
  position : Position
  /-- The place of the last character read, if any was. -/
  last : Option Position
  /-- Whether the end of the text has been handed out. -/
  reachedEnd : Bool
  deriving Repr

namespace Lexer

def ofText (text : List Char) : Lexer :=
  ⟨text, .origin, none, false⟩

/-- The lexer after some characters that stand next in its text. -/
def read (l : Lexer) (text : List Char) : Lexer :=
  { l with
    rest := l.rest.drop text.length
    position := l.position.afterAll text
    last := if text.isEmpty then l.last else some (l.position.afterAll text.dropLast) }

/-- Reads one character, whatever it is. -/
def readChar (l : Lexer) : Except Failure Char × Lexer :=
  match l.rest with
  | [] => (.error .nothingToTake, l)
  | c :: _ => (.ok c, l.read [c])

theorem readChar_eq_ok_iff {l l' : Lexer} {c : Char} :
    l.readChar = (.ok c, l') ↔ (∃ rest, l.rest = c :: rest) ∧ l' = l.read [c] := by
  unfold readChar
  split
  next ended => simp [ended]
  next initial rest comes =>
    rw [comes]
    constructor
    · rintro ⟨⟩
      exact ⟨⟨rest, rfl⟩, rfl⟩
    · rintro ⟨⟨_, ⟨⟩⟩, rfl⟩
      rfl

/-- Passes over the blanks that come next. -/
def skipBlanks (l : Lexer) : Lexer :=
  l.read (l.rest.takeWhile Text.isBlank)

/-- A token that ends with the last character read. -/
def endingHere (l : Lexer) (token : Position → Except Failure Token) :
    Except Failure Token × Lexer :=
  match l.last with
  | none => (.error .unplaced, l)
  | some stop => (token stop, l)

def isNumeric (c : Char) : Bool :=
  Text.isDigit c || c == '.'

/-- Reads the digits and points that come next, which need not form a number. -/
def readNumber (l : Lexer) : Except Failure Token × Lexer :=
  let text := l.rest.takeWhile isNumeric
  (l.read text).endingHere fun stop =>
    match Binary64.ofLiteral? text with
    | some value => .ok ⟨l.position, stop, .number value⟩
    | none => .error (.invalidNumber l.position stop (String.ofList text))

/-- Reads the letters that come next: a keyword, or else a name. -/
def readWord (l : Lexer) : Except Failure Token × Lexer :=
  let text := l.rest.takeWhile Text.isLetter
  (l.read text).endingHere fun stop =>
    match Keyword.ofSpelling? text with
    | some kind => .ok ⟨l.position, stop, .keyword kind⟩
    | none => .ok ⟨l.position, stop, .identifier (String.ofList text)⟩

/-- Reads an opening character, whatever it is, and the text up to a double quote. Without one the
whole text is read. -/
def readString (l : Lexer) : Except Failure Token × Lexer :=
  match l.rest with
  | [] => (.error .nothingToTake, l)
  | opening :: rest =>
    let text := rest.takeWhile (· ≠ '"')
    if text.length < rest.length then
      (l.read (opening :: text ++ ['"'])).endingHere fun stop =>
        .ok ⟨l.position, stop, .string (String.ofList text)⟩
    else (.error (.unterminatedString l.position), l.read (opening :: rest))

/-- Reads an operator on from its front, one character after the other, as long as the whole begins
one of the candidates. A character that leads away from all of them is not taken. -/
def extendOperator (l : Lexer) (candidates : List (List Char)) (current : List Char) :
    List Char × Lexer :=
  match step : l.readChar with
  | (.error _, _) => (current, l)
  | (.ok c, l') =>
    if candidates.any (current ++ [c]).isPrefixOf then
      have : l'.rest.length < l.rest.length := by
        obtain ⟨⟨rest, comes⟩, rfl⟩ := readChar_eq_ok_iff.mp step
        simp [read, comes]
      l'.extendOperator candidates (current ++ [c])
    else (current, l)
termination_by l.rest.length

/-- The token of an operator that starts at a place. Its characters may begin a spelling without
being one. -/
def operatorToken (start : Position) (text : List Char) (stop : Position) : Except Failure Token :=
  match Operator.ofSpelling? text with
  | some kind => .ok ⟨start, stop, .operator kind⟩
  | none => .error (.invalidOperator start stop (String.ofList text))

/-- Reads an operator that starts like the candidates. -/
def readOperator (l : Lexer) (candidates : List (List Char)) : Except Failure Token × Lexer :=
  match l.readChar with
  | (.error failure, l') => (.error failure, l')
  | (.ok initial, l') =>
    let (text, l'') := l'.extendOperator candidates [initial]
    l''.endingHere (operatorToken l.position text)

/-- Reads the token that starts with the given character, which comes next. -/
def readToken (l : Lexer) (initial : Char) : Except Failure Token × Lexer :=
  if Text.isDigit initial then l.readNumber
  else if initial = '"' then l.readString
  else if Text.isLetter initial then l.readWord
  else
    match Operator.table.candidates? initial with
    | some candidates => l.readOperator candidates
    | none => (.error (.unexpectedCharacter (String.singleton initial) l.position), l)

/-- Reads the token that stands right here; at the end of the text that is the end itself. -/
def readHere (l : Lexer) : Except Failure Token × Lexer :=
  match l.rest with
  | [] => (.ok ⟨l.position, l.position, .eof⟩, { l with reachedEnd := true })
  | initial :: _ => l.readToken initial

/-- Reads the next token. The end of the text can be read any number of times. -/
def next (l : Lexer) : Except Failure Token × Lexer :=
  l.skipBlanks.readHere

def isOver (l : Lexer) : Bool := l.reachedEnd

instance : Source Lexer Token := ⟨next, isOver⟩

/-- The characters left, and one more until the end of the text has been handed out. -/
def size (l : Lexer) : Nat :=
  l.rest.length + (!l.reachedEnd).toNat

/-! ### Progress -/

theorem rest_read (l : Lexer) (text : List Char) : (l.read text).rest = l.rest.drop text.length :=
  rfl

private theorem reachedEnd_read (l : Lexer) (text : List Char) :
    (l.read text).reachedEnd = l.reachedEnd :=
  rfl

private theorem snd_endingHere (l : Lexer) (token : Position → Except Failure Token) :
    (l.endingHere token).2 = l := by
  unfold endingHere
  split <;> rfl

private theorem size_read_le (l : Lexer) (text : List Char) : (l.read text).size ≤ l.size := by
  simp only [size, rest_read, reachedEnd_read, List.length_drop]
  omega

private theorem size_read_lt (l : Lexer) (text : List Char) (unread : l.rest ≠ [])
    (more : text ≠ []) : (l.read text).size < l.size := by
  have left := List.length_pos_iff.mpr unread
  have taken := List.length_pos_iff.mpr more
  simp only [size, rest_read, reachedEnd_read, List.length_drop]
  omega

private theorem size_skipBlanks_le (l : Lexer) : l.skipBlanks.size ≤ l.size :=
  l.size_read_le _

private theorem size_extendOperator_le (l : Lexer) (candidates : List (List Char))
    (current : List Char) : (l.extendOperator candidates current).2.size ≤ l.size := by
  fun_induction extendOperator l candidates current with
  | case1 => exact Nat.le_refl _
  | case2 l current c l' step _ _ ih =>
    obtain ⟨-, rfl⟩ := readChar_eq_ok_iff.mp step
    exact Nat.le_trans ih (l.size_read_le [c])
  | case3 => exact Nat.le_refl _

private theorem size_readOperator_lt (l : Lexer) (candidates : List (List Char))
    (unread : l.rest ≠ []) : (l.readOperator candidates).2.size < l.size := by
  obtain ⟨initial, rest, comes⟩ := List.exists_cons_of_ne_nil unread
  have taken : l.readChar = (.ok initial, l.read [initial]) :=
    readChar_eq_ok_iff.mpr ⟨⟨rest, comes⟩, rfl⟩
  simp only [readOperator, taken]
  rw [snd_endingHere]
  exact Nat.lt_of_le_of_lt (size_extendOperator_le _ candidates [initial])
    (l.size_read_lt [initial] unread (List.cons_ne_nil _ _))

/-- Whatever is read from a text that is not empty, a token or a failure other than that of an
unexpected character, takes at least one character. -/
private theorem readToken_progress (l : Lexer) (initial : Char) (rest : List Char)
    (comes : l.rest = initial :: rest) :
    (l.readToken initial).2.size < l.size ∨
      l.readToken initial =
        (.error (.unexpectedCharacter (String.singleton initial) l.position), l) := by
  have nonempty : l.rest ≠ [] := by simp [comes]
  unfold readToken
  split
  next digit =>
    refine .inl ?_
    rw [readNumber, snd_endingHere]
    exact l.size_read_lt _ nonempty (by simp [comes, isNumeric, digit])
  · split
    · refine .inl ?_
      simp only [readString, comes]
      split
      · rw [snd_endingHere]
        exact l.size_read_lt _ nonempty (by simp)
      · exact l.size_read_lt _ nonempty (by simp)
    · split
      next letter =>
        refine .inl ?_
        rw [readWord, snd_endingHere]
        exact l.size_read_lt _ nonempty (by simp [comes, letter])
      · split
        · exact .inl (l.size_readOperator_lt _ nonempty)
        · exact .inr rfl

private theorem size_readHere_le (l : Lexer) : l.readHere.2.size ≤ l.size := by
  unfold readHere
  split
  next ended => simp [size, ended]
  next initial rest comes =>
    rcases l.readToken_progress initial rest comes with less | same
    · exact Nat.le_of_lt less
    · simp [same]

private theorem size_readHere_lt (l : Lexer) (token : Token) (given : l.readHere.1 = .ok token)
    (counted : l.isOver = false ∨ token.isEof = false) : l.readHere.2.size < l.size := by
  unfold readHere at given ⊢
  split at given
  next ended =>
    cases given
    rcases counted with notOver | notEnd
    · have kept : l.reachedEnd = false := notOver
      simp [ended, size, kept]
    · simp [Token.isEof] at notEnd
  next initial rest comes =>
    rcases l.readToken_progress initial rest comes with less | same
    · exact less
    · rw [same] at given
      cases given

theorem size_next_le (l : Lexer) : l.next.2.size ≤ l.size :=
  Nat.le_trans l.skipBlanks.size_readHere_le l.size_skipBlanks_le

/-- A token other than the end takes at least one character, and the end of the text counts as one
when it is first handed out. -/
theorem size_next_lt (l : Lexer) (token : Token) (given : l.next.1 = .ok token)
    (counted : l.isOver = false ∨ token.isEof = false) : l.next.2.size < l.size :=
  Nat.lt_of_lt_of_le (l.skipBlanks.size_readHere_lt token given counted) l.size_skipBlanks_le

/-! ### Whole texts -/

/-- All tokens up to the end of the text, or up to the first failure. -/
def tokens (l : Lexer) : List Token × Option Failure :=
  if ended : l.isOver then ([], none)
  else
    match step : l.next with
    | (.error failure, _) => ([], some failure)
    | (.ok token, l') =>
      have : l'.size < l.size := by
        have less := l.size_next_lt token (by rw [step]) (.inl (by simpa using ended))
        rwa [step] at less
      let (later, failure) := l'.tokens
      (token :: later, failure)
termination_by l.size

section Tokens

variable {l l' : Lexer} {token : Token} {failure : Failure}

theorem tokens_of_over (ended : l.isOver = true) : l.tokens = ([], none) := by
  rw [tokens, dif_pos ended]

theorem tokens_of_failed (running : l.isOver = false) (step : l.next = (.error failure, l')) :
    l.tokens = ([], some failure) := by
  rw [tokens, dif_neg (by simp [running])]
  split
  next step' =>
    rw [step] at step'
    cases step'
    rfl
  next step' =>
    rw [step] at step'
    cases step'

theorem tokens_of_token (running : l.isOver = false) (step : l.next = (.ok token, l')) :
    l.tokens = (token :: l'.tokens.1, l'.tokens.2) := by
  rw [tokens, dif_neg (by simp [running])]
  split
  next step' =>
    rw [step] at step'
    cases step'
  next step' =>
    rw [step] at step'
    cases step'
    rfl

end Tokens

end Lexer
end Bashling
