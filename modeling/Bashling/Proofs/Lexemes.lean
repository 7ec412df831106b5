import Bashling.Proofs.Characters
import Bashling.Proofs.Growth

/-!
# What a lexer reads

Every reading step takes some characters from the front of the text and makes a token of them, or
fails with a failure of the lexical family. `Spelled` says which texts stand for a lexeme when
others follow, and the theorems below say that the steps read such a text (`next_cases`). They need
no more of a lexer than its text and its place: that a token has a last character follows from its
having a first one.
-/

namespace Bashling

/-- A text that stands for a lexeme in front of another text, which it does not reach into. -/
inductive Spelled (later : List Char) : List Char → Lexeme → Prop where
  | number {initial rest value} (digit : Text.isDigit initial = true)
      (numeric : ∀ c ∈ rest, Lexer.isNumeric c = true)
      (denoted : Binary64.ofLiteral? (initial :: rest) = some value)
      (ends : ∀ c ∈ later.head?, Lexer.isNumeric c = false) :
      Spelled later (initial :: rest) (.number value)
  | string {inner : List Char} (closed : '"' ∉ inner) :
      Spelled later ('"' :: inner ++ ['"']) (.string (String.ofList inner))
  | keyword {kind : Keyword} (ends : ∀ c ∈ later.head?, Text.isLetter c = false) :
      Spelled later kind.spelling (.keyword kind)
  | identifier {word : List Char} (nonempty : word ≠ [])
      (letters : ∀ c ∈ word, Text.isLetter c = true)
      (other : ∀ kind : Keyword, word ≠ kind.spelling)
      (ends : ∀ c ∈ later.head?, Text.isLetter c = false) :
      Spelled later word (.identifier (String.ofList word))
  | operator {kind : Operator}
      (longest : ∀ kind' : Operator, kind'.spelling <+: kind.spelling ++ later →
        kind'.spelling.length ≤ kind.spelling.length) :
      Spelled later kind.spelling (.operator kind)

theorem Spelled.ne_nil {later text : List Char} {value : Lexeme}
    (spelled : Spelled later text value) : text ≠ [] := by
  cases spelled with
  | number | string => simp
  | @keyword kind => cases kind <;> simp [Keyword.spelling]
  | identifier nonempty => exact nonempty
  | @operator kind => cases kind <;> simp [Operator.spelling]

theorem Spelled.isEof {later text : List Char} {value : Lexeme} (spelled : Spelled later text value)
    (start stop : Position) : Token.isEof ⟨start, stop, value⟩ = false := by
  cases spelled <;> rfl

def Lexeme.isWord : Lexeme → Bool
  | .keyword _ | .identifier _ => true
  | _ => false

/-- What the first character of a lexeme is. -/
theorem Spelled.head_cases {later text : List Char} {value : Lexeme}
    (spelled : Spelled later text value) {c : Char} (first : c ∈ text.head?) :
    (Text.isDigit c = true ∧ ∃ number, value = .number number) ∨ c = '"' ∨
      (Text.isLetter c = true ∧ value.isWord = true) ∨
      ∃ kind : Operator, c ∈ kind.spelling ∧ kind.spelling.take 1 = [c] ∧
        value = .operator kind := by
  cases spelled with
  | number digit =>
    cases first
    exact .inl ⟨digit, _, rfl⟩
  | string =>
    cases first
    exact .inr (.inl rfl)
  | @keyword kind =>
    have letter := kind.isLetter_of_mem_spelling c (List.mem_of_mem_head? first)
    exact .inr (.inr (.inl ⟨letter, rfl⟩))
  | identifier _ letters =>
    exact .inr (.inr (.inl ⟨letters c (List.mem_of_mem_head? first), rfl⟩))
  | @operator kind =>
    refine .inr (.inr (.inr ⟨kind, List.mem_of_mem_head? first, ?_, rfl⟩))
    rw [List.take_one, first]
    rfl

theorem Position.afterAll_append (p : Position) (text text' : List Char) :
    p.afterAll (text ++ text') = (p.afterAll text).afterAll text' :=
  List.foldl_append

/-- Every operator is listed under its first character. -/
theorem Operator.mem_candidates (kind : Operator) : ∃ initial rest candidates,
    kind.spelling = initial :: rest ∧ table.candidates? initial = some candidates ∧
      kind.spelling ∈ candidates := by
  cases kind <;> exact ⟨_, _, _, rfl, rfl, by decide⟩

namespace Lexer

/-! ### Runs of characters -/

/-- The first character behind a run does not belong to it. -/
theorem head_dropWhile (p : Char → Bool) (text : List Char) :
    ∀ c ∈ (text.dropWhile p).head?, p c = false := by
  intro c first
  have stops := List.head?_dropWhile_not p text
  rw [Option.mem_def.mp first] at stops
  simpa using stops

/-! ### Single tokens -/

/-- What a reading step does: it makes a token of the characters it takes, or fails. -/
def Takes (l : Lexer) (outcome : Except Failure Token × Lexer) : Prop :=
  (∃ text later value, l.rest = text ++ later ∧ Spelled later text value ∧
    outcome = (.ok ⟨l.position, l.position.afterAll text.dropLast, value⟩, l.read text)) ∨
    ∃ failure l', outcome = (.error failure, l') ∧ failure.Specific .lexical

/-- Behind a text that was read there is a last character. -/
theorem endingHere_read (l : Lexer) {text : List Char} (nonempty : text ≠ [])
    (token : Position → Except Failure Token) :
    (l.read text).endingHere token = (token (l.position.afterAll text.dropLast), l.read text) := by
  cases text with
  | nil => exact absurd rfl nonempty
  | cons c text => rfl

private theorem takes_readNumber (l : Lexer) {initial : Char} {rest : List Char}
    (comes : l.rest = initial :: rest) (digit : Text.isDigit initial = true) :
    Takes l l.readNumber := by
  have numeric : isNumeric initial = true := by simp [isNumeric, digit]
  have taken : l.rest.takeWhile isNumeric = initial :: rest.takeWhile isNumeric := by
    rw [comes, List.takeWhile_cons_of_pos numeric]
  have split : l.rest = (initial :: rest.takeWhile isNumeric) ++ rest.dropWhile isNumeric := by
    rw [comes, List.cons_append, List.takeWhile_append_dropWhile]
  simp only [readNumber, taken, endingHere_read l (List.cons_ne_nil _ _)]
  cases denoted : Binary64.ofLiteral? (initial :: rest.takeWhile isNumeric) with
  | some value =>
    have all : ∀ c ∈ rest.takeWhile isNumeric, isNumeric c = true :=
      fun c member => List.all_eq_true.mp List.all_takeWhile c member
    exact .inl ⟨_, _, _, split, .number digit all denoted (head_dropWhile isNumeric rest), rfl⟩
  | none => exact .inr ⟨_, _, rfl, rfl, rfl⟩

private theorem takes_readWord (l : Lexer) {initial : Char} {rest : List Char}
    (comes : l.rest = initial :: rest) (letter : Text.isLetter initial = true) :
    Takes l l.readWord := by
  have nonempty : l.rest.takeWhile Text.isLetter ≠ [] := by
    simp [comes, List.takeWhile_cons_of_pos letter]
  have split := (List.takeWhile_append_dropWhile (p := Text.isLetter) (l := l.rest)).symm
  have ends := head_dropWhile Text.isLetter l.rest
  simp only [readWord, endingHere_read l nonempty]
  cases found : Keyword.ofSpelling? (l.rest.takeWhile Text.isLetter) with
  | some kind =>
    have spelled : Spelled _ kind.spelling (.keyword kind) := .keyword ends
    rw [Keyword.spelling_of_ofSpelling? found] at spelled
    exact .inl ⟨_, _, _, split, spelled, rfl⟩
  | none =>
    -- No keyword is spelled like this, so the word is a name.
    have all : ∀ c ∈ l.rest.takeWhile Text.isLetter, Text.isLetter c = true :=
      fun c member => List.all_eq_true.mp List.all_takeWhile c member
    have other : ∀ kind : Keyword, l.rest.takeWhile Text.isLetter ≠ kind.spelling := by
      intro kind equal
      rw [equal, Keyword.ofSpelling?_spelling] at found
      cases found
    exact .inl ⟨_, _, _, split, .identifier nonempty all other ends, rfl⟩

private theorem takes_readString (l : Lexer) {rest : List Char} (comes : l.rest = '"' :: rest) :
    Takes l l.readString := by
  let inner := rest.takeWhile (· ≠ '"')
  have split : rest = inner ++ rest.dropWhile (· ≠ '"') :=
    (List.takeWhile_append_dropWhile (p := (· ≠ '"')) (l := rest)).symm
  have closed : '"' ∉ inner := by
    intro member
    simpa using List.all_eq_true.mp List.all_takeWhile _ member
  have lengths := congrArg List.length split
  rw [List.length_append] at lengths
  simp only [readString, comes]
  cases left : rest.dropWhile (· ≠ '"') with
  | nil =>
    -- No quote closes the string.
    rw [left, List.length_nil] at lengths
    rw [if_neg (show ¬inner.length < rest.length by omega)]
    exact .inr ⟨_, _, rfl, rfl, rfl⟩
  | cons quote later =>
    rw [left, List.length_cons] at lengths
    rw [if_pos (show inner.length < rest.length by omega)]
    have quoted : quote = '"' := by
      have stops := head_dropWhile (· ≠ '"') rest quote (by rw [left]; rfl)
      simpa using stops
    rw [endingHere_read l (by simp)]
    refine .inl ⟨'"' :: inner ++ ['"'], later, _, ?_, .string closed, rfl⟩
    rw [comes, split, left, quoted]
    simp

/-- The operator that is read is the longest one that stands there. A longer one would be among the
candidates, and the extension would not have stopped inside it. -/
private theorem takes_readOperator (l : Lexer) {initial : Char} {rest : List Char}
    {candidates : List (List Char)} (comes : l.rest = initial :: rest)
    (listed : Operator.table.candidates? initial = some candidates) :
    Takes l (l.readOperator candidates) := by
  obtain ⟨later, split⟩ := extension_front candidates [initial] rest
  rw [readOperator_of_cons comes, endingHere_read l (List.cons_ne_nil _ _), operatorToken]
  cases found : Operator.ofSpelling? (initial :: extension candidates [initial] rest) with
  | none => exact .inr ⟨_, _, rfl, rfl, rfl⟩
  | some kind =>
    have spelling := Operator.spelling_of_ofSpelling? found
    have spelled : Spelled later kind.spelling (.operator kind) := by
      refine .operator fun kind' front => ?_
      -- Another operator that stands here has the same first character, so it is a candidate.
      obtain ⟨initial', more, candidates', spelling', listed', member⟩ := kind'.mem_candidates
      rw [spelling, List.cons_append, split, spelling'] at front
      obtain ⟨rfl, front'⟩ := List.cons_prefix_cons.mp front
      cases listed.symm.trans listed'
      -- The extension grew over all of it.
      have begins : [initial'] ++ more <+: kind'.spelling := by
        rw [spelling']
        exact List.prefix_refl _
      have grown := extension_longest front' member begins
      rw [spelling, spelling']
      exact Nat.succ_le_succ grown.length_le
    rw [spelling] at spelled
    refine .inl ⟨_, later, _, ?_, spelled, rfl⟩
    rw [comes, List.cons_append, split]

theorem takes_readToken (l : Lexer) {initial : Char} {rest : List Char}
    (comes : l.rest = initial :: rest) : Takes l (l.readToken initial) := by
  unfold readToken
  split
  next digit => exact takes_readNumber l comes digit
  next =>
    split
    next quote =>
      subst quote
      exact takes_readString l comes
    next =>
      split
      next letter => exact takes_readWord l comes letter
      next =>
        split
        next candidates listed => exact takes_readOperator l comes listed
        next => exact .inr ⟨_, _, rfl, rfl, rfl⟩

/-! ### The next token -/

/-- What reading the next token does. It passes over blanks, and then the text ends, or it reads the
token that stands there, or it fails. -/
inductive Next (l : Lexer) : Except Failure Token × Lexer → Prop where
  | eof {l'} (blank : ∀ c ∈ l.rest, Text.isBlank c = true) (ended : l'.isOver = true) :
      Next l (.ok ⟨l.position.afterAll l.rest, l.position.afterAll l.rest, .eof⟩, l')
  | token {blanks text later value l'} (split : l.rest = blanks ++ text ++ later)
      (blank : ∀ c ∈ blanks, Text.isBlank c = true) (spelled : Spelled later text value)
      (left : l'.rest = later) (position : l'.position = l.position.afterAll (blanks ++ text))
      (opened : l'.isOver = l.isOver) :
      Next l (.ok ⟨l.position.afterAll blanks, l.position.afterAll (blanks ++ text.dropLast),
        value⟩, l')
  | failed {failure l'} (specific : failure.Specific .lexical) : Next l (.error failure, l')

theorem next_cases (l : Lexer) : Next l l.next := by
  have split := (List.takeWhile_append_dropWhile (p := Text.isBlank) (l := l.rest)).symm
  have blank : ∀ c ∈ l.rest.takeWhile Text.isBlank, Text.isBlank c = true :=
    fun c member => List.all_eq_true.mp List.all_takeWhile c member
  have left : l.skipBlanks.rest = l.rest.dropWhile Text.isBlank := rest_read_of_append split
  rw [next, readHere]
  split
  next ended =>
    -- Nothing but blanks was left, so the place of the end is behind all of the text.
    rw [left] at ended
    rw [ended, List.append_nil] at split
    have passed : l.skipBlanks.position = l.position.afterAll l.rest := congrArg _ split.symm
    rw [passed]
    exact .eof (split ▸ blank) rfl
  next initial rest comes =>
    rcases takes_readToken l.skipBlanks comes with ⟨text, later, value, split', spelled, outcome⟩ |
      ⟨failure, l', outcome, specific⟩
    · rw [outcome]
      have place : l.skipBlanks.position =
          l.position.afterAll (l.rest.takeWhile Text.isBlank) := rfl
      rw [place, ← Position.afterAll_append]
      refine .token ?_ blank spelled (rest_read_of_append split') ?_ rfl
      · rw [List.append_assoc, ← split', left]
        exact split
      · rw [Position.afterAll_append]
        rfl
    · rw [outcome]
      exact .failed specific

end Lexer

end Bashling
