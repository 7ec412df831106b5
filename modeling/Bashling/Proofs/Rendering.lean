import Bashling.Proofs.Characters
import Bashling.Proofs.Layout
import Bashling.Proofs.Runs

/-!
# Reading back what was written

A text is made by writing lexemes one after the other, with blanks between them. Two neighbours need
a blank between them only if they *fuse*: two words, two numbers, or two operators of which the
first one and the first character of the second begin a spelling. Every text that is written in this
way is read as its lexemes (`tokens_of_rendered`).

The first character of a lexeme tells its kind, and a character that does not continue a lexeme ends
it.
-/

namespace Bashling

/-! ### Single lexemes -/

namespace Operator

private theorem length_spelling (kind : Operator) :
    1 ≤ kind.spelling.length ∧ kind.spelling.length ≤ 2 := by
  cases kind <;> decide

/-- Only operators are listed. -/
theorem exists_of_listed {initial : Char} {candidates : List (List Char)} {text : List Char}
    (listed : table.candidates? initial = some candidates) (member : text ∈ candidates) :
    ∃ kind : Operator, kind.spelling = text := by
  have spelled : ∀ entry ∈ table, ∀ text ∈ entry.2, (ofSpelling? text).isSome = true := by decide
  obtain ⟨front, back, split, -⟩ := List.lookup_eq_some_iff.mp listed
  obtain ⟨kind, found⟩ :=
    Option.isSome_iff_exists.mp (spelled (initial, candidates) (by simp [split]) text member)
  exact ⟨kind, spelling_of_ofSpelling? found⟩

end Operator

namespace Lexer

/-- An operator grows to a candidate and stops there, if the next character would leave all of
them. -/
private theorem extension_run {candidates : List (List Char)}
    {current more later candidate : List Char} (member : candidate ∈ candidates)
    (begins : current ++ more <+: candidate)
    (ends : ∀ c ∈ later.head?, ∀ other ∈ candidates, ¬current ++ more ++ [c] <+: other) :
    extension candidates current (more ++ later) = more := by
  induction more generalizing current with
  | nil =>
    cases later with
    | nil => rfl
    | cons c later =>
      rw [List.nil_append, extension, if_neg]
      intro grows
      obtain ⟨other, listed, front⟩ := List.any_eq_true.mp grows
      have front' := List.isPrefixOf_iff_prefix.mp front
      exact ends c rfl other listed (by simpa using front')
  | cons c more ih =>
    have begins' : (current ++ [c]) ++ more <+: candidate := by simpa using begins
    have grows : candidates.any (current ++ [c]).isPrefixOf = true :=
      List.any_eq_true.mpr ⟨candidate, member,
        List.isPrefixOf_iff_prefix.mpr ((List.prefix_append _ _).trans begins')⟩
    rw [List.cons_append, extension, if_pos grows, ih begins' (by simpa using ends)]

/-- What reading a text that stands next gives. -/
def Gives (l : Lexer) (text : List Char) (value : Lexeme)
    (outcome : Except Failure Token × Lexer) : Prop :=
  outcome = (.ok ⟨l.position, l.position.afterAll text.dropLast, value⟩, l.read text)

variable {l : Lexer} {later : List Char}

private theorem gives_readNumber {initial : Char} {rest : List Char} {value : Binary64}
    (comes : l.rest = (initial :: rest) ++ later) (digit : Text.isDigit initial = true)
    (numeric : ∀ c ∈ rest, isNumeric c = true)
    (denoted : Binary64.ofLiteral? (initial :: rest) = some value)
    (ends : ∀ c ∈ later.head?, isNumeric c = false) :
    l.Gives (initial :: rest) (.number value) l.readNumber := by
  have taken : l.rest.takeWhile isNumeric = initial :: rest := by
    rw [comes]
    refine takeWhile_run (fun c member => ?_) ends
    rcases List.mem_cons.mp member with rfl | member
    · simp [isNumeric, digit]
    · exact numeric c member
  simp only [Gives, readNumber, taken, endingHere_read l (List.cons_ne_nil _ _), denoted]

private theorem gives_readString {inner : List Char}
    (comes : l.rest = ('"' :: inner ++ ['"']) ++ later) (closed : '"' ∉ inner) :
    l.Gives ('"' :: inner ++ ['"']) (.string (String.ofList inner)) l.readString := by
  have split : l.rest = '"' :: (inner ++ '"' :: later) := by simp [comes]
  have taken : (inner ++ '"' :: later).takeWhile (· ≠ '"') = inner := by
    refine takeWhile_run (fun c member => ?_) (by simp)
    simpa using fun equal : c = '"' => closed (equal ▸ member)
  have shorter : inner.length < (inner ++ '"' :: later).length := by simp
  simp only [Gives, readString, split, taken, if_pos shorter]
  exact endingHere_read l (by simp) _

private theorem gives_readWord {word : List Char} {value : Lexeme} (comes : l.rest = word ++ later)
    (nonempty : word ≠ []) (letters : ∀ c ∈ word, Text.isLetter c = true)
    (ends : ∀ c ∈ later.head?, Text.isLetter c = false)
    (meant : (∃ kind, Keyword.ofSpelling? word = some kind ∧ value = .keyword kind) ∨
      (Keyword.ofSpelling? word = none ∧ value = .identifier (String.ofList word))) :
    l.Gives word value l.readWord := by
  have taken : l.rest.takeWhile Text.isLetter = word := by
    rw [comes]
    exact takeWhile_run letters ends
  simp only [Gives, readWord, taken, endingHere_read l nonempty]
  rcases meant with ⟨kind, found, rfl⟩ | ⟨missing, rfl⟩
  · rw [found]
  · rw [missing]

private theorem gives_readOperator {kind : Operator} {initial : Char} {rest : List Char}
    {candidates : List (List Char)} (spelling : kind.spelling = initial :: rest)
    (listed : Operator.table.candidates? initial = some candidates)
    (member : kind.spelling ∈ candidates) (comes : l.rest = kind.spelling ++ later)
    (longest : ∀ kind' : Operator, kind'.spelling <+: kind.spelling ++ later →
      kind'.spelling.length ≤ kind.spelling.length) :
    l.Gives kind.spelling (.operator kind) (l.readOperator candidates) := by
  have grown : extension candidates [initial] (rest ++ later) = rest := by
    refine extension_run member (by rw [spelling]; exact List.prefix_refl _) ?_
    intro c first other listed' front
    obtain ⟨kind', rfl⟩ := Operator.exists_of_listed listed listed'
    -- No spelling has more than two characters, so this one is what stands there, and is longer.
    have front' : kind.spelling ++ [c] <+: kind'.spelling := by simpa [spelling] using front
    have short := kind'.length_spelling.2
    have least := kind.length_spelling.1
    have lengths := front'.length_le
    rw [List.length_append, List.length_singleton] at lengths
    have same := front'.eq_of_length (by rw [List.length_append, List.length_singleton]; omega)
    have stands : kind'.spelling <+: kind.spelling ++ later := by
      rw [← same]
      obtain ⟨back, rfl⟩ : ∃ back, later = c :: back := by
        cases later with
        | nil => cases first
        | cons c' back =>
          cases first
          exact ⟨back, rfl⟩
      exact ⟨back, by simp⟩
    have bound := longest kind' stands
    omega
  have comes' : l.rest = initial :: (rest ++ later) := by rw [comes, spelling, List.cons_append]
  rw [Gives, readOperator_of_cons comes', grown, endingHere_read l (List.cons_ne_nil _ _),
    ← spelling, operatorToken, Operator.ofSpelling?_spelling]

private theorem readHere_cons {initial : Char} {rest : List Char}
    (comes : l.rest = initial :: rest) : l.readHere = l.readToken initial := by
  simp only [readHere, comes]

private theorem readHere_word {word : List Char} (comes : l.rest = word ++ later)
    (nonempty : word ≠ [])
    (letters : ∀ c ∈ word, Text.isLetter c = true) : l.readHere = l.readWord := by
  obtain ⟨initial, rest, rfl⟩ := List.exists_cons_of_ne_nil nonempty
  have letter := letters initial List.mem_cons_self
  have noQuote : initial ≠ '"' := by
    rintro rfl
    exact absurd letter (by decide)
  rw [readHere_cons comes, readToken, if_neg (by simp [Text.isDigit_of_isLetter letter]),
    if_neg noQuote, if_pos letter]

/-- A text that stands for a lexeme is read as that lexeme. Its first character tells which of the
readers gets it. -/
private theorem gives_readHere {text : List Char} {value : Lexeme} (comes : l.rest = text ++ later)
    (spelled : Spelled later text value) : l.Gives text value l.readHere := by
  cases spelled with
  | number digit numeric denoted ends =>
    rw [readHere_cons comes, readToken, if_pos digit]
    exact gives_readNumber comes digit numeric denoted ends
  | string closed =>
    rw [readHere_cons comes, readToken, if_neg (by decide), if_pos rfl]
    exact gives_readString comes closed
  | @keyword kind ends =>
    have letters := kind.isLetter_of_mem_spelling
    have nonempty : kind.spelling ≠ [] := by
      cases kind <;> decide
    rw [readHere_word comes nonempty letters]
    exact gives_readWord comes nonempty letters ends (.inl ⟨kind, kind.ofSpelling?_spelling, rfl⟩)
  | identifier nonempty letters other ends =>
    have missing : Keyword.ofSpelling? text = none := by
      cases found : Keyword.ofSpelling? text with
      | none => rfl
      | some kind => exact absurd (Keyword.spelling_of_ofSpelling? found).symm (other kind)
    rw [readHere_word comes nonempty letters]
    exact gives_readWord comes nonempty letters ends (.inr ⟨missing, rfl⟩)
  | @operator kind longest =>
    obtain ⟨initial, rest, candidates, spelling, listed, member⟩ := kind.mem_candidates
    -- Its first character belongs to no other class, so none of the other readers takes it.
    obtain ⟨noDigit, noLetter, -, noQuote, -⟩ :=
      kind.class_of_mem_spelling initial (by rw [spelling]; exact List.mem_cons_self)
    have starts : l.rest = initial :: (rest ++ later) := by rw [comes, spelling, List.cons_append]
    rw [readHere_cons starts, readToken, if_neg (by simp [noDigit]), if_neg noQuote,
      if_neg (by simp [noLetter]), listed]
    exact gives_readOperator spelling listed member comes longest

end Lexer

private theorem Spelled.head_not_blank {later text : List Char} {value : Lexeme}
    (spelled : Spelled later text value) : ∀ c ∈ text.head?, Text.isBlank c = false := by
  intro c first
  rcases spelled.head_cases first with ⟨digit, -⟩ | rfl | ⟨letter, -⟩ | ⟨kind, member, -⟩
  · exact Text.isBlank_of_isDigit digit
  · decide
  · exact Text.isBlank_of_isLetter letter
  · exact (kind.class_of_mem_spelling c member).2.2.1

/-! ### Whole texts -/

namespace Lexer

/-- What stands behind some blanks is read next. -/
private theorem next_of_spelled {l : Lexer} {blanks text later : List Char} {value : Lexeme}
    (split : l.rest = blanks ++ text ++ later) (blank : ∀ c ∈ blanks, Text.isBlank c = true)
    (spelled : Spelled later text value) :
    ∃ l', l.next = (.ok ⟨l.position.afterAll blanks,
        l.position.afterAll (blanks ++ text.dropLast), value⟩, l') ∧ l'.rest = later ∧
      l'.position = l.position.afterAll (blanks ++ text) ∧ l'.isOver = l.isOver := by
  rw [List.append_assoc] at split
  have taken : l.rest.takeWhile Text.isBlank = blanks := by
    rw [split]
    refine takeWhile_run blank fun c first => spelled.head_not_blank c ?_
    obtain ⟨initial, rest, rfl⟩ := List.exists_cons_of_ne_nil spelled.ne_nil
    exact first
  have skipped : l.skipBlanks = l.read blanks := by rw [skipBlanks, taken]
  have comes : (l.read blanks).rest = text ++ later := rest_read_of_append split
  refine ⟨(l.read blanks).read text, ?_, rest_read_of_append comes, ?_, rfl⟩
  · rw [next, skipped, gives_readHere comes spelled, Position.afterAll_append]
    rfl
  · rw [Position.afterAll_append]
    rfl

private theorem next_of_blank {l : Lexer} (blank : ∀ c ∈ l.rest, Text.isBlank c = true) :
    ∃ l', l.next = (.ok ⟨l.position.afterAll l.rest, l.position.afterAll l.rest, .eof⟩, l') ∧
      l'.isOver = true := by
  have taken : (l.rest ++ []).takeWhile Text.isBlank = l.rest := takeWhile_run blank (by simp)
  rw [List.append_nil] at taken
  have skipped : l.skipBlanks = l.read l.rest := by rw [skipBlanks, taken]
  have nothing : (l.read l.rest).rest = [] := rest_read_of_append (by simp)
  refine ⟨{ l.read l.rest with reachedEnd := true }, ?_, rfl⟩
  simp only [next, skipped, readHere, nothing]
  rfl

end Lexer

/-- A text is read as its layout says. -/
theorem Laid.read {p : Position} {text : List Char} {tokens : List Token}
    (laid : Laid p text tokens) (l : Lexer) (comes : l.rest = text) (place : l.position = p)
    (opened : l.isOver = false) : l.tokens = (tokens, none) := by
  induction laid generalizing l with
  | eof blank =>
    subst comes place
    obtain ⟨l', step, ended⟩ := Lexer.next_of_blank blank
    rw [Lexer.tokens_of_token opened step, Lexer.tokens_of_over ended]
  | token blank spelled _ ih =>
    subst place
    obtain ⟨l', step, left, moved, kept⟩ := Lexer.next_of_spelled comes blank spelled
    rw [Lexer.tokens_of_token opened step, ih l' left moved (kept.trans opened)]

/-! ### Neighbours -/

namespace Lexeme

/-- Two lexemes that need a blank between them. -/
inductive Fuses : Lexeme → Lexeme → Prop where
  | words {first second} (word : isWord first = true) (word' : isWord second = true) :
      Fuses first second
  | numbers (value value') : Fuses (.number value) (.number value')
  | operators {kind kind' longer : Operator}
      (begins : kind.spelling ++ kind'.spelling.take 1 <+: longer.spelling) :
      Fuses (.operator kind) (.operator kind')

/-- A character that would be read as a part of the lexeme in front of it. -/
inductive Continues (c : Char) : Lexeme → Prop where
  | number {value} (numeric : Lexer.isNumeric c = true) : Continues c (.number value)
  | word {value} (word : isWord value = true) (letter : Text.isLetter c = true) : Continues c value
  | operator {kind longer : Operator} (begins : kind.spelling ++ [c] <+: longer.spelling) :
      Continues c (.operator kind)

private theorem not_continues_of_blank {c : Char} (blank : Text.isBlank c = true) (value : Lexeme) :
    ¬Continues c value := by
  rintro (numeric | ⟨-, letter⟩ | begins)
  · rw [Text.isNumeric_of_isBlank blank] at numeric
    cases numeric
  · rw [Text.isLetter_of_isBlank blank] at letter
    cases letter
  next kind longer =>
    have member : c ∈ longer.spelling := begins.subset (by simp)
    rw [(longer.class_of_mem_spelling c member).2.2.1] at blank
    cases blank

end Lexeme

/-- What may follow a lexeme is whatever does not continue it. -/
theorem Spelled.before {text later : List Char} {value : Lexeme} (spelled : Spelled [] text value)
    (ends : ∀ c ∈ later.head?, ¬value.Continues c) : Spelled later text value := by
  cases spelled with
  | number digit numeric denoted =>
    refine .number digit numeric denoted fun c first => ?_
    exact Bool.eq_false_iff.mpr fun continued => ends c first (.number continued)
  | string closed => exact .string closed
  | keyword =>
    refine .keyword fun c first => ?_
    exact Bool.eq_false_iff.mpr fun letter => ends c first (.word rfl letter)
  | identifier nonempty letters other =>
    refine .identifier nonempty letters other fun c first => ?_
    exact Bool.eq_false_iff.mpr fun letter => ends c first (.word rfl letter)
  | @operator kind =>
    refine .operator fun kind' front => ?_
    by_cases shorter : kind'.spelling.length ≤ kind.spelling.length
    · exact shorter
    · -- A longer operator would begin with this one and the next character.
      cases later with
      | nil =>
        rw [List.append_nil] at front
        exact absurd front.length_le shorter
      | cons c later =>
        have next : kind.spelling ++ [c] <+: kind.spelling ++ c :: later := ⟨later, by simp⟩
        have begins := List.prefix_of_prefix_length_le next front (by simp; omega)
        exact absurd (.operator begins) (ends c rfl)

/-- Lexemes that do not fuse end each other. -/
private theorem Spelled.ends_before {text : List Char} {value value' : Lexeme}
    (spelled : Spelled [] text value') (separate : ¬value.Fuses value') :
    ∀ c ∈ text.head?, ¬value.Continues c := by
  intro c first continued
  rcases spelled.head_cases first with ⟨digit, number, rfl⟩ | rfl | ⟨letter, word⟩ |
    ⟨kind, member, starts, rfl⟩
  · cases continued with
    | number => exact separate (.numbers _ number)
    | word _ letter =>
      rw [Text.isLetter_of_isDigit digit] at letter
      cases letter
    | @operator _ longer begins =>
      rw [(longer.class_of_mem_spelling c (begins.subset (by simp))).1] at digit
      cases digit
  · cases continued with
    | number numeric => exact absurd numeric (by decide)
    | word _ letter => exact absurd letter (by decide)
    | @operator _ longer begins =>
      exact (longer.class_of_mem_spelling '"' (begins.subset (by simp))).2.2.2.1 rfl
  · cases continued with
    | number numeric =>
      rw [Text.isNumeric_of_isLetter letter] at numeric
      cases numeric
    | word word' => exact separate (.words word' word)
    | @operator _ longer begins =>
      rw [(longer.class_of_mem_spelling c (begins.subset (by simp))).2.1] at letter
      cases letter
  · obtain ⟨noDigit, noLetter, -, -, noPoint⟩ := kind.class_of_mem_spelling c member
    cases continued with
    | number numeric => simp [Lexer.isNumeric, noDigit, noPoint] at numeric
    | word _ letter =>
      rw [noLetter] at letter
      cases letter
    | operator begins =>
      rw [← starts] at begins
      exact separate (.operators begins)

/-! ### Texts made of lexemes -/

/-- A lexeme and its text, with the blanks that stand in front of it. -/
structure Rendered where
  blanks : List Char
  text : List Char
  value : Lexeme

namespace Rendered

/-- The text of some lexemes, one after the other. -/
def join (items : List Rendered) : List Char :=
  items.flatMap fun item => item.blanks ++ item.text

/-- Lexemes that are written so that they can be told apart. -/
inductive Legible : List Rendered → Prop where
  | nil : Legible []
  | cons {item : Rendered} {items : List Rendered} (spelled : Spelled [] item.text item.value)
      (blank : ∀ c ∈ item.blanks, Text.isBlank c = true)
      (separate : ∀ next ∈ items.head?, item.value.Fuses next.value → next.blanks ≠ [])
      (rest : Legible items) : Legible (item :: items)

/-- A lexeme is not continued by what stands behind it: a blank, or a neighbour with which it does
not fuse. -/
theorem Legible.ends {items : List Rendered} (legible : Legible items) {value : Lexeme}
    (separate : ∀ next ∈ items.head?, value.Fuses next.value → next.blanks ≠ [])
    {tail : List Char} (blank : ∀ c ∈ tail, Text.isBlank c = true) :
    ∀ c ∈ (join items ++ tail).head?, ¬value.Continues c := by
  intro c first
  cases legible with
  | nil => exact Lexeme.not_continues_of_blank (blank c (List.mem_of_mem_head? first)) value
  | @cons next items spelled blank' =>
    cases gap : next.blanks with
    | nil =>
      have free : ¬value.Fuses next.value := fun fused => separate next rfl fused gap
      refine spelled.ends_before free c ?_
      obtain ⟨initial, rest, text⟩ := List.exists_cons_of_ne_nil spelled.ne_nil
      simpa [join, gap, text] using first
    | cons b more =>
      obtain rfl : b = c := by simpa [join, gap] using first
      exact Lexeme.not_continues_of_blank (blank' b (by simp [gap])) value

/-- The induction is on the lexemes, from wherever the first one stands. -/
theorem Legible.laid {items : List Rendered} (legible : Legible items) {tail : List Char}
    (blank : ∀ c ∈ tail, Text.isBlank c = true) (p : Position) :
    ∃ tokens, Laid p (join items ++ tail) tokens ∧
      tokens.map (·.value) = items.map (·.value) ++ [.eof] := by
  induction legible generalizing p with
  | nil => exact ⟨_, .eof blank, rfl⟩
  | @cons item items spelled blank' separate rest ih =>
    obtain ⟨tokens, laid, values⟩ := ih (p.afterAll (item.blanks ++ item.text))
    have whole := Laid.token blank' (spelled.before (rest.ends separate blank)) laid
    have text :
        join (item :: items) ++ tail = item.blanks ++ item.text ++ (join items ++ tail) := by
      simp [join]
    rw [text]
    exact ⟨_, whole, congrArg (item.value :: ·) values⟩

end Rendered

/-- Lexemes that are written one after the other, with a blank between any two that fuse, are read
as what was written, up to the end of the text. -/
theorem tokens_of_rendered (items : List Rendered) (legible : Rendered.Legible items)
    (tail : List Char) (blank : ∀ c ∈ tail, Text.isBlank c = true) :
    ∃ tokens, (Lexer.ofText (Rendered.join items ++ tail)).tokens = (tokens, none) ∧
      tokens.map (·.value) = items.map (·.value) ++ [.eof] := by
  obtain ⟨tokens, laid, values⟩ := legible.laid blank .origin
  exact ⟨tokens, laid.read _ rfl rfl rfl, values⟩

/-- Colons in a row are taken in pairs, so `::` may touch the colon behind it and needs a blank from
the colon in front of it. -/
theorem tokens_of_rendered_colons :
    let items : List Rendered :=
      [⟨[], ['l', 'e', 't'], .keyword .let⟩, ⟨[' '], ['x'], .identifier "x"⟩,
       ⟨[], [':', ':'], .operator .doubleColon⟩, ⟨[], [':'], .operator .colon⟩,
       ⟨['\n'], [':', ':'], .operator .doubleColon⟩,
       ⟨[], ['1', '.', '5'], .number (.finite false 6755399441055744 (-52))⟩,
       ⟨[], ['"', 'a', '"'], .string "a"⟩]
    Rendered.join items = "let x:::\n::1.5\"a\"".toList ∧ Rendered.Legible items ∧
      ∃ tokens, (Lexer.ofText (Rendered.join items ++ [' '])).tokens = (tokens, none) ∧
        tokens.map (·.value) = items.map (·.value) ++ [.eof] := by
  intro items
  have word : Spelled [] ['l', 'e', 't'] (.keyword .let) := @Spelled.keyword [] .let (by simp)
  have name : Spelled [] ['x'] (.identifier "x") :=
    .identifier (by simp) (List.all_eq_true.mp rfl) (fun kind => by cases kind <;> decide) (by simp)
  have operator (kind : Operator) : Spelled [] kind.spelling (.operator kind) :=
    .operator fun kind' front => by simpa using front.length_le
  have number : Spelled [] ['1', '.', '5'] (.number (.finite false 6755399441055744 (-52))) :=
    .number rfl (List.all_eq_true.mp rfl) (by decide +kernel) (by simp)
  have string : Spelled [] ['"', 'a', '"'] (.string "a") := @Spelled.string [] ['a'] (by decide)
  have free : ¬Lexeme.Fuses (.operator .doubleColon) (.operator .colon) := by
    rintro (_ | _ | @⟨_, _, longer, begins⟩)
    · contradiction
    · revert begins
      cases longer <;> decide
  have legible : Rendered.Legible items := by
    refine .cons word (by simp) (by simp) ?_
    refine .cons name (List.all_eq_true.mp rfl) (by rintro _ ⟨⟩ ⟨_, ⟨⟩⟩) ?_
    refine .cons (operator .doubleColon) (by simp) (fun _ next fused => ?_) ?_
    · cases next
      exact absurd fused free
    refine .cons (operator .colon) (by simp) (by simp) ?_
    refine .cons (operator .doubleColon) (List.all_eq_true.mp rfl) (by rintro _ ⟨⟩ ⟨_, ⟨⟩⟩) ?_
    refine .cons number (by simp) (by rintro _ ⟨⟩ ⟨_, ⟨⟩⟩) ?_
    exact .cons string (by simp) (by simp) .nil
  exact ⟨rfl, legible, tokens_of_rendered items legible [' '] (List.all_eq_true.mp rfl)⟩

end Bashling
