import Bashling.Proofs.Lexemes

/-!
# Where the tokens of a text stand

A text that can be read to its end is blanks and lexemes in turn, and each of its tokens runs from
the first character of its lexeme to the last one. `Laid` follows the lexer token by token, and
`tokens_layout` tells the whole decomposition: what the tokens stand for, that none could be longer,
and that the places where they stand increase.
-/

namespace Bashling

namespace Position

/-- The order of places: by row, and within a row by column. -/
def Before (p q : Position) : Prop := p.row < q.row ∨ (p.row = q.row ∧ p.column < q.column)

instance (p q : Position) : Decidable (p.Before q) := inferInstanceAs (Decidable (_ ∨ _))

theorem Before.trans {p q r : Position} (first : p.Before q) (second : q.Before r) :
    p.Before r := by
  unfold Before at *
  omega

private theorem Before.asymm {p q : Position} (before : p.Before q) : ¬q.Before p := by
  unfold Before at *
  omega

private theorem before_after (p : Position) (c : Char) : p.Before (p.after c) := by
  unfold after
  split
  · exact .inl (Int.lt_succ p.row)
  · exact .inr ⟨rfl, Int.lt_succ p.column⟩

private theorem not_afterAll_before (p : Position) (text : List Char) :
    ¬(p.afterAll text).Before p := by
  induction text generalizing p with
  | nil =>
    intro before
    exact before.asymm before
  | cons c text ih =>
    intro before
    exact ih (p.after c) (before.trans (p.before_after c))

private theorem before_afterAll (p : Position) {text : List Char} (nonempty : text ≠ []) :
    p.Before (p.afterAll text) := by
  induction text generalizing p with
  | nil => exact absurd rfl nonempty
  | cons c text ih =>
    cases text with
    | nil => exact p.before_after c
    | cons c' text => exact (p.before_after c).trans (ih (p.after c) (List.cons_ne_nil _ _))

/-- The characters of a text, each with its place. -/
def placed (p : Position) : List Char → List (Position × Char)
  | [] => []
  | c :: text => (p, c) :: placed (p.after c) text

private theorem placed_append (p : Position) (text text' : List Char) :
    p.placed (text ++ text') = p.placed text ++ (p.afterAll text).placed text' := by
  induction text generalizing p with
  | nil => rfl
  | cons c text ih => exact congrArg ((p, c) :: ·) (ih (p.after c))

private theorem map_snd_placed (p : Position) (text : List Char) :
    (p.placed text).map (·.2) = text := by
  induction text generalizing p with
  | nil => rfl
  | cons c text ih => exact congrArg (c :: ·) (ih (p.after c))

private theorem mem_placed {p q : Position} {text : List Char} {c : Char}
    (member : (q, c) ∈ p.placed text) :
    ∃ front back, text = front ++ c :: back ∧ q = p.afterAll front := by
  induction text generalizing p with
  | nil => cases member
  | cons c' text ih =>
    rcases List.mem_cons.mp member with first | later
    · cases first
      exact ⟨[], text, rfl, rfl⟩
    · obtain ⟨front, back, split, place⟩ := ih later
      exact ⟨c' :: front, back, congrArg (c' :: ·) split, place⟩

/-- The characters of a text stand from its place on, none behind its last one and all in front of
the place after it. -/
private theorem bounds_of_mem_placed {p : Position} {text : List Char} {entry : Position × Char}
    (member : entry ∈ p.placed text) :
    ¬entry.1.Before p ∧ ¬(p.afterAll text.dropLast).Before entry.1 ∧
      entry.1.Before (p.afterAll text) := by
  obtain ⟨q, c⟩ := entry
  obtain ⟨front, back, rfl, rfl⟩ := mem_placed member
  rw [List.dropLast_append_cons, afterAll_append, afterAll_append]
  exact ⟨p.not_afterAll_before front, not_afterAll_before _ _,
    before_afterAll _ (List.cons_ne_nil c _)⟩

/-- What stands between two places of a text, both included. -/
def slice (p : Position) (text : List Char) (start stop : Position) : List Char :=
  ((p.placed text).filter fun entry => ¬entry.1.Before start ∧ ¬stop.Before entry.1).map (·.2)

/-- The last character of a part of a text stands in front of what comes behind the part. -/
private theorem before_behind (p : Position) (front : List Char) {part : List Char}
    (nonempty : part ≠ []) :
    (p.afterAll (front ++ part.dropLast)).Before (p.afterAll (front ++ part)) := by
  obtain ⟨init, c, rfl⟩ : ∃ init c, part = init ++ [c] :=
    ⟨_, _, (List.dropLast_concat_getLast nonempty).symm⟩
  rw [List.dropLast_concat, ← List.append_assoc, p.afterAll_append (front ++ init)]
  exact before_afterAll _ (List.cons_ne_nil c [])

private theorem Before.trans_not {p q r : Position} (first : p.Before q) (second : ¬r.Before q) :
    p.Before r := by
  unfold Before at *
  omega

/-- The slice from the first character of a part of a text to its last one is that part. -/
private theorem slice_part (p : Position) (front later : List Char) {part : List Char}
    (nonempty : part ≠ []) :
    p.slice (front ++ part ++ later) (p.afterAll front) (p.afterAll (front ++ part.dropLast)) =
      part := by
  have cut : p.afterAll (front ++ part.dropLast) = (p.afterAll front).afterAll part.dropLast :=
    p.afterAll_append front part.dropLast
  have last := p.before_behind front nonempty
  -- What stands in front and what stands behind is filtered out, and nothing of the part is.
  unfold slice
  rw [placed_append, placed_append, List.filter_append, List.filter_append,
    List.filter_eq_nil_iff.mpr, List.filter_eq_self.mpr, List.filter_eq_nil_iff.mpr]
  · rw [List.nil_append, List.append_nil, map_snd_placed]
  · intro entry member
    obtain ⟨from', -, -⟩ := bounds_of_mem_placed member
    simp [last.trans_not from']
  · intro entry member
    obtain ⟨from', upTo, -⟩ := bounds_of_mem_placed member
    simp [from', cut, upTo]
  · intro entry member
    obtain ⟨-, -, before⟩ := bounds_of_mem_placed member
    simp [before]

end Position

/-! ### Texts that can be read to their end -/

/-- The tokens of a text that starts at a place, read one after the other. -/
inductive Laid : Position → List Char → List Token → Prop where
  | eof {p text} (blank : ∀ c ∈ text, Text.isBlank c = true) :
      Laid p text [⟨p.afterAll text, p.afterAll text, .eof⟩]
  | token {p blanks lexeme later value tokens} (blank : ∀ c ∈ blanks, Text.isBlank c = true)
      (spelled : Spelled later lexeme value)
      (rest : Laid (p.afterAll (blanks ++ lexeme)) later tokens) :
      Laid p (blanks ++ lexeme ++ later)
        (⟨p.afterAll blanks, p.afterAll (blanks ++ lexeme.dropLast), value⟩ :: tokens)

/-- What becomes of a text: its tokens, or a failure of the lexical family. -/
def Lexer.Lists (l : Lexer) : List Token × Option Failure → Prop
  | (tokens, none) => Laid l.position l.rest tokens
  | (_, some failure) => failure.Specific .lexical

theorem Lexer.lists_tokens (l : Lexer) (opened : l.isOver = false) : l.Lists l.tokens := by
  induction l using Lexer.tokens.induct with
  | case1 l ended => exact absurd ended (by simp [opened])
  | case2 l _ failure after step =>
    have outcome := l.next_cases
    rw [step] at outcome
    rw [tokens_of_failed opened step]
    cases outcome with
    | failed specific => exact specific
  | case3 l _ token after step _ _ _ _ ih =>
    have outcome := l.next_cases
    rw [step] at outcome
    rw [tokens_of_token opened step]
    cases outcome with
    | eof blank ended =>
      -- The end of the text has been handed out, so it is the last token.
      rw [tokens_of_over ended]
      exact .eof blank
    | token split blank spelled left position opened' =>
      -- The lexer behind the token reads the rest of the text from the place after it.
      have listed := ih (opened'.trans opened)
      cases later : after.tokens with
      | mk tokens failure =>
        rw [later] at listed
        cases failure with
        | some failure => exact listed
        | none =>
          simp only [Lists, split, position, left] at listed ⊢
          exact .token blank spelled listed

/-- A text has its end among its tokens. -/
theorem Laid.closed {p : Position} {text : List Char} {tokens : List Token}
    (laid : Laid p text tokens) : ∃ token ∈ tokens, token.isEof = true := by
  induction laid with
  | eof => exact ⟨_, List.mem_singleton_self _, rfl⟩
  | token _ _ _ ih =>
    obtain ⟨token, member, ended⟩ := ih
    exact ⟨token, List.mem_cons_of_mem _ member, ended⟩

private theorem Laid.from_place {p : Position} {text : List Char} {tokens : List Token}
    (laid : Laid p text tokens) : ∀ token ∈ tokens, ¬token.start.Before p := by
  induction laid with
  | @eof p text _ =>
    intro token member
    rw [List.mem_singleton.mp member]
    exact p.not_afterAll_before text
  | @token p blanks lexeme _ _ _ _ _ _ ih =>
    intro token member
    rcases List.mem_cons.mp member with rfl | later
    · exact p.not_afterAll_before blanks
    · intro before
      exact ih token later (before.trans_not (p.not_afterAll_before (blanks ++ lexeme)))

/-- The tokens of a text stand apart, one after the other. -/
private theorem Laid.increasing {p : Position} {text : List Char} {tokens : List Token}
    (laid : Laid p text tokens) :
    tokens.Pairwise (fun token next => token.stop.Before next.start) ∧
      ∀ token ∈ tokens, ¬token.stop.Before token.start := by
  induction laid with
  | @eof p text _ =>
    refine ⟨List.pairwise_singleton _ _, fun token member => ?_⟩
    rw [List.mem_singleton.mp member]
    exact fun before => before.asymm before
  | @token p blanks lexeme _ _ _ _ spelled rest ih =>
    refine ⟨List.pairwise_cons.mpr ⟨fun next member => ?_, ih.1⟩, fun token member => ?_⟩
    · -- The last character stands in front of the place where the rest of the text starts.
      exact (p.before_behind blanks spelled.ne_nil).trans_not (rest.from_place next member)
    · rcases List.mem_cons.mp member with rfl | later
      · rw [p.afterAll_append blanks]
        exact Position.not_afterAll_before _ _
      · exact ih.2 token later

/-- A lexeme of a text, the blanks in front of it, and its token. -/
structure Piece where
  blanks : List Char
  lexeme : List Char
  token : Token

/-- The text of some pieces. -/
def Piece.written (pieces : List Piece) : List Char :=
  pieces.flatMap fun piece => piece.blanks ++ piece.lexeme

/-- A piece that stands where its token says, between two other parts of the text. -/
structure Piece.Stands (piece : Piece) (p : Position) (front later : List Char) : Prop where
  blank : ∀ c ∈ piece.blanks, Text.isBlank c = true
  start : piece.token.start = p.afterAll (front ++ piece.blanks)
  stop : piece.token.stop = p.afterAll (front ++ piece.blanks ++ piece.lexeme.dropLast)
  spelled : Spelled later piece.lexeme piece.token.value

private theorem Laid.pieces {p : Position} {text : List Char} {tokens : List Token}
    (laid : Laid p text tokens) :
    ∃ pieces tail, text = Piece.written pieces ++ tail ∧ (∀ c ∈ tail, Text.isBlank c = true) ∧
      tokens = pieces.map (·.token) ++ [⟨p.afterAll text, p.afterAll text, .eof⟩] ∧
      ∀ before piece after, pieces = before ++ piece :: after →
        piece.Stands p (Piece.written before) (Piece.written after ++ tail) := by
  induction laid with
  | @eof p text blank =>
    refine ⟨[], text, rfl, blank, rfl, fun before piece after split => ?_⟩
    simp at split
  | @token p blanks lexeme later value tokens blank spelled _ ih =>
    obtain ⟨pieces, tail, rfl, blank', rfl, stands⟩ := ih
    let first : Piece :=
      ⟨blanks, lexeme, ⟨p.afterAll blanks, p.afterAll (blanks ++ lexeme.dropLast), value⟩⟩
    refine ⟨first :: pieces, tail, by simp [Piece.written, first], blank', ?_, ?_⟩
    · simp [first, Position.afterAll_append]
    · intro before piece after split
      -- A later piece stands where it did, with the first one added to what is in front.
      cases before with
      | nil =>
        cases split
        exact ⟨blank, rfl, rfl, spelled⟩
      | cons piece' before =>
        cases split
        obtain ⟨blank, start, stop, spelled⟩ := stands before piece after rfl
        refine ⟨blank, ?_, ?_, spelled⟩
        · rw [start]
          simp [Piece.written, first, Position.afterAll_append]
        · rw [stop]
          simp [Piece.written, first, Position.afterAll_append]

/-- How a text and its tokens fit together. The text is pieces and a tail of blanks, each token
stands for the lexeme between its places, and the places increase up to the end of the text. -/
structure Layout (text : List Char) (tokens : List Token) (pieces : List Piece) (tail : List Char) :
    Prop where
  whole : text = Piece.written pieces ++ tail
  blank : ∀ c ∈ tail, Text.isBlank c = true
  listed : tokens = pieces.map (·.token) ++
    [⟨Position.origin.afterAll text, Position.origin.afterAll text, .eof⟩]
  stands : ∀ before piece after, pieces = before ++ piece :: after →
    piece.Stands .origin (Piece.written before) (Piece.written after ++ tail)
  sliced : ∀ piece ∈ pieces,
    Position.origin.slice text piece.token.start piece.token.stop = piece.lexeme
  increasing : tokens.Pairwise fun token next => token.stop.Before next.start
  forward : ∀ token ∈ tokens, ¬token.stop.Before token.start

/-- Every text that can be read to its end is laid out as its tokens say. -/
theorem tokens_layout (text : List Char) (tokens : List Token)
    (read : (Lexer.ofText text).tokens = (tokens, none)) :
    ∃ pieces tail, Layout text tokens pieces tail := by
  have laid : Laid .origin text tokens := by
    have listed := (Lexer.ofText text).lists_tokens rfl
    rwa [read] at listed
  obtain ⟨increasing, forward⟩ := laid.increasing
  obtain ⟨pieces, tail, whole, blank, listed, stands⟩ := laid.pieces
  refine ⟨pieces, tail, whole, blank, listed, stands, fun piece member => ?_, increasing, forward⟩
  -- Cut out where it stands, a piece gives the slice between the places of its token.
  obtain ⟨before, after, split⟩ := List.append_of_mem member
  obtain ⟨-, start, stop, spelled⟩ := stands before piece after split
  have parts : text = (Piece.written before ++ piece.blanks) ++ piece.lexeme ++
      (Piece.written after ++ tail) := by
    rw [whole, split]
    simp [Piece.written]
  rw [start, stop, parts]
  exact Position.slice_part .origin _ _ spelled.ne_nil

/-- A string that runs over the end of a line, and lexemes with nothing between them. -/
theorem tokens_layout_lines :
    let text := "let s = \"a\nb\";x<=y ".toList
    let tokens : List Token :=
      [⟨⟨1, 1⟩, ⟨1, 3⟩, .keyword .let⟩, ⟨⟨1, 5⟩, ⟨1, 5⟩, .identifier "s"⟩,
       ⟨⟨1, 7⟩, ⟨1, 7⟩, .operator .assign⟩, ⟨⟨1, 9⟩, ⟨2, 1⟩, .string "a\nb"⟩,
       ⟨⟨2, 2⟩, ⟨2, 2⟩, .operator .semicolon⟩, ⟨⟨2, 3⟩, ⟨2, 3⟩, .identifier "x"⟩,
       ⟨⟨2, 4⟩, ⟨2, 5⟩, .operator .lessEqual⟩, ⟨⟨2, 6⟩, ⟨2, 6⟩, .identifier "y"⟩,
       ⟨⟨2, 8⟩, ⟨2, 8⟩, .eof⟩]
    (Lexer.ofText text).tokens = (tokens, none) ∧
      ∃ pieces tail, Layout text tokens pieces tail := by
  intro text tokens
  have listed : (Lexer.ofText text).tokens.1 = tokens := by decide +kernel
  have finished : (Lexer.ofText text).tokens.2.isNone = true := by decide +kernel
  have read : (Lexer.ofText text).tokens = (tokens, none) :=
    Prod.ext listed (Option.isNone_iff_eq_none.mp finished)
  exact ⟨read, tokens_layout text tokens read⟩

end Bashling
