import Bashling.Proofs.Progress

/-!
# The first column of a line

On the first line of a text columns are counted from one, and on every other line from zero. So the
place that a call reports, be it that of a token or that of a failure, has the row that counting
gives, but from the second line on a column that is one too small (`place_of_call`).

A lexer that has been called some times has read a front part of its text, and its place is the one
right behind that part (`Reaches`). What a call reports is the place at which it has come behind the
blanks (`Marks`), so only the place behind a front part has to be counted (`afterAll_origin`).
-/

namespace Bashling

/-! ### Counting -/

namespace Position

/-- The place behind the front part of a text, with rows and columns counted from one. -/
def counted (front : List Char) : Position :=
  ⟨1 + front.count '\n', 1 + (front.reverse.takeWhile (· ≠ '\n')).length⟩

/-- How many columns are missing behind the front part of a text. -/
def shortfall (front : List Char) : Int :=
  if '\n' ∈ front then 1 else 0

private theorem counted_concat (front : List Char) (c : Char) :
    counted (front ++ [c]) =
      if c = '\n' then ⟨(counted front).row + 1, 1⟩
      else ⟨(counted front).row, (counted front).column + 1⟩ := by
  split
  next feed => simp [counted, feed, Int.add_assoc]
  next other => simp [counted, other, Int.add_assoc]

private theorem shortfall_concat (front : List Char) (c : Char) :
    shortfall (front ++ [c]) = if c = '\n' then 1 else shortfall front := by
  split
  next feed => simp [shortfall, feed]
  next other => simp [shortfall, Ne.symm other]

/-- The induction is on the text from its end, since a line feed sets the column back whatever
stands in front of it. -/
theorem afterAll_origin (front : List Char) :
    origin.afterAll front = ⟨(counted front).row, (counted front).column - shortfall front⟩ := by
  obtain ⟨back, rfl⟩ : ∃ back : List Char, front = back.reverse := ⟨front.reverse, by simp⟩
  induction back with
  | nil => rfl
  | cons c back ih =>
    rw [List.reverse_cons, afterAll_append, ih, counted_concat, shortfall_concat]
    simp only [afterAll, List.foldl_cons, List.foldl_nil, after]
    split
    · rfl
    · simp only [Position.mk.injEq, true_and]
      omega

end Position

namespace Lexer

/-! ### Reading on -/

/-- The second lexer comes from the first by reading on. -/
def Reaches (l l' : Lexer) : Prop :=
  ∃ taken, l.rest = taken ++ l'.rest ∧ l'.position = l.position.afterAll taken

theorem Reaches.refl (l : Lexer) : Reaches l l :=
  ⟨[], rfl, rfl⟩

theorem Reaches.trans {l l' l'' : Lexer} (front : Reaches l l') (back : Reaches l' l'') :
    Reaches l l'' := by
  obtain ⟨taken, split, moved⟩ := front
  obtain ⟨taken', split', moved'⟩ := back
  refine ⟨taken ++ taken', ?_, ?_⟩
  · rw [split, split', List.append_assoc]
  · rw [moved', moved, Position.afterAll_append]

private theorem reaches_read {l : Lexer} {text later : List Char} (split : l.rest = text ++ later) :
    Reaches l (l.read text) :=
  ⟨text, by rw [rest_read_of_append split, split], rfl⟩

private theorem reaches_skipBlanks (l : Lexer) : Reaches l l.skipBlanks :=
  reaches_read List.takeWhile_append_dropWhile.symm

/-! ### Places of results -/

/-- What is reported of a text at a place: the token or the failure that starts there. -/
inductive Begins (place : Position) (text : List Char) : Except Failure Token → Prop where
  | token {lexeme later stop value} (split : text = lexeme ++ later)
      (spelled : Spelled later lexeme value) : Begins place text (.ok ⟨place, stop, value⟩)
  | eof (ended : text = []) {stop} : Begins place text (.ok ⟨place, stop, .eof⟩)
  | character {c later} (comes : text = c :: later) :
      Begins place text (.error (.unexpectedCharacter (String.singleton c) place))
  | string {later} (comes : text = '"' :: later) :
      Begins place text (.error (.unterminatedString place))
  | number {digits later stop} (split : text = digits ++ later) :
      Begins place text (.error (.invalidNumber place stop (String.ofList digits)))
  | operator {signs later stop} (split : text = signs ++ later) :
      Begins place text (.error (.invalidOperator place stop (String.ofList signs)))

/-- What a reading step does: it reports what starts where it starts, and reads on. -/
structure Marks (l : Lexer) (outcome : Except Failure Token × Lexer) : Prop where
  begins : Begins l.position l.rest outcome.1
  reaches : Reaches l outcome.2

section Failed

variable {l l' : Lexer} {initial : Char} {rest : List Char} {failure : Failure}

private theorem marks_failed_number (nonempty : l.rest.takeWhile isNumeric ≠ [])
    (failed : l.readNumber = (.error failure, l')) : Marks l (.error failure, l') := by
  have split := (List.takeWhile_append_dropWhile (p := isNumeric) (l := l.rest)).symm
  simp only [readNumber, endingHere_read l nonempty] at failed
  split at failed
  · cases failed
  · cases failed
    exact ⟨.number split, reaches_read split⟩

private theorem marks_failed_string (comes : l.rest = '"' :: rest)
    (failed : l.readString = (.error failure, l')) : Marks l (.error failure, l') := by
  simp only [readString, comes] at failed
  split at failed
  · rw [endingHere_read l (by simp)] at failed
    cases failed
  · cases failed
    exact ⟨.string comes, reaches_read (comes.trans (List.append_nil _).symm)⟩

private theorem readWord_ne_failed (nonempty : l.rest.takeWhile Text.isLetter ≠ []) :
    l.readWord ≠ (.error failure, l') := by
  intro failed
  simp only [readWord, endingHere_read l nonempty] at failed
  split at failed <;> cases failed

private theorem marks_failed_operator {candidates : List (List Char)}
    (comes : l.rest = initial :: rest) (failed : l.readOperator candidates = (.error failure, l')) :
    Marks l (.error failure, l') := by
  obtain ⟨later, extended⟩ := extension_front candidates [initial] rest
  have split : l.rest = (initial :: extension candidates [initial] rest) ++ later := by
    rw [comes, List.cons_append, extended]
  rw [readOperator_of_cons comes, endingHere_read l (List.cons_ne_nil _ _), operatorToken] at failed
  split at failed
  · cases failed
  · cases failed
    exact ⟨.operator split, reaches_read split⟩

private theorem marks_failed (comes : l.rest = initial :: rest)
    (failed : l.readToken initial = (.error failure, l')) : Marks l (.error failure, l') := by
  unfold readToken at failed
  split at failed
  next digit => exact marks_failed_number (by simp [comes, isNumeric, digit]) failed
  next =>
    split at failed
    next quote =>
      subst quote
      exact marks_failed_string comes failed
    next =>
      split at failed
      next letter => exact absurd failed (readWord_ne_failed (by simp [comes, letter]))
      next =>
        split at failed
        next => exact marks_failed_operator comes failed
        next =>
          cases failed
          exact ⟨.character comes, .refl l⟩

end Failed

private theorem marks_readHere (l : Lexer) : Marks l l.readHere := by
  unfold readHere
  split
  next ended => exact ⟨.eof ended, [], rfl, rfl⟩
  next initial rest comes =>
    rcases takes_readToken l comes with
      ⟨text, later, value, split, spelled, given⟩ | ⟨failure, l', failed, -⟩
    · rw [given]
      exact ⟨.token split spelled, reaches_read split⟩
    · rw [failed]
      exact marks_failed comes failed

/-! ### All calls -/

private theorem reaches_next (l : Lexer) : Reaches l l.next.2 :=
  l.reaches_skipBlanks.trans l.skipBlanks.marks_readHere.reaches

private theorem reaches_after (l : Lexer) (n : Nat) : Reaches l (l.after n) := by
  induction n with
  | zero => exact .refl l
  | succ n ih =>
    rw [after_succ]
    exact ih.trans (l.after n).reaches_next

/-- A call reports the place of what stands behind the blanks. Its row is right. Its column is right
on the first line only, and one too small on all others. -/
theorem place_of_call (text : List Char) (n : Nat) :
    ∃ front place, text = front ++ ((ofText text).after n).skipBlanks.rest ∧
      Begins place ((ofText text).after n).skipBlanks.rest ((ofText text).after n).next.1 ∧
      place.row = (Position.counted front).row ∧
      place.column = (Position.counted front).column - (if '\n' ∈ front then 1 else 0) ∧
      (place = Position.counted front ↔ '\n' ∉ front) := by
  let l := (ofText text).after n
  obtain ⟨front, split, moved⟩ := (reaches_after (ofText text) n).trans l.reaches_skipBlanks
  have place : l.skipBlanks.position = _ := moved.trans (Position.afterAll_origin front)
  refine ⟨front, l.skipBlanks.position, split, l.skipBlanks.marks_readHere.begins, ?_⟩
  rw [place]
  refine ⟨rfl, rfl, ?_⟩
  constructor
  · intro same member
    have columns := congrArg Position.column same
    simp only [Position.shortfall, if_pos member] at columns
    omega
  · intro absent
    rw [Position.shortfall, if_neg absent, Int.sub_zero]

/-- The second line starts in column zero. -/
theorem second_line_column_zero :
    ¬∀ (text : List Char) (n : Nat) (front : List Char) (place : Position),
      text = front ++ ((ofText text).after n).skipBlanks.rest →
      Begins place ((ofText text).after n).skipBlanks.rest ((ofText text).after n).next.1 →
      place = Position.counted front := by
  intro counts
  have begins := ((ofText "a\nb".toList).after 1).skipBlanks.marks_readHere.begins
  have same := counts "a\nb".toList 1 "a\n".toList _ (by decide +kernel) begins
  exact absurd same (by decide +kernel)

end Lexer
end Bashling
