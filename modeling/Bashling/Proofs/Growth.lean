import Bashling.Lexer

/-!
# How an operator grows

Reading an operator starts with one character and goes on as long as what has been read still begins
one of the candidates. It stops at the first character that leads away from all of them. Since the
beginning of a beginning is a beginning too, no longer part of the text would have done
(`growth_extension`), whatever the candidates are.

There is only one longest part (`Growth.unique`). So nothing depends on the order of the candidates,
nor on how often each of them is listed.
-/

namespace Bashling
namespace Lexer

/-! ### The longest growth -/

/-- The longest part of a text that some characters can grow by, with the whole still at the
beginning of a candidate. -/
structure Growth (candidates : List (List Char)) (current text added : List Char) : Prop where
  front : added <+: text
  begins : ∃ candidate ∈ candidates, current ++ added <+: candidate
  longest : ∀ more, more <+: text → (∃ candidate ∈ candidates, current ++ more <+: candidate) →
    more.length ≤ added.length

/-- The characters at the front of a text that an operator is read on over. -/
def extension (candidates : List (List Char)) (current : List Char) : List Char → List Char
  | [] => []
  | c :: rest =>
    if candidates.any (current ++ [c]).isPrefixOf then
      c :: extension candidates (current ++ [c]) rest
    else []

theorem extension_front (candidates : List (List Char)) (current text : List Char) :
    extension candidates current text <+: text := by
  induction text generalizing current with
  | nil => exact List.prefix_refl []
  | cons c text ih =>
    rw [extension]
    split
    · exact List.cons_prefix_cons.mpr ⟨rfl, ih _⟩
    · exact List.nil_prefix

/-- An operator grows over every text with which it still begins a candidate. -/
theorem extension_longest {candidates : List (List Char)} {current more text candidate : List Char}
    (front : more <+: text) (member : candidate ∈ candidates)
    (begins : current ++ more <+: candidate) : more <+: extension candidates current text := by
  induction text generalizing current more with
  | nil => exact front
  | cons c text ih =>
    cases more with
    | nil => exact List.nil_prefix
    | cons c' more =>
      obtain ⟨rfl, front'⟩ := List.cons_prefix_cons.mp front
      -- The candidate begins with the next character too, so the extension goes on.
      have begins' : (current ++ [c']) ++ more <+: candidate := by simpa using begins
      have shorter : current ++ [c'] <+: candidate := (List.prefix_append _ _).trans begins'
      have grows : candidates.any (current ++ [c']).isPrefixOf = true :=
        List.any_eq_true.mpr ⟨candidate, member, List.isPrefixOf_iff_prefix.mpr shorter⟩
      rw [extension, if_pos grows]
      exact List.cons_prefix_cons.mpr ⟨rfl, ih front' begins'⟩

section Growth

variable {candidates candidates' : List (List Char)} {current text added added' : List Char}

theorem Growth.unique (growth : Growth candidates current text added)
    (growth' : Growth candidates current text added') : added = added' := by
  have short := growth'.longest added growth.front growth.begins
  have long := growth.longest added' growth'.front growth'.begins
  have inside := List.prefix_of_prefix_length_le growth.front growth'.front short
  exact inside.eq_of_length (Nat.le_antisymm short long)

private theorem Growth.of_same_members (growth : Growth candidates current text added)
    (same : ∀ spelling, spelling ∈ candidates' ↔ spelling ∈ candidates) :
    Growth candidates' current text added where
  front := growth.front
  begins := by
    obtain ⟨candidate, member, begins⟩ := growth.begins
    exact ⟨candidate, (same candidate).mpr member, begins⟩
  longest := by
    rintro more front ⟨candidate, member, begins⟩
    exact growth.longest more front ⟨candidate, (same candidate).mp member, begins⟩

/-- The induction is on the text. What holds before the first character is taken holds after it, for
it was taken because a candidate begins like this. -/
private theorem extension_begins (begins : ∃ candidate ∈ candidates, current <+: candidate) :
    ∃ candidate ∈ candidates, current ++ extension candidates current text <+: candidate := by
  induction text generalizing current with
  | nil =>
    rw [extension, List.append_nil]
    exact begins
  | cons c text ih =>
    rw [extension]
    split
    next grows =>
      obtain ⟨candidate, member, front⟩ := List.any_eq_true.mp grows
      have grown := ih ⟨candidate, member, List.isPrefixOf_iff_prefix.mp front⟩
      rwa [List.append_assoc, List.singleton_append] at grown
    next =>
      rw [List.append_nil]
      exact begins

theorem growth_extension (text : List Char)
    (begins : ∃ candidate ∈ candidates, current <+: candidate) :
    Growth candidates current text (extension candidates current text) where
  front := extension_front candidates current text
  begins := extension_begins begins
  longest := by
    rintro more front ⟨candidate, member, begins'⟩
    exact (extension_longest front member begins').length_le

private theorem extension_of_same_members (text : List Char)
    (begins : ∃ candidate ∈ candidates, current <+: candidate)
    (same : ∀ spelling, spelling ∈ candidates' ↔ spelling ∈ candidates) :
    extension candidates' current text = extension candidates current text := by
  have begins' : ∃ candidate ∈ candidates', current <+: candidate := by
    obtain ⟨candidate, member, front⟩ := begins
    exact ⟨candidate, (same candidate).mpr member, front⟩
  -- Both are the longest growth for the same set of candidates.
  exact (growth_extension text begins').unique ((growth_extension text begins).of_same_members same)

end Growth

/-! ### Character by character -/

/-- A lexer reads a text one character at a time. -/
inductive ReadsEach : Lexer → List Char → Lexer → Prop where
  | nil {l} : ReadsEach l [] l
  | cons {l l' l'' c text} (taken : l.readChar = (.ok c, l')) (later : ReadsEach l' text l'') :
      ReadsEach l (c :: text) l''

theorem rest_read_of_append {l : Lexer} {text later : List Char} (split : l.rest = text ++ later) :
    (l.read text).rest = later := by
  rw [rest_read, split, List.drop_left]

private theorem read_cons (l : Lexer) (c : Char) (text : List Char) :
    l.read (c :: text) = (l.read [c]).read text := by
  cases text with
  | nil => rfl
  | cons c' text =>
    -- The last character read is the last one of the whole text either way.
    have left : l.rest.drop (text.length + 1 + 1) = (l.rest.drop 1).drop (text.length + 1) := by
      rw [List.drop_drop, Nat.add_comm 1]
    simp only [read, List.length_cons, left]
    rfl

section ReadsEach

variable {l l' : Lexer} {text : List Char}

theorem ReadsEach.split (reads : ReadsEach l text l') : l.rest = text ++ l'.rest := by
  induction reads with
  | nil => rfl
  | @cons l _ _ c _ taken _ ih =>
    obtain ⟨⟨rest, comes⟩, rfl⟩ := readChar_eq_ok_iff.mp taken
    have left : (l.read [c]).rest = rest := rest_read_of_append comes
    rw [comes, List.cons_append, ← ih, left]

/-- Each character moves the place, and in the end it is that behind the text. -/
theorem ReadsEach.moved (reads : ReadsEach l text l') :
    l'.position = l.position.afterAll text := by
  induction reads with
  | nil => rfl
  | cons taken _ ih =>
    obtain ⟨-, rfl⟩ := readChar_eq_ok_iff.mp taken
    exact ih

private theorem ReadsEach.eq_read (reads : ReadsEach l text l') : l' = l.read text := by
  induction reads with
  | nil => rfl
  | cons taken _ ih =>
    obtain ⟨-, rfl⟩ := readChar_eq_ok_iff.mp taken
    rw [ih, ← read_cons]

end ReadsEach

/-- The induction follows the loop: each of its rounds reads one character, which is the next one of
the extension. -/
private theorem extendOperator_reads (l : Lexer) (candidates : List (List Char))
    (current : List Char) :
    (l.extendOperator candidates current).1 = current ++ extension candidates current l.rest ∧
      ReadsEach l (extension candidates current l.rest)
        (l.extendOperator candidates current).2 := by
  fun_induction extendOperator l candidates current with
  | case1 l current failure l' step =>
    have ended : l.rest = [] := by
      unfold readChar at step
      split at step
      next ended => exact ended
      next => cases step
    rw [ended, extension, List.append_nil]
    exact ⟨rfl, .nil⟩
  | case2 l current c l' step grows _ ih =>
    obtain ⟨⟨rest, comes⟩, rfl⟩ := readChar_eq_ok_iff.mp step
    have left : (l.read [c]).rest = rest := rest_read_of_append comes
    rw [left] at ih
    rw [comes, extension, if_pos grows]
    exact ⟨by rw [ih.1, List.append_assoc, List.singleton_append], .cons step ih.2⟩
  | case3 l current c l' step stops =>
    obtain ⟨⟨rest, comes⟩, rfl⟩ := readChar_eq_ok_iff.mp step
    rw [comes, extension, if_neg stops, List.append_nil]
    exact ⟨rfl, .nil⟩

private theorem extendOperator_eq (l : Lexer) (candidates : List (List Char))
    (current : List Char) :
    l.extendOperator candidates current =
      (current ++ extension candidates current l.rest,
        l.read (extension candidates current l.rest)) := by
  obtain ⟨whole, reads⟩ := l.extendOperator_reads candidates current
  exact Prod.ext whole reads.eq_read

/-- An operator is its first character and what it is read on over. -/
theorem readOperator_of_cons {l : Lexer} {initial : Char} {rest : List Char}
    (comes : l.rest = initial :: rest) (candidates : List (List Char)) :
    l.readOperator candidates =
      (l.read (initial :: extension candidates [initial] rest)).endingHere
        (operatorToken l.position (initial :: extension candidates [initial] rest)) := by
  have taken : l.readChar = (.ok initial, l.read [initial]) :=
    readChar_eq_ok_iff.mpr ⟨⟨rest, comes⟩, rfl⟩
  have left : (l.read [initial]).rest = rest := rest_read_of_append comes
  simp only [readOperator, taken, extendOperator_eq, left, List.singleton_append]
  rw [← read_cons]

/-! ### Reading on -/

/-- How an operator has been read on from its front: over the longest part of the text that it can
grow by, whose characters were taken one by one. -/
structure Grows (l : Lexer) (candidates : List (List Char)) (current added : List Char)
    (outcome : List Char × Lexer) : Prop where
  whole : outcome.1 = current ++ added
  growth : Growth candidates current l.rest added
  taken : ReadsEach l added outcome.2
  left : l.rest = added ++ outcome.2.rest
  moved : outcome.2.position = l.position.afterAll added

/-- Whatever the text and the candidates, what begins a candidate is read on over the longest part
of the text with which it still does. The characters are taken one by one, and neither the order of
the candidates nor their repetitions count. -/
theorem operator_grows_longest (l : Lexer) (candidates : List (List Char)) (current : List Char)
    (begins : ∃ candidate ∈ candidates, current <+: candidate) :
    (∃ added, Grows l candidates current added (l.extendOperator candidates current)) ∧
      ∀ candidates', (∀ spelling, spelling ∈ candidates' ↔ spelling ∈ candidates) →
        l.extendOperator candidates' current = l.extendOperator candidates current := by
  constructor
  · obtain ⟨whole, reads⟩ := l.extendOperator_reads candidates current
    exact ⟨_, whole, growth_extension l.rest begins, reads, reads.split, reads.moved⟩
  · intro candidates' same
    rw [extendOperator_eq, extendOperator_eq, extension_of_same_members l.rest begins same]

/-- Two characters are added to the first, although neither `<=` nor `<=>` is a candidate. -/
theorem operator_grows_longest_three_characters :
    let candidates : List (List Char) := [['<'], ['<', '=', '>', '>'], ['<', '-']]
    let l := ofText ['=', '>', '<']
    (l.extendOperator candidates ['<']).1 = ['<', '=', '>'] ∧
      (∃ candidate ∈ candidates, ['<'] <+: candidate) ∧
      (∃ added, Grows l candidates ['<'] added (l.extendOperator candidates ['<'])) ∧
      ∀ candidates', (∀ spelling, spelling ∈ candidates' ↔ spelling ∈ candidates) →
        l.extendOperator candidates' ['<'] = l.extendOperator candidates ['<'] := by
  intro candidates l
  have begins : ∃ candidate ∈ candidates, ['<'] <+: candidate :=
    ⟨['<'], List.mem_cons_self, List.prefix_refl _⟩
  exact ⟨by decide +kernel, begins, operator_grows_longest l candidates ['<'] begins⟩

end Lexer
end Bashling
