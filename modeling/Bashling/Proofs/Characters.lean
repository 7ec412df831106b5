import Bashling.Lexer

/-!
# Classes of characters

Letters, digits, blanks, the quote and the characters of operators have nothing in common. Letters,
digits and blanks are sets of code points in ascending runs, and two such sets are compared in one
pass over both (`Ranges.apart`).
-/

namespace Bashling

namespace Text

namespace Ranges

/-- The runs that do not end before a code point. -/
def since (code : Nat) : Ranges → Ranges
  | [] => []
  | run :: later => if run.2 < code then since code later else run :: later

/-- Whether two sets in ascending runs have no code point in common. -/
def apart (ranges : Ranges) : Ranges → Bool
  | [] => true
  | run :: later =>
    let rest := ranges.since run.1
    rest.head?.all (fun next => run.2 < next.1) && apart rest later

private theorem mem_since {ranges : Ranges} {code : Nat} {run : Nat × Nat} (member : run ∈ ranges)
    (reaches : code ≤ run.2) : run ∈ ranges.since code := by
  induction ranges with
  | nil => cases member
  | cons first later ih =>
    rw [since]
    split
    next ended =>
      rcases List.mem_cons.mp member with rfl | member
      · omega
      · exact ih member
    next => exact member

theorem Ascending.since {ranges : Ranges} (ordered : ranges.Ascending) (code : Nat) :
    (ranges.since code).Ascending := by
  induction ranges with
  | nil => exact ordered
  | cons first later ih =>
    rw [Ranges.since]
    split
    · exact ih ordered.tail
    · exact ordered

/-- In ascending runs none starts before the first one. -/
private theorem Ascending.first_le {ranges : Ranges} (ordered : ranges.Ascending)
    {first : Nat × Nat} (starts : ranges.head? = some first) : ∀ run ∈ ranges, first.1 ≤ run.1 := by
  cases ranges with
  | nil => cases starts
  | cons run later =>
    cases starts
    intro other member
    have inOrder : first.1 ≤ first.2 := by
      cases later with
      | nil => exact ordered
      | cons => exact ordered.1
    rcases List.mem_cons.mp member with rfl | member
    · exact Nat.le_refl _
    · have after := ordered.lt_of_mem other member
      omega

/-- The induction is on the second set: what its first run leaves of the first set is all that a
later run can meet. -/
private theorem not_both {ranges others : Ranges} (ordered : ranges.Ascending)
    (ordered' : others.Ascending) (separate : ranges.apart others = true) {code : Nat}
    {run other : Nat × Nat} (member : run ∈ ranges) (inside : run.1 ≤ code ∧ code ≤ run.2)
    (member' : other ∈ others) (inside' : other.1 ≤ code ∧ code ≤ other.2) : False := by
  induction others generalizing ranges with
  | nil => cases member'
  | cons next later ih =>
    rw [apart, Bool.and_eq_true] at separate
    obtain ⟨clear, separate'⟩ := separate
    have reached : next.1 ≤ code := by
      rcases List.mem_cons.mp member' with rfl | member'
      · exact inside'.1
      · have := ordered'.first_le rfl other (List.mem_cons_of_mem _ member')
        omega
    have left : run ∈ ranges.since next.1 := mem_since member (by omega)
    rcases List.mem_cons.mp member' with rfl | member'
    · -- The first run that is left starts behind this one, and so does every other.
      cases starts : (ranges.since other.1).head? with
      | none =>
        rw [List.head?_eq_none_iff.mp starts] at left
        cases left
      | some first =>
        have least := (ordered.since other.1).first_le starts run left
        rw [starts, Option.all_some, decide_eq_true_eq] at clear
        omega
    · exact ih (ordered.since next.1) ordered'.tail separate' left member'

private theorem contains_apart {ranges others : Ranges} (ordered : ranges.Ascending)
    (ordered' : others.Ascending) (separate : ranges.apart others = true) {c : Char}
    (member : ranges.contains c = true) : others.contains c = false := by
  obtain ⟨run, listed, inside⟩ := (contains_iff ordered c).mp member
  rw [Bool.eq_false_iff]
  intro member'
  obtain ⟨other, listed', inside'⟩ := (contains_iff ordered' c).mp member'
  exact not_both ordered ordered' separate listed inside listed' inside'

end Ranges

/-! ### Letters, digits and blanks -/

variable {c : Char}

theorem isDigit_of_isLetter (letter : isLetter c = true) : isDigit c = false := by
  rw [isDigit, Bool.or_eq_false_iff]
  constructor
  · exact Ranges.contains_apart letters_ascending decades_ascending (by decide +kernel) letter
  · exact Ranges.contains_apart letters_ascending ornamentalDigits_ascending (by decide +kernel)
      letter

theorem isBlank_of_isLetter (letter : isLetter c = true) : isBlank c = false :=
  Ranges.contains_apart letters_ascending blanks_ascending (by decide +kernel) letter

theorem isBlank_of_isDigit (digit : isDigit c = true) : isBlank c = false := by
  rw [isDigit, Bool.or_eq_true] at digit
  rcases digit with decimal | ornamental
  · exact Ranges.contains_apart decades_ascending blanks_ascending (by decide +kernel) decimal
  · exact Ranges.contains_apart ornamentalDigits_ascending blanks_ascending (by decide +kernel)
      ornamental

theorem isLetter_of_isDigit (digit : isDigit c = true) : isLetter c = false := by
  rw [Bool.eq_false_iff]
  intro letter
  rw [isDigit_of_isLetter letter] at digit
  cases digit

theorem isNumeric_of_isLetter (letter : isLetter c = true) : Lexer.isNumeric c = false := by
  have noPoint : c ≠ '.' := by
    rintro rfl
    exact absurd letter (by decide)
  simp [Lexer.isNumeric, isDigit_of_isLetter letter, noPoint]

theorem isNumeric_of_isBlank (blank : isBlank c = true) : Lexer.isNumeric c = false := by
  rw [Bool.eq_false_iff]
  intro numeric
  rw [Lexer.isNumeric, Bool.or_eq_true, beq_iff_eq] at numeric
  rcases numeric with digit | rfl
  · rw [isBlank_of_isDigit digit] at blank
    cases blank
  · exact absurd blank (by decide)

theorem isLetter_of_isBlank (blank : isBlank c = true) : isLetter c = false := by
  rw [Bool.eq_false_iff]
  intro letter
  rw [isBlank_of_isLetter letter] at blank
  cases blank

end Text

/-! ### Spellings -/

/-- The characters of operators belong to no other class. -/
theorem Operator.class_of_mem_spelling (kind : Operator) : ∀ c ∈ kind.spelling,
    Text.isDigit c = false ∧ Text.isLetter c = false ∧ Text.isBlank c = false ∧ c ≠ '"' ∧
      c ≠ '.' := by
  have classes : kind.spelling.all (fun c =>
      !Text.isDigit c && !Text.isLetter c && !Text.isBlank c && c != '"' && c != '.') = true := by
    cases kind <;> decide
  intro c member
  simpa [and_assoc] using List.all_eq_true.mp classes c member

theorem Keyword.isLetter_of_mem_spelling (kind : Keyword) :
    ∀ c ∈ kind.spelling, Text.isLetter c = true := by
  have letters : kind.spelling.all Text.isLetter = true := by cases kind <;> decide
  exact List.all_eq_true.mp letters

end Bashling
