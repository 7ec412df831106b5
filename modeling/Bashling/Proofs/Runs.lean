/-!
# Runs of characters

A run of characters of one kind ends at the first character of another kind, so a text is cut in one
way only into a run and what follows it (`run_unique`). The digits of a number are such a run, and
they tell which number it is.
-/

namespace Bashling

section Run

variable {p : Char → Bool} {run run' later later' : List Char}

theorem takeWhile_run (all : ∀ c ∈ run, p c = true) (ends : ∀ c ∈ later.head?, p c = false) :
    (run ++ later).takeWhile p = run := by
  rw [List.takeWhile_append_of_pos all]
  cases later with
  | nil => simp
  | cons c later => simp [ends c rfl]

theorem run_unique (all : ∀ c ∈ run, p c = true) (ends : ∀ c ∈ later.head?, p c = false)
    (all' : ∀ c ∈ run', p c = true) (ends' : ∀ c ∈ later'.head?, p c = false)
    (same : run ++ later = run' ++ later') : run = run' ∧ later = later' := by
  have runs : run = run' := by
    rw [← takeWhile_run all ends, same, takeWhile_run all' ends']
  subst runs
  exact ⟨rfl, List.append_cancel_left same⟩

end Run

/-! ### Numbers -/

theorem toDigits_injective {m n : Nat} (same : Nat.toDigits 10 m = Nat.toDigits 10 n) : m = n := by
  have read := congrArg (Nat.ofDigitChars 10 · 0) same
  simpa using read

theorem isDigit_of_mem_toDigits {n : Nat} {c : Char} (member : c ∈ Nat.toDigits 10 n) :
    c.isDigit = true :=
  Nat.isDigit_of_mem_toDigits (by decide) (by decide) member

theorem toDigits_eq_cons (n : Nat) :
    ∃ c rest, Nat.toDigits 10 n = c :: rest ∧ c.isDigit = true := by
  obtain ⟨c, rest, digits⟩ := List.exists_cons_of_ne_nil (@Nat.toDigits_ne_nil n 10)
  exact ⟨c, rest, digits, isDigit_of_mem_toDigits (by rw [digits]; exact List.mem_cons_self)⟩

/-- The characters of a whole number that may be negative. -/
def isSigned (c : Char) : Bool := c == '-' || c.isDigit

theorem toList_toString_int (value : Int) :
    (toString value).toList =
      if 0 ≤ value then Nat.toDigits 10 value.toNat else '-' :: Nat.toDigits 10 (-value).toNat := by
  rw [Int.toString_eq_repr, Int.repr_eq_if]
  split
  · exact Nat.toList_repr
  · rw [String.toList_append, Nat.toList_repr]
    rfl

private theorem isSigned_of_mem_toString {value : Int} :
    ∀ c ∈ (toString value).toList, isSigned c = true := by
  intro c member
  rw [toList_toString_int] at member
  split at member
  · simp [isSigned, isDigit_of_mem_toDigits member]
  · rcases List.mem_cons.mp member with rfl | digit
    · rfl
    · simp [isSigned, isDigit_of_mem_toDigits digit]

theorem toString_int_injective {value value' : Int}
    (same : (toString value).toList = (toString value').toList) : value = value' := by
  -- A number that is not negative starts with a digit.
  have unsigned (m n : Nat) : Nat.toDigits 10 m ≠ '-' :: Nat.toDigits 10 n := by
    intro equal
    have digit : ('-').isDigit = true :=
      isDigit_of_mem_toDigits (by rw [equal]; exact List.mem_cons_self)
    exact absurd digit (by decide)
  rw [toList_toString_int, toList_toString_int] at same
  split at same <;> split at same
  · have := toDigits_injective same
    omega
  · exact absurd same (unsigned _ _)
  · exact absurd same.symm (unsigned _ _)
  · have := toDigits_injective (List.cons.inj same).2
    omega

theorem integer_unique {value value' : Int} {later later' : List Char}
    (ends : ∀ c ∈ later.head?, isSigned c = false) (ends' : ∀ c ∈ later'.head?, isSigned c = false)
    (same : (toString value).toList ++ later = (toString value').toList ++ later') :
    value = value' ∧ later = later' := by
  obtain ⟨digits, rest⟩ :=
    run_unique isSigned_of_mem_toString ends isSigned_of_mem_toString ends' same
  exact ⟨toString_int_injective digits, rest⟩

end Bashling
