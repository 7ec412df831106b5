/-!
# Sets of characters as ascending runs

A character class of the Unicode standard is a set of code points, given here as the list of its
maximal runs in ascending order. A search can stop at the first run that does not end before the
code point: every later run starts after it. So looking a character up in ascending runs is the
same as asking whether some run holds it (`contains_iff`).

It is assumed that characters are those of Unicode 14. Later versions assign more code points, so
they have more letters and digits and fewer characters that cannot be printed. Only the runs depend
on the version. What is proved of them is that they ascend, which of the classes are apart, and to
which class some ASCII characters belong.
-/

namespace Bashling.Text

/-- First and last code point of each run. -/
abbrev Ranges := List (Nat × Nat)

namespace Ranges

/-- How far into its run a code point lies, for a code point of the set. -/
def offset? : Ranges → Nat → Option Nat
  | [], _ => none
  | (first, last) :: later, code =>
    if last < code then offset? later code
    else if first ≤ code then some (code - first)
    else none

def contains (ranges : Ranges) (c : Char) : Bool :=
  (ranges.offset? c.toNat).isSome

/-- Each run is in order and ends before the next one starts. -/
def Ascending : Ranges → Prop
  | [] => True
  | [run] => run.1 ≤ run.2
  | run :: next :: later => run.1 ≤ run.2 ∧ run.2 < next.1 ∧ Ascending (next :: later)

/-- Decides the order run by run. -/
def decideAscending : (ranges : Ranges) → Decidable ranges.Ascending
  | [] => .isTrue trivial
  | [run] => inferInstanceAs (Decidable (run.1 ≤ run.2))
  | run :: next :: later =>
    have := decideAscending (next :: later)
    inferInstanceAs (Decidable (run.1 ≤ run.2 ∧ run.2 < next.1 ∧ Ascending (next :: later)))

instance (ranges : Ranges) : Decidable ranges.Ascending := decideAscending ranges

theorem Ascending.tail {run : Nat × Nat} {later : Ranges} (ordered : Ascending (run :: later)) :
    Ascending later := by
  cases later with
  | nil => trivial
  | cons next later => exact ordered.2.2

/-- In ascending runs every later run starts after the end of the first. -/
theorem Ascending.lt_of_mem {run : Nat × Nat} {later : Ranges}
    (ordered : Ascending (run :: later)) : ∀ other ∈ later, run.2 < other.1 := by
  induction later generalizing run with
  | nil => simp
  | cons next later ih =>
    intro other member
    rcases List.mem_cons.mp member with rfl | member
    · exact ordered.2.1
    · have inOrder : next.1 ≤ next.2 := by
        cases later with
        | nil => exact ordered.2.2
        | cons => exact ordered.2.2.1
      exact Nat.lt_trans (Nat.lt_of_lt_of_le ordered.2.1 inOrder) (ih ordered.2.2 other member)

private theorem isSome_offset?_iff {ranges : Ranges} (ordered : ranges.Ascending) (code : Nat) :
    (ranges.offset? code).isSome ↔ ∃ run ∈ ranges, run.1 ≤ code ∧ code ≤ run.2 := by
  induction ranges with
  | nil => simp [offset?]
  | cons run later ih =>
    obtain ⟨first, last⟩ := run
    have after := ordered.lt_of_mem
    rw [offset?]
    split
    next past =>
      rw [ih ordered.tail]
      constructor
      · rintro ⟨other, member, inside⟩
        exact ⟨other, List.mem_cons_of_mem _ member, inside⟩
      · rintro ⟨other, member, inside⟩
        rcases List.mem_cons.mp member with rfl | member
        · exact absurd inside.2 (Nat.not_le.mpr past)
        · exact ⟨other, member, inside⟩
    next within =>
      split
      next started =>
        exact iff_of_true rfl
          ⟨(first, last), List.mem_cons_self, started, Nat.not_lt.mp within⟩
      next early =>
        refine iff_of_false (by simp) ?_
        rintro ⟨other, member, inside⟩
        rcases List.mem_cons.mp member with rfl | member
        · exact early inside.1
        · have later : last < other.1 := after other member
          omega

/-- A character is in a set of ascending runs exactly when some run holds its code point. -/
theorem contains_iff {ranges : Ranges} (ordered : ranges.Ascending) (c : Char) :
    ranges.contains c ↔ ∃ run ∈ ranges, run.1 ≤ c.toNat ∧ c.toNat ≤ run.2 :=
  isSome_offset?_iff ordered c.toNat

end Ranges
end Bashling.Text
