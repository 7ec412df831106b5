import Bashling.Number.Binary64

/-!
# Natural numbers as doubles

A natural number is rounded in units of `2 ^ (n.log2 - 52)`. In this unit it lies between `2 ^ 52`
and `2 ^ 53`, so its mantissa has 53 bits. Rounding keeps the number exactly if it is a double
(`toInt?_ofRatio_one_iff`), that is, some mantissa of at most 53 bits times a power of two in the
range of the finite numbers. Such a power is no smaller than the unit, so the unit divides the
number and nothing is lost.

A power of two with a negative exponent multiplies the other side of an equation, so all of this is
about natural numbers.
-/

namespace Bashling

namespace Binary64

/-- The natural numbers that are doubles. -/
def Exact (n : Nat) : Prop :=
  ∃ (mantissa : Nat) (exponent : Int), mantissa < powerOfTwo 53 ∧ -1074 ≤ exponent ∧
    exponent ≤ 971 ∧ mantissa * powerOfTwo exponent.toNat = n * powerOfTwo (-exponent).toNat

/-! ### Powers of two -/

private theorem powerOfTwo_pos (n : Nat) : 0 < powerOfTwo n :=
  Nat.pow_pos (by decide)

private theorem powerOfTwo_add (m n : Nat) : powerOfTwo (m + n) = powerOfTwo m * powerOfTwo n :=
  Nat.pow_add 2 m n

private theorem powerOfTwo_lt_iff {m n : Nat} : powerOfTwo m < powerOfTwo n ↔ m < n :=
  Nat.pow_lt_pow_iff_right (by decide)

private theorem powerOfTwo_dvd {m n : Nat} (within : m ≤ n) : powerOfTwo m ∣ powerOfTwo n :=
  Nat.pow_dvd_pow 2 within

private theorem powerOfTwo_of_nonpos {exponent : Int} (nonpos : exponent ≤ 0) :
    powerOfTwo exponent.toNat = 1 := by
  rw [Int.toNat_of_nonpos nonpos]
  rfl

/-- A power of two in units of another one. -/
private theorem powerOfTwo_inUnits {bits width : Nat} {exponent : Int}
    (sum : (bits : Int) = width + exponent) :
    powerOfTwo bits * powerOfTwo (-exponent).toNat =
      powerOfTwo width * powerOfTwo exponent.toNat := by
  rw [← powerOfTwo_add, ← powerOfTwo_add]
  congr 1
  omega

private theorem inUnits_one (n : Nat) (exponent : Int) :
    inUnits n 1 exponent = (n * powerOfTwo (-exponent).toNat, powerOfTwo exponent.toNat) := by
  unfold inUnits
  split
  next whole => rw [powerOfTwo_of_nonpos (Int.neg_nonpos_of_nonneg whole), Nat.mul_one, Nat.one_mul]
  next broken => rw [powerOfTwo_of_nonpos (Int.le_of_lt (Int.not_le.mp broken))]

private theorem magnitude_eq (mantissa : Nat) (exponent : Int) :
    magnitude mantissa exponent =
      (mantissa * powerOfTwo exponent.toNat, powerOfTwo (-exponent).toNat) := by
  unfold magnitude
  split
  next whole => rw [powerOfTwo_of_nonpos (Int.neg_nonpos_of_nonneg whole)]
  next broken => rw [powerOfTwo_of_nonpos (Int.le_of_lt (Int.not_le.mp broken)), Nat.mul_one]

/-- The integer that a finite number is equal to. -/
theorem toInt?_eq_some_iff {mantissa n : Nat} {exponent : Int} :
    (finite false mantissa exponent).toInt? = some (n : Int) ↔
      (magnitude mantissa exponent).1 = n * (magnitude mantissa exponent).2 := by
  simp only [toInt?, Bool.false_eq_true, if_false]
  constructor
  · intro whole
    split at whole
    next divides =>
      have quotient := Int.ofNat.inj (Option.some.inj whole)
      rw [← quotient, Nat.div_mul_cancel (Nat.dvd_of_mod_eq_zero divides)]
    · cases whole
  · intro equal
    have positive : 0 < (magnitude mantissa exponent).2 := by
      rw [magnitude_eq]
      exact powerOfTwo_pos _
    rw [equal, Nat.mul_mod_left, if_pos rfl, Nat.mul_div_cancel _ positive]

/-! ### Rounding -/

private theorem roundedQuotient_of_dvd {num den : Nat} (positive : 0 < den) (divides : den ∣ num) :
    roundedQuotient num den = num / den := by
  have none : num % den = 0 := Nat.mod_eq_zero_of_dvd divides
  simp [roundedQuotient, none, positive]

private theorem roundedQuotient_le (num den : Nat) : roundedQuotient num den ≤ num / den + 1 := by
  simp only [roundedQuotient]
  split
  · omega
  · split <;> omega

section Unit

variable {n : Nat} {exponent : Int}

/-- In units of a power of two a number has as many bits more than the unit as in ones. -/
private theorem le_inUnits {width : Nat} (positive : n ≠ 0)
    (sum : (n.log2 : Int) = width + exponent) :
    powerOfTwo width * powerOfTwo exponent.toNat ≤ n * powerOfTwo (-exponent).toNat := by
  rw [← powerOfTwo_inUnits sum]
  exact Nat.mul_le_mul_right _ (Nat.log2_self_le positive)

private theorem inUnits_lt (unit : exponent = (n.log2 : Int) - 52) :
    n * powerOfTwo (-exponent).toNat / powerOfTwo exponent.toNat < powerOfTwo 53 := by
  have bits : ((n.log2 + 1 : Nat) : Int) = (53 : Nat) + exponent := by omega
  rw [Nat.div_lt_iff_lt_mul (powerOfTwo_pos _), ← powerOfTwo_inUnits bits]
  exact Nat.mul_lt_mul_of_pos_right Nat.lt_log2_self (powerOfTwo_pos _)

/-- Of the two exponents that the bit lengths leave, a whole number takes the larger one. -/
private theorem unitExponent_one (positive : n ≠ 0) : unitExponent n 1 = (n.log2 : Int) - 52 := by
  have none : Nat.log2 1 = 0 := by decide
  have large : ¬n * powerOfTwo (-((n.log2 : Int) - 53)).toNat /
      powerOfTwo ((n.log2 : Int) - 53).toNat < powerOfTwo 53 := by
    rw [Nat.not_lt, Nat.le_div_iff_mul_le (powerOfTwo_pos _)]
    exact le_inUnits positive (by omega)
  simp only [unitExponent, inUnits_one, none, Int.natCast_zero, Int.sub_zero, if_neg large]
  rw [if_neg (by omega)]
  omega

/-- What is rounded to a finite number is in the range of the finite numbers. -/
private theorem bounds_of_ofRatio {negative : Bool} {mantissa : Nat} (positive : n ≠ 0)
    (rounded : ofRatio false n 1 = .finite negative mantissa exponent) :
    negative = false ∧ mantissa < powerOfTwo 53 ∧ -1074 ≤ exponent ∧ exponent ≤ 971 := by
  have narrower : powerOfTwo 52 < powerOfTwo 53 := powerOfTwo_lt_iff.mpr (by decide)
  simp only [ofRatio, if_neg positive, unitExponent_one positive, inUnits_one] at rounded
  split at rounded
  · -- Rounding has carried into a further bit.
    split at rounded
    · cases rounded
    · cases rounded
      exact ⟨rfl, narrower, by omega, by omega⟩
  next partly =>
    have below := inUnits_lt (n := n) rfl
    have within := roundedQuotient_le (n * powerOfTwo (-((n.log2 : Int) - 52)).toNat)
      (powerOfTwo ((n.log2 : Int) - 52).toNat)
    split at rounded
    · cases rounded
    · cases rounded
      exact ⟨rfl, by omega, by omega, by omega⟩

/-- The unit in which a double is rounded is no larger than that of its own mantissa, so it divides
the number. -/
theorem Exact.inUnits (exact : Exact n) (positive : n ≠ 0) (unit : exponent = (n.log2 : Int) - 52) :
    exponent ≤ 971 ∧ powerOfTwo exponent.toNat ∣ n * powerOfTwo (-exponent).toNat := by
  obtain ⟨mantissa, own, small, -, inRange, equal⟩ := exact
  have within : exponent ≤ own := by
    -- A mantissa of 53 bits in a smaller unit is less than a number with so many bits.
    have less : powerOfTwo (n.log2 + (-own).toNat) < powerOfTwo (53 + own.toNat) := by
      rw [powerOfTwo_add, powerOfTwo_add]
      calc powerOfTwo n.log2 * powerOfTwo (-own).toNat
          ≤ n * powerOfTwo (-own).toNat := Nat.mul_le_mul_right _ (Nat.log2_self_le positive)
        _ = mantissa * powerOfTwo own.toNat := equal.symm
        _ < powerOfTwo 53 * powerOfTwo own.toNat :=
          Nat.mul_lt_mul_of_pos_right small (powerOfTwo_pos _)
    have bits := powerOfTwo_lt_iff.mp less
    omega
  refine ⟨by omega, ?_⟩
  rcases Int.lt_or_le 0 exponent with above | below
  · have product : n = mantissa * powerOfTwo own.toNat := by
      rw [equal, powerOfTwo_of_nonpos (by omega), Nat.mul_one]
    rw [product]
    have divides : powerOfTwo exponent.toNat ∣ powerOfTwo own.toNat := powerOfTwo_dvd (by omega)
    exact Nat.dvd_mul_right_of_dvd (Nat.dvd_mul_left_of_dvd divides _) _
  · rw [powerOfTwo_of_nonpos below]
    exact Nat.one_dvd _

/-- A double is rounded to itself. -/
private theorem Exact.toInt?_ofRatio (exact : Exact n) (positive : n ≠ 0) :
    (ofRatio false n 1).toInt? = some (n : Int) := by
  obtain ⟨inRange, divides⟩ := exact.inUnits positive rfl
  simp only [ofRatio, if_neg positive, unitExponent_one positive, inUnits_one,
    roundedQuotient_of_dvd (powerOfTwo_pos _) divides, if_neg (Nat.ne_of_lt (inUnits_lt rfl)),
    if_neg (Int.not_lt.mpr inRange)]
  rw [toInt?_eq_some_iff, magnitude_eq, Nat.div_mul_cancel divides]

end Unit

private theorem exact_zero : Exact 0 :=
  ⟨0, 0, powerOfTwo_pos _, by decide, by decide, rfl⟩

/-- A natural number is kept by rounding exactly if it is a double. -/
theorem toInt?_ofRatio_one_iff (n : Nat) :
    (ofRatio false n 1).toInt? = some (n : Int) ↔ Exact n := by
  by_cases zero : n = 0
  · subst zero
    exact iff_of_true rfl exact_zero
  constructor
  · intro kept
    cases rounded : ofRatio false n 1 with
    | finite negative mantissa exponent =>
      obtain ⟨rfl, small, low, high⟩ := bounds_of_ofRatio zero rounded
      rw [rounded, toInt?_eq_some_iff, magnitude_eq] at kept
      exact ⟨mantissa, exponent, small, low, high, kept⟩
    | infinite | nan =>
      rw [rounded] at kept
      cases kept
  · exact fun exact => exact.toInt?_ofRatio zero

/-- Up to `2 ^ 53` there are no gaps. -/
theorem exact_of_le {n : Nat} (within : n ≤ powerOfTwo 53) : Exact n := by
  rcases Nat.lt_or_eq_of_le within with less | rfl
  · exact ⟨n, 0, less, by decide, by decide, rfl⟩
  · exact ⟨powerOfTwo 52, 1, powerOfTwo_lt_iff.mpr (by decide), by decide, by decide, by decide⟩

end Binary64
end Bashling
