/-
Which integers are too large for the binary64 format.

An integer is rounded to 53 binary digits, and from 2 ^ 1024 on the format has no finite
number.  The largest finite number is 2 ^ 971 less than that, and an integer in the upper
half of the gap is rounded up, out of the format: a tie goes to the even mantissa, which
is the one that the format does not have.  So the bound is 2 ^ 1024 - 2 ^ 970.
-/
import Mathlib.Algebra.Group.Nat.Defs
import Enrolment.Number.Binary64

namespace Enrolment.Binary64

/-- The least size of an integer that is rounded to no finite number: 2 ^ 1024 - 2 ^ 970. -/
def leastTooLarge : Nat :=
  (2 ^ 54 - 1) * 2 ^ 970

/-! ### Where an integer is cut -/

@[simp] theorem power_of_nonneg (base n : Nat) : power base (n : Int) = base ^ n := rfl

theorem power_of_nonpos {base : Nat} {e : Int} (h : e ≤ 0) : power base e = 1 := by
  unfold power
  rw [Int.toNat_of_nonpos h]
  rfl

/-- The mantissa of a positive integer, before it is brought below 2 ^ 53. -/
def roundedMantissa (num : Nat) : Nat :=
  divideToEven (scaled num 1 (exponentFor num 1)).1 (scaled num 1 (exponentFor num 1)).2

/-- Whether a positive integer is rounded out of the format: its exponent is beyond it, or is the
last one and the mantissa is rounded up to the next. -/
def Overflows (num : Nat) : Prop :=
  roundedMantissa num ≠ 0 ∧
    (971 < exponentFor num 1 ∨ exponentFor num 1 = 971 ∧ roundedMantissa num = power 2 53)

theorem ofRatio_eq_infinite_iff {negative : Bool} {num : Nat} (h : num ≠ 0) :
    (∃ sign, ofRatio negative num 1 = infinite sign) ↔ Overflows num := by
  have hinfinite : ∀ {m : Nat} {e : Int},
      (∃ sign, (if e > 971 then infinite negative else finite negative m e) = infinite sign) ↔
        971 < e := by
    intro m e
    by_cases hlarge : e > 971
    · simp [hlarge]
    · simp only [if_neg hlarge, reduceCtorEq, exists_false, false_iff]
      exact hlarge
  unfold ofRatio Overflows roundedMantissa
  rw [if_neg h]
  -- the cases are opened one by one: the kernel would work out the powers in a single step
  extract_lets +lift e
  split
  rename_i n d hscaled
  rw [hscaled]
  extract_lets +lift m
  change _ ↔ m ≠ 0 ∧ (971 < e ∨ e = 971 ∧ m = power 2 53)
  by_cases hzero : m = 0
  · simp [hzero]
  rw [if_neg hzero]
  split
  rename_i mantissa exponent hpick
  rw [hinfinite]
  by_cases hfull : m = power 2 53
  · rw [if_pos hfull] at hpick
    obtain ⟨rfl, rfl⟩ := Prod.mk.inj hpick
    constructor
    · intro hlarge
      refine ⟨hzero, ?_⟩
      rcases Int.lt_or_le 971 e with hbeyond | hlast
      · exact .inl hbeyond
      · exact .inr ⟨by omega, hfull⟩
    · rintro ⟨-, hbeyond | ⟨hlast, -⟩⟩ <;> omega
  · rw [if_neg hfull] at hpick
    obtain ⟨rfl, rfl⟩ := Prod.mk.inj hpick
    constructor
    · exact fun hbeyond => ⟨hzero, .inl hbeyond⟩
    · rintro ⟨-, hbeyond | ⟨-, hcontra⟩⟩
      · exact hbeyond
      · exact absurd hcontra hfull

/-- An integer of few digits has a small exponent. -/
theorem exponentFor_le {num : Nat} (h : Nat.log2 num ≤ 1022) : exponentFor num 1 ≤ 970 := by
  have hone : Nat.log2 1 = 0 := by decide
  unfold exponentFor
  dsimp only
  rw [hone]
  split <;> omega

/-- A long integer is cut behind its 53rd binary digit. -/
theorem exponentFor_one {num : Nat} {k : Nat} (h : Nat.log2 num = k + 52) (hk : 1 ≤ k) :
    exponentFor num 1 = (k : Int) := by
  have hzero : num ≠ 0 := by
    rintro rfl
    rw [Nat.log2_zero] at h
    omega
  obtain ⟨j, rfl⟩ : ∃ j, k = j + 1 := ⟨k - 1, by omega⟩
  have hleast := Nat.log2_self_le hzero
  have hone : Nat.log2 1 = 0 := by decide
  have hlow : ((j + 1 + 52 : Nat) : Int) - ((0 : Nat) : Int) - 53 = (j : Int) := by omega
  have hpower : power 2 53 = 2 ^ 53 := rfl
  rw [h, show j + 1 + 52 = j + 53 by omega, Nat.pow_add] at hleast
  unfold exponentFor scaled
  rw [h, hone, hlow]
  simp only [power_of_nonpos (show -(j : Int) ≤ 0 by omega), power_of_nonneg, hpower, Nat.mul_one,
    Nat.one_mul]
  rw [if_neg (by omega)]
  omega

theorem roundedMantissa_eq {num : Nat} {k : Nat} (h : Nat.log2 num = k + 52) (hk : 1 ≤ k) :
    roundedMantissa num = divideToEven num (2 ^ k) := by
  unfold roundedMantissa scaled
  rw [exponentFor_one h hk]
  simp only [power_of_nonpos (show -(k : Int) ≤ 0 by omega), power_of_nonneg, Nat.mul_one,
    Nat.one_mul]

/-! ### Rounding at the end of the format -/

theorem le_divideToEven (num den : Nat) : num / den ≤ divideToEven num den := by
  unfold divideToEven
  dsimp only
  split
  · exact Nat.le_refl _
  · split <;> omega

/-- Just below a quotient, what lies in the upper half of the last step is rounded up; the half
itself is, if the number at the lower end of the step is odd. -/
theorem divideToEven_eq_iff {num half k : Nat} (hhalf : 0 < half) (heven : k % 2 = 1)
    (hbelow : num < (k + 1) * (2 * half)) :
    divideToEven num (2 * half) = k + 1 ↔ k * (2 * half) + half ≤ num := by
  have hpos : 0 < 2 * half := by omega
  have hsplit := Nat.div_add_mod num (2 * half)
  have hmod := Nat.mod_lt num hpos
  have hquotient : num / (2 * half) < k + 1 := (Nat.div_lt_iff_lt_mul hpos).2 hbelow
  unfold divideToEven
  dsimp only
  generalize num / (2 * half) = q at *
  generalize num % (2 * half) = r at *
  rw [Nat.mul_comm (2 * half) q] at hsplit
  by_cases hlast : q = k
  · obtain rfl := hlast
    split
    · omega
    · split <;> omega
  · -- below the last step nothing is rounded up that far
    have hstep : (q + 1) * (2 * half) ≤ k * (2 * half) :=
      Nat.mul_le_mul_right _ (by omega)
    rw [Nat.add_mul, Nat.one_mul] at hstep
    constructor
    · intro hround
      exfalso
      split at hround
      · omega
      · split at hround <;> omega
    · intro hle
      omega

/-! ### By the number of binary digits -/

variable {num : Nat}

theorem not_overflows_of_short (h : Nat.log2 num ≤ 1022) : ¬Overflows num := by
  have hexponent := exponentFor_le h
  rintro ⟨-, hbeyond | ⟨hlast, -⟩⟩ <;> omega

theorem overflows_of_long (h : 1024 ≤ Nat.log2 num) : Overflows num := by
  obtain ⟨k, hk⟩ : ∃ k, Nat.log2 num = k + 52 := ⟨Nat.log2 num - 52, by omega⟩
  have hzero : num ≠ 0 := by
    rintro rfl
    rw [Nat.log2_zero] at h
    omega
  have hquotient : 1 ≤ num / 2 ^ k := by
    rw [Nat.le_div_iff_mul_le (Nat.two_pow_pos k), Nat.one_mul]
    exact Nat.le_trans (Nat.pow_le_pow_right (by omega) (by omega)) (Nat.log2_self_le hzero)
  have hmantissa := Nat.le_trans hquotient (le_divideToEven num (2 ^ k))
  unfold Overflows
  rw [exponentFor_one hk (by omega), roundedMantissa_eq hk (by omega)]
  omega

/-- An integer of `k + 54` digits is rounded up to one more just if it lies in the upper half of the
last step. -/
theorem divideToEven_eq_full_iff {k : Nat} (h : Nat.log2 num = k + 53) :
    divideToEven num (2 ^ (k + 1)) = power 2 53 ↔ (2 ^ 54 - 1) * 2 ^ k ≤ num := by
  have hzero : num ≠ 0 := by
    rintro rfl
    rw [Nat.log2_zero] at h
    omega
  have hfull : power 2 53 = 2 ^ 53 - 1 + 1 := rfl
  have hmost := (Nat.log2_lt hzero).1 (show Nat.log2 num < 54 + k by omega)
  rw [Nat.pow_add] at hmost
  rw [hfull, Nat.pow_succ',
    divideToEven_eq_iff (Nat.two_pow_pos k) (by decide) (by omega)]
  omega

/-- Of the integers with the last exponent those from the bound on are rounded up too far. -/
theorem overflows_iff_of_last (h : Nat.log2 num = 1023) : Overflows num ↔ leastTooLarge ≤ num := by
  have hlog : Nat.log2 num = 970 + 1 + 52 := h
  have hfull : power 2 53 = 2 ^ 53 := rfl
  unfold Overflows leastTooLarge
  rw [exponentFor_one hlog (by omega), roundedMantissa_eq hlog (by omega),
    ← divideToEven_eq_full_iff hlog]
  omega

/-- A bound as this one has `k + 54` digits. -/
theorem bound_digits (k : Nat) :
    2 ^ (k + 53) ≤ (2 ^ 54 - 1) * 2 ^ k ∧ (2 ^ 54 - 1) * 2 ^ k < 2 ^ (k + 54) := by
  rw [Nat.pow_add, Nat.pow_add]
  have hpos := Nat.two_pow_pos k
  omega

theorem bound_pos (k : Nat) : 0 < (2 ^ 54 - 1) * 2 ^ k :=
  Nat.mul_pos (by decide) (Nat.two_pow_pos k)

theorem lt_bound_of_log2_lt {k : Nat} (hzero : num ≠ 0) (h : Nat.log2 num < k + 53) :
    num < (2 ^ 54 - 1) * 2 ^ k :=
  Nat.lt_of_lt_of_le ((Nat.log2_lt hzero).1 h) (bound_digits k).1

theorem bound_le_of_le_log2 {k : Nat} (hzero : num ≠ 0) (h : k + 54 ≤ Nat.log2 num) :
    (2 ^ 54 - 1) * 2 ^ k ≤ num :=
  Nat.le_trans (Nat.le_of_lt (bound_digits k).2) ((Nat.le_log2 hzero).1 h)

/-- **An integer has no nearest finite number just if its size is not below the bound.** -/
theorem ofInt?_eq_none_iff (n : Int) : ofInt? n = none ↔ leastTooLarge ≤ n.natAbs := by
  have hinfinite : ofInt? n = none ↔ ∃ sign, ofRatio (n < 0) n.natAbs 1 = infinite sign := by
    unfold ofInt?
    cases ofRatio (n < 0) n.natAbs 1 <;> simp
  rw [hinfinite]
  unfold leastTooLarge
  by_cases hzero : n.natAbs = 0
  · rw [hzero]
    refine iff_of_false ?_ ?_
    · rintro ⟨sign, h⟩
      cases h
    · exact Nat.not_le_of_gt (bound_pos 970)
  rw [ofRatio_eq_infinite_iff hzero]
  rcases Nat.lt_trichotomy (Nat.log2 n.natAbs) 1023 with hshort | hlast | hlong
  · refine iff_of_false (not_overflows_of_short (by omega)) ?_
    exact Nat.not_le_of_gt (lt_bound_of_log2_lt hzero hshort)
  · exact overflows_iff_of_last hlast
  · exact iff_of_true (overflows_of_long hlong) (bound_le_of_le_log2 hzero hlong)

end Enrolment.Binary64
