/-
# Proofs.Number.Rounding — the double nearest to a ratio

Rounding is done on a numerator and a denominator, but it depends on their ratio alone
(`rankOfRatio_eq`): it is `rankNearest`, which rounds a rational number to the spacing of its
binade, ties to even. The value of a rank lies on that spacing, so that it is rounded to itself
(`rankNearest_rankValue`). Values from `2^1025` on are infinite, and those below `2^-1075` are zero.
-/
import Mathlib.Algebra.Order.Floor.Semifield
import Mathlib.Data.Int.Log
import Mathlib.Data.Rat.Floor
import Mathlib.Tactic.FieldSimp
import Mathlib.Tactic.Linarith
import Mathlib.Tactic.Positivity
import WorkspacePolicy.Number.Binary64

namespace WorkspacePolicy.Binary64

set_option autoImplicit false

/-! ## Rounding of rational numbers -/

/-- The whole number nearest to a rational number that is not negative; of two equally near ones
the even one. -/
def roundHalfEven (r : ℚ) : ℕ :=
  let low := ⌊r⌋₊
  if r - low < 1 / 2 then low
  else if 1 / 2 < r - low then low + 1
  else low + low % 2

/-- The exponent of the spacing of the doubles around a positive number. -/
def spacing (r : ℚ) : ℤ := max (Int.log 2 r - 52) (-1074)

/-- The rank nearest to a rational number, where a rank past the last finite one means infinity. -/
def rankNearest (r : ℚ) : ℕ :=
  if r ≤ 0 then 0
  else (spacing r + 1074).toNat * binade + roundHalfEven (r / 2 ^ spacing r)

/-- The value of a finite rank. -/
def rankValue (rank : ℕ) : ℚ := (significand rank).1 * 2 ^ (significand rank).2

theorem roundHalfEven_natCast (n : ℕ) : roundHalfEven n = n := by
  simp [roundHalfEven]

theorem roundHalfEven_of_lt {r : ℚ} (small : r < 1 / 2) : roundHalfEven r = 0 := by
  have low : ⌊r⌋₊ = 0 := Nat.floor_eq_zero.mpr (by linarith)
  have below : r - (0 : ℕ) < 1 / 2 := by simpa using small
  simp only [roundHalfEven, low]
  rw [if_pos below]

/-- Whole numbers are compared with the middle between two of them by the rest of the division. -/
theorem nearestWhole_eq (num : ℕ) {den : ℕ} (positive : 0 < den) :
    nearestWhole num den = roundHalfEven (num / den) := by
  have positive' : (0 : ℚ) < den := by exact_mod_cast positive
  have low : ⌊(num : ℚ) / den⌋₊ = num / den := Nat.floor_div_eq_div num den
  have rest : (num : ℚ) / den - (num / den : ℕ) = (num % den : ℕ) / den := by
    have split : (num : ℚ) = den * (num / den : ℕ) + (num % den : ℕ) := by
      exact_mod_cast (Nat.div_add_mod num den).symm
    rw [eq_div_iff positive'.ne', sub_mul, div_mul_cancel₀ _ positive'.ne']
    linarith
  have lessThan : ((num % den : ℕ) : ℚ) / den < 1 / 2 ↔ 2 * (num % den) < den := by
    rw [div_lt_div_iff₀ positive' two_pos, one_mul, mul_comm]
    exact_mod_cast Iff.rfl
  have moreThan : (1 : ℚ) / 2 < (num % den : ℕ) / den ↔ den < 2 * (num % den) := by
    rw [div_lt_div_iff₀ two_pos positive', one_mul, mul_comm]
    exact_mod_cast Iff.rfl
  simp only [nearestWhole, roundHalfEven, low, rest, lessThan, moreThan]

/-! ## The binade of a ratio -/

theorem le_log_iff {r : ℚ} (positive : 0 < r) {e : ℤ} : e ≤ Int.log 2 r ↔ 2 ^ e ≤ r := by
  simpa using (Int.zpow_le_iff_le_log (b := 2) one_lt_two positive (x := e)).symm

theorem log_lt_iff {r : ℚ} (positive : 0 < r) {e : ℤ} : Int.log 2 r < e ↔ r < 2 ^ e := by
  simpa using (Int.lt_zpow_iff_log_lt (b := 2) one_lt_two positive (x := e)).symm

/-- The logarithm is the one exponent whose powers enclose the number. -/
theorem log_eq_of_mem {r : ℚ} {e : ℤ} (above : 2 ^ e ≤ r) (below : r < 2 ^ (e + 1)) :
    Int.log 2 r = e := by
  have positive : 0 < r := lt_of_lt_of_le (zpow_pos two_pos e) above
  have atLeast := (le_log_iff positive).mpr above
  have lessThan := (log_lt_iff positive).mpr below
  omega

theorem pow_toNat {b : ℚ} {e : ℤ} (sign : 0 ≤ e) : b ^ e.toNat = b ^ e := by
  rw [← zpow_natCast, Int.toNat_of_nonneg sign]

theorem pow_toNat_neg {b : ℚ} {e : ℤ} (sign : ¬0 ≤ e) : b ^ (-e).toNat = (b ^ e)⁻¹ := by
  rw [pow_toNat (by omega), zpow_neg]

/-- The exponents of two numbers give the exponent of their ratio up to one. -/
theorem ratio_mem {num den : ℕ} (positive : 0 < num) (positive' : 0 < den) :
    (2 : ℚ) ^ ((num.log2 : ℤ) - den.log2 - 1) ≤ num / den ∧
      (num : ℚ) / den < 2 ^ ((num.log2 : ℤ) - den.log2 + 1) := by
  have least : (2 : ℚ) ^ num.log2 ≤ num := by exact_mod_cast Nat.log2_self_le positive.ne'
  have least' : (2 : ℚ) ^ den.log2 ≤ den := by exact_mod_cast Nat.log2_self_le positive'.ne'
  have below : (num : ℚ) < 2 ^ (num.log2 + 1) := by exact_mod_cast Nat.lt_log2_self
  have below' : (den : ℚ) < 2 ^ (den.log2 + 1) := by exact_mod_cast Nat.lt_log2_self
  have den_pos : (0 : ℚ) < den := by exact_mod_cast positive'
  constructor
  · calc (2 : ℚ) ^ ((num.log2 : ℤ) - den.log2 - 1)
        = 2 ^ num.log2 / 2 ^ (den.log2 + 1) := by
          rw [sub_sub, zpow_sub₀ two_ne_zero]
          exact_mod_cast rfl
      _ ≤ num / den := by gcongr
  · calc (num : ℚ) / den < 2 ^ (num.log2 + 1) / 2 ^ den.log2 := by gcongr
      _ = 2 ^ ((num.log2 : ℤ) - den.log2 + 1) := by
          rw [sub_add_eq_add_sub, zpow_sub₀ two_ne_zero]
          exact_mod_cast rfl

/-- A ratio is compared with a power of two by whole numbers. -/
theorem zpow_le_ratio_iff (num : ℕ) {den : ℕ} (positive : 0 < den) (e : ℤ) :
    (2 : ℚ) ^ e ≤ num / den ↔
      if 0 ≤ e then den * Nat.pow 2 e.toNat ≤ num else den ≤ num * Nat.pow 2 (-e).toNat := by
  have den_pos : (0 : ℚ) < den := by exact_mod_cast positive
  rw [le_div_iff₀ den_pos]
  split
  · next sign =>
      rw [← pow_toNat sign, mul_comm, Nat.pow_eq]
      exact_mod_cast Iff.rfl
  · next sign =>
      have power : (0 : ℚ) < 2 ^ (-e).toNat := by positivity
      rw [← inv_inv ((2 : ℚ) ^ e), ← pow_toNat_neg sign, inv_mul_le_iff₀ power, mul_comm,
        Nat.pow_eq]
      exact_mod_cast Iff.rfl

theorem floorLog2_eq {num den : ℕ} (positive : 0 < num) (positive' : 0 < den) :
    floorLog2 num den = Int.log 2 ((num : ℚ) / den) := by
  obtain ⟨above, below⟩ := ratio_mem positive positive'
  have test := zpow_le_ratio_iff num positive' ((num.log2 : ℤ) - den.log2)
  have chosen : floorLog2 num den = if (2 : ℚ) ^ ((num.log2 : ℤ) - den.log2) ≤ num / den then
      (num.log2 : ℤ) - den.log2 else num.log2 - den.log2 - 1 := by
    simp only [floorLog2, test]
    split <;> rfl
  rw [chosen]
  split
  · next fits => exact (log_eq_of_mem fits below).symm
  · next misses =>
      refine (log_eq_of_mem above ?_).symm
      rw [sub_add_cancel]
      exact not_le.mp misses

/-! ## Rounding of ratios -/

/-- **Rounding depends on the ratio alone.** -/
theorem rankOfRatio_eq (num : ℕ) {den : ℕ} (positive : 0 < den) :
    rankOfRatio num den = rankNearest (num / den) := by
  by_cases zero : num = 0
  · simp [rankOfRatio, rankNearest, zero]
  have num_pos : 0 < num := Nat.pos_of_ne_zero zero
  have ratio_pos : (0 : ℚ) < num / den := by positivity
  simp only [rankOfRatio, zero, ↓reduceIte, floorLog2_eq num_pos positive, rankNearest,
    not_le.mpr ratio_pos]
  rw [← spacing]
  congr 1
  generalize spacing ((num : ℚ) / den) = q
  split
  · next sign =>
      have den_pos : 0 < den * Nat.pow 2 q.toNat := Nat.mul_pos positive (Nat.two_pow_pos _)
      rw [nearestWhole_eq num den_pos, ← pow_toNat sign, div_div, Nat.pow_eq]
      push_cast
      rfl
  · next sign =>
      rw [nearestWhole_eq _ positive, ← inv_inv ((2 : ℚ) ^ q), ← pow_toNat_neg sign, div_inv_eq_mul,
        Nat.pow_eq]
      push_cast
      rw [mul_div_right_comm]

theorem log_mul_zpow {m : ℕ} (positive : 0 < m) (q : ℤ) :
    Int.log 2 ((m : ℚ) * 2 ^ q) = m.log2 + q := by
  have power : (0 : ℚ) < 2 ^ q := zpow_pos two_pos q
  have least : (2 : ℚ) ^ m.log2 ≤ m := by exact_mod_cast Nat.log2_self_le positive.ne'
  have below : (m : ℚ) < 2 ^ (m.log2 + 1) := by exact_mod_cast Nat.lt_log2_self
  apply log_eq_of_mem
  · rw [zpow_add₀ two_ne_zero, zpow_natCast]
    gcongr
  · rw [add_right_comm, zpow_add₀ two_ne_zero]
    gcongr
    exact_mod_cast below

/-- The value of a rank lies on the spacing of its binade. -/
theorem spacing_rankValue {rank : ℕ} (positive : 0 < rank) :
    spacing (rankValue rank) = (significand rank).2 := by
  have whole : binade = 2 ^ 52 := rfl
  simp only [rankValue, significand, spacing]
  split
  · next small =>
      have few : rank.log2 < 52 := (Nat.log2_lt positive.ne').mpr (whole ▸ small)
      rw [log_mul_zpow positive]
      omega
  · next large =>
      have atLeast : 1 ≤ rank / binade := (Nat.one_le_div_iff (by decide)).mpr (by omega)
      have rest : rank % binade < binade := Nat.mod_lt rank (by decide)
      have digits : (binade + rank % binade).log2 = 52 := by
        rw [Nat.log2_eq_iff (by omega)]
        omega
      rw [log_mul_zpow (by omega), digits]
      omega

/-- **The value of a rank is rounded to the rank.** -/
theorem rankNearest_rankValue (rank : ℕ) : rankNearest (rankValue rank) = rank := by
  have whole : 0 < binade := by decide
  by_cases zero : rank = 0
  · subst zero
    simp [rankNearest, rankValue, significand, whole]
  have positive : 0 < (significand rank).1 := by
    simp only [significand]
    split <;> omega
  have power : (0 : ℚ) < 2 ^ (significand rank).2 := zpow_pos two_pos _
  have value_pos : 0 < rankValue rank := by
    rw [rankValue]
    positivity
  rw [rankNearest, if_neg (not_le.mpr value_pos), spacing_rankValue (by omega)]
  rw [rankValue, mul_div_cancel_right₀ _ power.ne', roundHalfEven_natCast]
  have split := Nat.div_add_mod rank binade
  simp only [significand]
  split
  · simp
  · next large =>
      have atLeast : 1 ≤ rank / binade := (Nat.one_le_div_iff (by decide)).mpr (by omega)
      have step : ((rank / binade : ℕ) - 1075 + 1074 : ℤ).toNat = rank / binade - 1 := by omega
      rw [step, Nat.sub_one_mul, Nat.mul_comm]
      have : binade ≤ binade * (rank / binade) := Nat.le_mul_of_pos_right _ atLeast
      omega

/-! ## The ends of the range -/

theorem infiniteRank_le_rankNearest {r : ℚ} (large : 2 ^ (1025 : ℤ) ≤ r) :
    infiniteRank ≤ rankNearest r := by
  have positive : 0 < r := lt_of_lt_of_le (zpow_pos two_pos _) large
  have log_le := (le_log_iff positive).mpr large
  have step : 2047 ≤ (spacing r + 1074).toNat := by
    simp only [spacing]
    omega
  rw [rankNearest, if_neg (not_le.mpr positive), infiniteRank]
  exact (Nat.mul_le_mul_right binade step).trans (Nat.le_add_right _ _)

theorem rankNearest_eq_zero {r : ℚ} (small : r < 2 ^ (-1075 : ℤ)) : rankNearest r = 0 := by
  rw [rankNearest]
  split
  · rfl
  · next positive =>
      have positive : 0 < r := not_le.mp positive
      have log_lt := (log_lt_iff positive).mpr small
      have least : spacing r = -1074 := by
        simp only [spacing]
        omega
      have power : (0 : ℚ) < 2 ^ (-1074 : ℤ) := zpow_pos two_pos _
      have half : r / 2 ^ (-1074 : ℤ) < 1 / 2 := by
        have sum : (-1075 : ℤ) = -1 + -1074 := rfl
        rw [sum, zpow_add₀ two_ne_zero, zpow_neg_one] at small
        rwa [div_lt_iff₀ power, one_div]
      rw [least, roundHalfEven_of_lt half]
      rfl

end WorkspacePolicy.Binary64
