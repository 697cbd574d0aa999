/-
# Proofs.Number.Shortest — the decimal of a double reads back

A decimal is read as the double nearest to its value, at every size (`rankOfDecimal_eq`): the two
bounds that save the powers of ten lie outside the range of the doubles. So decimals of one value
are read as one double, and the shortest decimal of a double is read as the double
(`rankOfDecimal_shortestDecimal`), whether a candidate was found or the exact decimal was taken.
-/
import WorkspacePolicy.Number.Shortest
import WorkspacePolicy.Proofs.Number.Rounding

namespace WorkspacePolicy

set_option autoImplicit false

/-- The rational number that a decimal stands for. -/
def Decimal.toRat (d : Decimal) : ℚ := d.coefficient * 10 ^ d.exponent

namespace Binary64

theorem ratioOfDecimal_eq (d : Decimal) :
    0 < (ratioOfDecimal d).2 ∧ ((ratioOfDecimal d).1 : ℚ) / (ratioOfDecimal d).2 = d.toRat := by
  simp only [ratioOfDecimal, Decimal.toRat]
  split
  · next sign =>
      refine ⟨Nat.one_pos, ?_⟩
      rw [Nat.pow_eq, ← pow_toNat sign]
      push_cast
      rw [div_one]
  · next sign =>
      refine ⟨Nat.pow_pos (by decide), ?_⟩
      rw [Nat.pow_eq, ← inv_inv ((10 : ℚ) ^ d.exponent), ← pow_toNat_neg sign]
      push_cast
      rw [div_eq_mul_inv]

/-- The number of digits and the exponent of a decimal bound its value. -/
theorem toRat_mem {d : Decimal} (nonzero : d.coefficient ≠ 0) :
    (10 : ℚ) ^ ((Nat.toDigits 10 d.coefficient).length + d.exponent - 1) ≤ d.toRat ∧
      d.toRat < 10 ^ ((Nat.toDigits 10 d.coefficient).length + d.exponent) := by
  have ten : (10 : ℚ) ≠ 0 := by norm_num
  have power : (0 : ℚ) < 10 ^ d.exponent := zpow_pos (by norm_num) _
  obtain ⟨width, digits⟩ : ∃ width, (Nat.toDigits 10 d.coefficient).length = width + 1 :=
    Nat.exists_eq_add_one.mpr (List.length_pos_iff.mpr Nat.toDigits_ne_nil)
  have below : d.coefficient < 10 ^ (width + 1) :=
    (Nat.length_toDigits_le_iff (by decide) (by omega)).mp digits.le
  have above : 10 ^ width ≤ d.coefficient := by
    cases width with
    | zero => exact Nat.one_le_iff_ne_zero.mpr nonzero
    | succ width =>
        have short := Nat.length_toDigits_le_iff (n := d.coefficient) (by decide : 1 < 10)
          (Nat.succ_pos width)
        exact not_lt.mp fun less => absurd (short.mpr less) (by omega)
  have above : (10 : ℚ) ^ width ≤ d.coefficient := by exact_mod_cast above
  have below : (d.coefficient : ℚ) < 10 ^ (width + 1) := by exact_mod_cast below
  rw [digits, Decimal.toRat]
  constructor
  · calc (10 : ℚ) ^ (((width + 1 : ℕ) : ℤ) + d.exponent - 1)
        = 10 ^ width * 10 ^ d.exponent := by
          rw [← zpow_natCast, ← zpow_add₀ ten]
          congr 1
          omega
      _ ≤ d.coefficient * 10 ^ d.exponent := by gcongr
  · rw [zpow_add₀ ten, zpow_natCast]
    gcongr

/-- **A decimal is read as the double nearest to its value.** -/
theorem rankOfDecimal_eq (d : Decimal) :
    rankOfDecimal d = min (rankNearest d.toRat) infiniteRank := by
  simp only [rankOfDecimal]
  split
  · next zero => simp [Decimal.toRat, zero, rankNearest]
  · next nonzero =>
      obtain ⟨above, below⟩ := toRat_mem nonzero
      split
      -- the bounds are on the number of digits, far outside the range of the doubles
      · next large =>
          have beyond : (2 : ℚ) ^ (1025 : ℤ) ≤ 10 ^ (310 : ℤ) := by
            exact_mod_cast (by decide +kernel : 2 ^ 1025 ≤ 10 ^ 310)
          have atLeast : (10 : ℚ) ^ (310 : ℤ) ≤ d.toRat :=
            (zpow_le_zpow_right₀ (by norm_num) (by omega)).trans above
          rw [min_eq_right (infiniteRank_le_rankNearest (beyond.trans atLeast))]
      · split
        · next small =>
            have beyond : (10 : ℚ) ^ (-330 : ℤ) ≤ 2 ^ (-1075 : ℤ) := by
              rw [zpow_neg, zpow_neg]
              refine inv_anti₀ (zpow_pos two_pos _) ?_
              exact_mod_cast (by decide +kernel : 2 ^ 1075 ≤ 10 ^ 330)
            have lessThan : d.toRat < 10 ^ (-330 : ℤ) :=
              below.trans_le (zpow_le_zpow_right₀ (by norm_num) (by omega))
            rw [rankNearest_eq_zero (lessThan.trans_le beyond), Nat.zero_min]
        · obtain ⟨positive, same⟩ := ratioOfDecimal_eq d
          rw [rankOfRatio_eq _ positive, same]

theorem toRat_exactDecimal (rank : ℕ) : (exactDecimal rank).toRat = rankValue rank := by
  simp only [exactDecimal, Decimal.toRat, rankValue]
  generalize (significand rank).1 = m
  generalize (significand rank).2 = q
  split
  · next sign =>
      rw [Nat.pow_eq, ← pow_toNat sign]
      push_cast
      rw [mul_one]
  · next sign =>
      rw [Nat.pow_eq]
      push_cast
      have ten : (10 : ℚ) = 5 * 2 := by norm_num
      rw [pow_toNat_neg sign, ten, mul_zpow, ← mul_assoc, inv_mul_cancel_right₀]
      exact zpow_ne_zero _ (by norm_num)

/-- **The shortest decimal of a double is read as the double.** -/
theorem rankOfDecimal_shortestDecimal {rank : ℕ} (finite : rank ≤ infiniteRank) :
    rankOfDecimal (shortestDecimal rank) = rank := by
  rw [shortestDecimal]
  cases found : (List.range' 1 17).findSome? (decimalOfLength? rank) with
  | none =>
      rw [Option.getD_none, rankOfDecimal_eq, toRat_exactDecimal, rankNearest_rankValue]
      exact min_eq_left finite
  -- a candidate was taken because it reads back
  | some d =>
      obtain ⟨digits, -, candidate⟩ := List.exists_of_findSome?_eq_some found
      simp only [decimalOfLength?] at candidate
      have reads := List.find?_some candidate
      exact beq_iff_eq.mp reads

end Binary64

end WorkspacePolicy
