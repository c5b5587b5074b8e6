import XrPanel.Measure
import XrPanel.Proofs.DoubleRounding

namespace XrPanel.Measure

open Number Text

structure HardlyAbove (c : Rat) (p q : Int) : Prop where
  num_pos : 0 < p
  den_pos : 0 < q
  low : p / q ≤ c
  high : c ≤ p / q * (1 + 1 / 2 ^ 54)

theorem centimetresPerFoot_hardlyAbove : HardlyAbove centimetresPerFoot 762 25 := by
  constructor <;> decide +kernel

theorem centimetresPerInch_hardlyAbove : HardlyAbove centimetresPerInch 127 50 := by
  constructor <;> decide +kernel

namespace HardlyAbove

variable {c : Rat} {p q n : Int} (h : HardlyAbove c p q)

include h

theorem cast_num_pos : (0 : Rat) < p := by exact_mod_cast h.num_pos

theorem cast_den_pos : (0 : Rat) < q := by exact_mod_cast h.den_pos

theorem pos : 0 < c := (div_pos h.cast_num_pos h.cast_den_pos).trans_le h.low

theorem prod_nonneg (hn : 0 ≤ n) : 0 ≤ n * q := Int.mul_nonneg hn h.den_pos.le

theorem div_le (hn : 0 ≤ n) : (n : Rat) / c ≤ n * q / p := by
  have hn' : (0 : Rat) ≤ n := by exact_mod_cast hn
  rw [← div_div_eq_mul_div]
  exact div_le_div_of_nonneg_left hn' (div_pos h.cast_num_pos h.cast_den_pos) h.low

theorem le_div (hn : 0 ≤ n) : (n : Rat) * q / p ≤ n / c + n / c / 2 ^ 54 := by
  have hn' : (0 : Rat) ≤ n := by exact_mod_cast hn
  have hp := h.cast_num_pos
  have hq := h.cast_den_pos
  have hc := h.pos
  have hscale : (n : Rat) / c + n / c / 2 ^ 54 = n * q / p * (p / q * (1 + 1 / 2 ^ 54) / c) := by
    field_simp
  rw [hscale]
  apply le_mul_of_one_le_right (by positivity)
  rw [one_le_div hc]
  exact h.high

theorem tdiv_bounds (hn : 0 ≤ n) :
    ((n * q).tdiv p : Rat) ≤ n * q / p ∧ (n : Rat) * q / p + 1 / p ≤ (n * q).tdiv p + 1 := by
  have hp := h.cast_num_pos
  have hdiv : (n * q).tdiv p = n * q / p := Int.tdiv_eq_ediv_of_nonneg (h.prod_nonneg hn)
  have hlow : (n * q).tdiv p * p ≤ n * q := hdiv ▸ Int.ediv_mul_le _ h.num_pos.ne'
  have hhigh : n * q + 1 ≤ ((n * q).tdiv p + 1) * p := hdiv ▸ Int.lt_ediv_add_one_mul_self _ h.num_pos
  constructor
  · rw [le_div_iff₀ hp]
    exact_mod_cast hlow
  · rw [← add_div, div_le_iff₀ hp]
    exact_mod_cast hhigh

theorem truncate_double_of_nonneg (hn : 0 ≤ n) (hsmall : n * q < 2 ^ 53) :
    truncate (double (n / c)) = (n * q).tdiv p := by
  have hp := h.cast_num_pos
  have hone : (1 : Rat) ≤ p := by exact_mod_cast h.num_pos
  have hprod : (0 : Rat) ≤ n * q := by exact_mod_cast h.prod_nonneg hn
  have hsmall' : (n : Rat) * q < 2 ^ 53 := by exact_mod_cast hsmall
  have hzero : (0 : Rat) ≤ n / c := div_nonneg (by exact_mod_cast hn) h.pos.le
  have hle := h.div_le hn
  have hge := h.le_div hn
  obtain ⟨hbelow, habove⟩ := h.tdiv_bounds hn
  -- At an exact boundary the quotient is hardly below the integer, and only the rounding brings it back.
  have hlow : ((n * q).tdiv p : Rat) ≤ double (n / c) := by
    apply le_double hzero
    · exact (hle.trans (div_le_self hprod hone)).trans_lt hsmall'
    · linarith
  have hhigh : double (n / c) < (n * q).tdiv p + 1 := by
    have herr := (abs_le.1 (abs_double_sub_le (n / c))).2
    rw [abs_of_nonneg hzero] at herr
    have hgap : (n : Rat) * q / p / 2 ^ 53 < 1 / p := by
      rw [div_right_comm]
      apply div_lt_div_of_pos_right _ hp
      rw [div_lt_one (by positivity)]
      exact hsmall'
    linarith
  have hpart : (0 : Rat) ≤ (n * q).tdiv p := by
    exact_mod_cast Int.tdiv_nonneg (h.prod_nonneg hn) h.num_pos.le
  exact truncate_of_nonneg (hpart.trans hlow) hlow hhigh

theorem truncate_double (hsmall : |n| * q < 2 ^ 53) : truncate (double (n / c)) = (n * q).tdiv p := by
  rcases le_total 0 n with hn | hn
  · rw [abs_of_nonneg hn] at hsmall
    exact h.truncate_double_of_nonneg hn hsmall
  · obtain ⟨m, rfl⟩ : ∃ m, n = -m := ⟨-n, (neg_neg n).symm⟩
    have hm : 0 ≤ m := by omega
    rw [abs_neg, abs_of_nonneg hm] at hsmall
    rw [Int.cast_neg, neg_div, double_neg, truncate_neg, h.truncate_double_of_nonneg hm hsmall, Int.neg_mul,
      Int.neg_tdiv]

end HardlyAbove

theorem tdiv_inches (n : Int) : ((n * 50).tdiv 127).tdiv 12 = (n * 25).tdiv 762 := by
  have hnonneg : ∀ m : Int, 0 ≤ m → ((m * 50).tdiv 127).tdiv 12 = (m * 25).tdiv 762 := by
    intro m hm
    rw [Int.tdiv_eq_ediv_of_nonneg (Int.tdiv_nonneg (by omega) (by omega)), Int.tdiv_eq_ediv_of_nonneg (by omega),
      Int.tdiv_eq_ediv_of_nonneg (by omega)]
    omega
  rcases le_total 0 n with hn | hn
  · exact hnonneg n hn
  · have h := hnonneg (-n) (by omega)
    rw [Int.neg_mul, Int.neg_mul, Int.neg_tdiv, Int.neg_tdiv, Int.neg_tdiv] at h
    omega

theorem tdiv_nonpos {n p : Int} (hn : n ≤ 0) (hp : 0 < p) : n.tdiv p ≤ 0 := by
  rw [← Int.zero_tdiv p]
  exact Int.tdiv_le_tdiv hp hn

theorem tmod_nonpos {n : Int} (p : Int) (hn : n ≤ 0) : n.tmod p ≤ 0 := by
  have h := Int.tmod_nonneg p (Int.neg_nonneg_of_nonpos hn)
  rw [Int.neg_tmod] at h
  omega

/-- Feet and inches are those of the exact height, cut off toward zero: both belong to the same number of whole
inches. -/
theorem height_label_is_exact (cm : Int32) :
    ∃ feet inches : Int, feetInches cm = decimal feet ++ "' " ++ decimal inches ++ "''" ∧
      feet = (25 * cm.toInt).tdiv 762 ∧ 12 * feet + inches = (50 * cm.toInt).tdiv 127 ∧ |inches| < 12 ∧
      (0 ≤ cm.toInt → 0 ≤ feet ∧ 0 ≤ inches) ∧ (cm.toInt ≤ 0 → feet ≤ 0 ∧ inches ≤ 0) := by
  have hsize : |cm.toInt| ≤ 2147483648 := abs_le.2 ⟨cm.le_toInt, cm.toInt_lt.le⟩
  have hfeet : truncate (double (cm.toInt / centimetresPerFoot)) = (cm.toInt * 25).tdiv 762 :=
    centimetresPerFoot_hardlyAbove.truncate_double (by omega)
  have htotal : truncate (double (cm.toInt / centimetresPerInch)) = (cm.toInt * 50).tdiv 127 :=
    centimetresPerInch_hardlyAbove.truncate_double (by omega)
  refine ⟨(cm.toInt * 25).tdiv 762, ((cm.toInt * 50).tdiv 127).tmod 12, ?_, ?_, ?_, ?_, ?_, ?_⟩
  · rw [feetInches, hfeet, htotal]
  · rw [Int.mul_comm]
  · rw [← tdiv_inches, Int.mul_tdiv_add_tmod, Int.mul_comm]
  · rw [abs_lt]
    exact ⟨Int.lt_tmod_of_pos _ (by decide), Int.tmod_lt_of_pos _ (by decide)⟩
  · intro hcm
    exact ⟨Int.tdiv_nonneg (by omega) (by decide), Int.tmod_nonneg _ (Int.tdiv_nonneg (by omega) (by decide))⟩
  · intro hcm
    exact ⟨tdiv_nonpos (by omega) (by decide), tmod_nonpos _ (tdiv_nonpos (by omega) (by decide))⟩

theorem height_label_is_exact_below_zero :
    (-1000 : Int32).toInt ≤ 0 ∧
      ∃ feet inches : Int, feetInches (-1000) = decimal feet ++ "' " ++ decimal inches ++ "''" ∧
        feet = -32 ∧ inches = -9 ∧ feet ≤ 0 ∧ inches ≤ 0 := by
  have hcm : (-1000 : Int32).toInt ≤ 0 := by decide
  have hquot : (25 * (-1000 : Int32).toInt).tdiv 762 = -32 := by decide
  have hquot' : (50 * (-1000 : Int32).toInt).tdiv 127 = -393 := by decide
  obtain ⟨feet, inches, hlabel, hfeet, htotal, -, -, hsign⟩ := height_label_is_exact (-1000)
  refine ⟨hcm, feet, inches, hlabel, ?_, ?_, hsign hcm⟩ <;> omega

example : feetInches 761 = "24' 11''" ∧ feetInches 762 = "25' 0''" ∧ feetInches (-762) = "-25' 0''" := by decide +kernel

end XrPanel.Measure
