import Mathlib.Algebra.Order.Field.Power
import Mathlib.Data.Rat.Floor
import Mathlib.Tactic.FieldSimp
import Mathlib.Tactic.Linarith
import Mathlib.Tactic.Positivity
import XrPanel.Number.Rounding

namespace XrPanel.Number

theorem abs_roundEven_sub_le (x : Rat) : |(roundEven x : Rat) - x| ≤ 1 / 2 := by
  have hlow : (x.floor : Rat) ≤ x := Int.floor_le x
  have hhigh : x < x.floor + 1 := Int.lt_floor_add_one x
  unfold roundEven
  dsimp only
  rw [abs_le]
  split_ifs
  all_goals
    push_cast
    constructor <;> linarith

theorem roundEven_of_near {x : Rat} {n : Int} (h : |(n : Rat) - x| < 1 / 2) : roundEven x = n := by
  have herr := abs_roundEven_sub_le x
  have hclose : |((roundEven x - n : Int) : Rat)| < 1 := by
    rw [abs_lt] at h ⊢
    rw [abs_le] at herr
    push_cast
    constructor <;> linarith
  have hzero : |roundEven x - n| < 1 := by exact_mod_cast hclose
  rw [Int.abs_lt_one_iff] at hzero
  omega

theorem roundEven_zero : roundEven 0 = 0 := roundEven_of_near (by norm_num)

theorem le_roundEven {x : Rat} {n : Int} (h : n - x < 1 / 2) : n ≤ roundEven x := by
  have herr := (abs_le.1 (abs_roundEven_sub_le x)).1
  have hlt : (n : Rat) < ((roundEven x + 1 : Int) : Rat) := by
    push_cast
    linarith
  have hlt' : n < roundEven x + 1 := by exact_mod_cast hlt
  omega

theorem roundEven_nonneg {x : Rat} (hx : 0 ≤ x) : 0 ≤ roundEven x := by
  apply le_roundEven
  push_cast
  linarith

theorem roundEven_half (k : Int) : roundEven ((k : Rat) + 1 / 2) = k + k % 2 := by
  have hfloor : ((k : Rat) + 1 / 2).floor = k := by
    change ⌊(k : Rat) + 1 / 2⌋ = k
    rw [Int.floor_eq_iff]
    constructor <;> linarith
  have hrest : (k : Rat) + 1 / 2 - k = 1 / 2 := by ring
  unfold roundEven
  dsimp only
  rw [hfloor, hrest, if_neg (lt_irrefl _), if_neg (lt_irrefl _)]
  split <;> omega

theorem roundEven_neg (x : Rat) : roundEven (-x) = -roundEven x := by
  have herr := abs_roundEven_sub_le x
  rcases herr.lt_or_eq with hnear | htie
  · apply roundEven_of_near
    have hflip : ((-roundEven x : Int) : Rat) - -x = -(roundEven x - x) := by
      push_cast
      ring
    rw [hflip, abs_neg]
    exact hnear
  · -- a half between two integers, of which both roundings take the even one
    obtain ⟨k, rfl⟩ : ∃ k : Int, x = k + 1 / 2 := by
      rcases abs_eq (by norm_num) |>.1 htie with h | h
      · refine ⟨roundEven x - 1, ?_⟩
        push_cast
        linarith
      · exact ⟨roundEven x, by linarith⟩
    have hneg : -((k : Rat) + 1 / 2) = ((-k - 1 : Int) : Rat) + 1 / 2 := by
      push_cast
      ring
    rw [hneg, roundEven_half, roundEven_half]
    omega

theorem rat_abs_eq (x : Rat) : x.abs = |x| := by
  unfold Rat.abs
  split
  case isTrue h => exact (abs_of_nonneg h).symm
  case isFalse h => exact (abs_of_neg (not_le.1 h)).symm

theorem two_zpow_log2_le {n : Nat} (h : n ≠ 0) : (2 : Rat) ^ (n.log2 : Int) ≤ n := by
  rw [zpow_natCast]
  exact_mod_cast Nat.log2_self_le h

theorem lt_two_zpow_log2 (n : Nat) : (n : Rat) < 2 ^ ((n.log2 : Int) + 1) := by
  have h : n < 2 ^ (n.log2 + 1) := Nat.lt_log2_self
  exact_mod_cast h

theorem exponent_spec {x : Rat} (hx : 0 < x) : (2 : Rat) ^ exponent x ≤ x ∧ x < 2 ^ (exponent x + 1) := by
  have htwo : (2 : Rat) ≠ 0 := by norm_num
  have hquot : x = (x.num.natAbs : Rat) / x.den := by
    have habs : ((x.num.natAbs : Int) : Rat) = x.num := by
      rw [Int.natAbs_of_nonneg (Rat.num_nonneg.2 hx.le)]
    rw [← Int.cast_natCast, habs, Rat.num_div_den]
  have hnum : x.num.natAbs ≠ 0 := by
    intro h
    rw [h] at hquot
    simp at hquot
    exact hx.ne' hquot
  have hden : (0 : Rat) < x.den := by exact_mod_cast x.den_pos
  have hn := two_zpow_log2_le hnum
  have hn' := lt_two_zpow_log2 x.num.natAbs
  have hd := two_zpow_log2_le x.den_nz
  have hd' := lt_two_zpow_log2 x.den
  -- The logarithms are cut off, so that their difference is the exponent or one more.
  have hlow : (2 : Rat) ^ ((x.num.natAbs.log2 : Int) - x.den.log2 - 1) ≤ x := by
    have he : (x.num.natAbs.log2 : Int) - x.den.log2 - 1 = x.num.natAbs.log2 - (x.den.log2 + 1) := by ring
    conv_rhs => rw [hquot]
    rw [he, zpow_sub₀ htwo]
    exact div_le_div₀ (by positivity) hn hden hd'.le
  have hhigh : x < (2 : Rat) ^ ((x.num.natAbs.log2 : Int) - x.den.log2 + 1) := by
    have he : (x.num.natAbs.log2 : Int) - x.den.log2 + 1 = x.num.natAbs.log2 + 1 - x.den.log2 := by ring
    conv_lhs => rw [hquot]
    rw [he, zpow_sub₀ htwo]
    exact div_lt_div₀ hn' hd (by positivity) (by positivity)
  unfold exponent
  dsimp only
  split
  case isTrue h => exact ⟨h, hhigh⟩
  case isFalse h =>
    rw [sub_add_cancel]
    exact ⟨hlow, not_le.1 h⟩

theorem le_exponent_iff {x : Rat} {k : Int} (hx : 0 < x) : k ≤ exponent x ↔ 2 ^ k ≤ x := by
  obtain ⟨hlow, hhigh⟩ := exponent_spec hx
  constructor
  · intro h
    exact (zpow_le_zpow_right₀ (by norm_num) h).trans hlow
  · intro h
    have hlt := (zpow_lt_zpow_iff_right₀ (by norm_num)).1 (h.trans_lt hhigh)
    omega

theorem exponent_lt_iff {x : Rat} {k : Int} (hx : 0 < x) : exponent x < k ↔ x < 2 ^ k := by
  rw [← not_le, le_exponent_iff hx, not_le]

/-- The distance of neighbouring double-precision numbers at `x`. -/
def spacing (x : Rat) : Rat := 2 ^ (exponent |x| - 52)

theorem spacing_pos (x : Rat) : 0 < spacing x := by
  unfold spacing
  positivity

theorem spacing_neg (x : Rat) : spacing (-x) = spacing x := by rw [spacing, abs_neg, spacing]

theorem spacing_bounds {x : Rat} (hx : x ≠ 0) : |x| / 2 ^ 53 < spacing x ∧ spacing x ≤ |x| / 2 ^ 52 := by
  obtain ⟨hlow, hhigh⟩ := exponent_spec (abs_pos.2 hx)
  have htwo : (2 : Rat) ≠ 0 := by norm_num
  have hbelow : spacing x = 2 ^ exponent |x| / 2 ^ 52 := by
    rw [spacing, zpow_sub₀ htwo]
    rfl
  have habove : spacing x = 2 ^ (exponent |x| + 1) / 2 ^ 53 := by
    rw [hbelow, zpow_add_one₀ htwo]
    ring
  constructor
  · rw [habove]
    exact div_lt_div_of_pos_right hhigh (by positivity)
  · rw [hbelow]
    exact div_le_div_of_nonneg_right hlow (by positivity)

theorem double_eq (x : Rat) : double x = roundEven (x / spacing x) * spacing x := by
  unfold double nearest
  split
  case isTrue h =>
    subst h
    rw [zero_div, roundEven_zero]
    simp
  case isFalse h =>
    rw [rat_abs_eq]
    rfl

theorem double_zero : double 0 = 0 := rfl

theorem double_neg (x : Rat) : double (-x) = -double x := by
  rw [double_eq, double_eq, spacing_neg, neg_div, roundEven_neg]
  push_cast
  ring

theorem abs_double_sub_le (x : Rat) : |double x - x| ≤ |x| / 2 ^ 53 := by
  by_cases hx : x = 0
  · subst hx
    rw [double_zero]
    norm_num
  · obtain ⟨-, hspacing⟩ := spacing_bounds hx
    have hpos := spacing_pos x
    have hround := mul_le_mul_of_nonneg_right (abs_roundEven_sub_le (x / spacing x)) hpos.le
    calc |double x - x| = |(roundEven (x / spacing x) : Rat) - x / spacing x| * spacing x := by
          conv_rhs => rw [← abs_of_pos hpos]
          rw [double_eq, ← abs_mul, abs_of_pos hpos, sub_mul, div_mul_cancel₀ _ hpos.ne']
      _ ≤ 1 / 2 * spacing x := hround
      _ ≤ |x| / 2 ^ 53 := by linarith

theorem exists_mul_spacing {x : Rat} (hx : x ≠ 0) (hsmall : |x| < 2 ^ 53) (n : Int) :
    ∃ m : Int, (n : Rat) = m * spacing x := by
  have hexp : exponent |x| < 53 := by
    rw [exponent_lt_iff (abs_pos.2 hx)]
    exact_mod_cast hsmall
  refine ⟨n * 2 ^ (52 - exponent |x|).toNat, ?_⟩
  have hk : ((52 - exponent |x|).toNat : Int) + (exponent |x| - 52) = 0 := by omega
  unfold spacing
  push_cast
  rw [← zpow_natCast, mul_assoc, ← zpow_add₀ (by norm_num), hk, zpow_zero, mul_one]

theorem le_double {x : Rat} {n : Int} (hx : 0 ≤ x) (hsmall : x < 2 ^ 53) (h : n - x ≤ x / 2 ^ 54) :
    (n : Rat) ≤ double x := by
  rcases hx.eq_or_lt with rfl | hx
  · rw [double_zero]
    linarith
  · obtain ⟨hgap, -⟩ := spacing_bounds hx.ne'
    have hpos := spacing_pos x
    rw [abs_of_pos hx] at hgap
    obtain ⟨m, hm⟩ := exists_mul_spacing hx.ne' (by rwa [abs_of_pos hx]) n
    -- In units of the spacing, what `x` lacks of the integer `m` is less than a half.
    have hle : m ≤ roundEven (x / spacing x) := by
      apply le_roundEven
      rw [sub_lt_iff_lt_add, ← mul_lt_mul_iff_left₀ hpos, add_mul, div_mul_cancel₀ _ hpos.ne', ← hm]
      linarith
    rw [double_eq, hm]
    apply mul_le_mul_of_nonneg_right _ hpos.le
    exact_mod_cast hle

theorem truncate_of_nonneg {x : Rat} {n : Int} (hx : 0 ≤ x) (hlow : n ≤ x) (hhigh : x < n + 1) : truncate x = n := by
  have hfloor : ⌊x⌋ = n := by
    rw [Int.floor_eq_iff]
    exact ⟨hlow, hhigh⟩
  rw [Rat.floor_def'] at hfloor
  rw [truncate, Int.tdiv_eq_ediv_of_nonneg (Rat.num_nonneg.2 hx), hfloor]

theorem truncate_neg (x : Rat) : truncate (-x) = -truncate x := by
  rw [truncate, truncate, Rat.num_neg_eq_neg_num, Rat.den_neg_eq_den, Int.neg_tdiv]

end XrPanel.Number
