import XrPanel.Measure
import XrPanel.Panel
import XrPanel.Proofs.CanonicalDecimals
import XrPanel.Proofs.DoubleRounding

namespace XrPanel.Measure

open Number Text

theorem padDigits_two {k : Nat} (h : k < 100) : padDigits 2 k = [Nat.digitChar (k / 10), Nat.digitChar (k % 10)] := by
  have hall : ∀ k < 100, padDigits 2 k = [Nat.digitChar (k / 10), Nat.digitChar (k % 10)] := by decide +kernel
  exact hall k h

theorem ne_point_of_isDigit {c : Char} (h : c.isDigit = true) : c ≠ '.' := by
  rintro rfl
  exact absurd h (by decide)

theorem natDigits_end (n : Nat) : ∃ cs c, natDigits n = cs ++ [c] ∧ c ≠ '.' := by
  rcases List.eq_nil_or_concat (natDigits n) with h | ⟨cs, c, h⟩
  · exact absurd h Nat.toDigits_ne_nil
  · rw [List.concat_eq_append] at h
    have hmem : c ∈ natDigits n := by
      rw [h]
      simp
    exact ⟨cs, c, h, ne_point_of_isDigit (isDigit_of_mem_natDigits hmem)⟩

theorem dropZeros_hundredths (front : List Char) (n : Nat) :
    dropZeros (front ++ (natDigits (n / 100) ++ '.' :: padDigits 2 (n % 100))) = front ++ hundredths n := by
  have htenths : n % 100 / 10 = n / 10 % 10 := by omega
  have hunits : n % 100 % 10 = n % 10 := by omega
  have hten : n / 10 % 10 < 10 := Nat.mod_lt _ (by decide)
  have hunit : n % 10 < 10 := Nat.mod_lt _ (by decide)
  rw [padDigits_two (Nat.mod_lt n (by decide)), htenths, hunits]
  unfold hundredths
  dsimp only
  split
  case isTrue h =>
    obtain ⟨cs, c, hcs, hc⟩ := natDigits_end (n / 100)
    have hzero : n / 10 % 10 = 0 := by omega
    have hzero' : n % 10 = 0 := by omega
    rw [hzero, hzero', hcs]
    simp [dropZeros, hc]
  case isFalse h =>
    split
    case isTrue hz =>
      have hne := digitChar_ne_zero (by omega) hten
      have hne' := ne_point_of_isDigit (decimalDigit_iff.1 (decimalDigit_digitChar hten)).1
      rw [hz]
      simp [dropZeros, hne, hne']
    case isFalse hz =>
      have hne := digitChar_ne_zero (by omega) hunit
      have hne' := ne_point_of_isDigit (decimalDigit_iff.1 (decimalDigit_digitChar hunit)).1
      simp [dropZeros, hne, hne']

theorem dropZeros_fixedMagnitude (front : List Char) {x : Rat} {n : Nat} (hn : roundEven (x * 100) = n) :
    dropZeros (front ++ fixedMagnitude 2 x) = front ++ hundredths n := by
  have hfixed : fixedMagnitude 2 x = natDigits ((roundEven (x * 100)).toNat / 100) ++
      '.' :: padDigits 2 ((roundEven (x * 100)).toNat % 100) := rfl
  rw [hfixed, hn, Int.toNat_natCast, dropZeros_hundredths]

theorem dropZeros_fixed {x : Rat} {n : Nat} (hn : roundEven (|x| * 100) = n) :
    dropZeros (fixed 2 (decide (x < 0)) |x|) = if x < 0 then '-' :: hundredths n else hundredths n := by
  unfold fixed
  by_cases hx : x < 0
  · rw [if_pos (decide_eq_true hx), if_pos hx]
    exact dropZeros_fixedMagnitude ['-'] hn
  · rw [if_neg (by simpa using hx), if_neg hx]
    exact dropZeros_fixedMagnitude [] hn

theorem roundEven_of_abs {x : Rat} {n : Int} (hn : roundEven (|x| * 100) = n) :
    roundEven (x * 100) = if x < 0 then -n else n := by
  by_cases hx : x < 0
  · rw [if_pos hx, ← hn, ← roundEven_neg, abs_of_neg hx, neg_mul, neg_neg]
  · rw [if_neg hx, ← hn, abs_of_nonneg (not_lt.1 hx)]

theorem toList_fraction (value : Int32) {divisor : Int32} (hd : divisor ≠ 0) :
    (fraction value divisor).toList = signedHundredths (roundEven (double (value.toInt / divisor.toInt) * 100)) := by
  unfold fraction
  split
  case isTrue h =>
    obtain rfl := h.resolve_right hd
    have hquot : double ((0 : Int32).toInt / divisor.toInt) * 100 = 0 := by
      simp [double_zero]
    rw [hquot, roundEven_zero]
    rfl
  case isFalse h =>
    dsimp only
    generalize double (value.toInt / divisor.toInt) = y
    have hnonneg := roundEven_nonneg (mul_nonneg (abs_nonneg y) (by norm_num : (0 : Rat) ≤ 100))
    obtain ⟨n, hn⟩ := Int.eq_ofNat_of_zero_le hnonneg
    rw [rat_abs_eq, dropZeros_fixed hn, roundEven_of_abs hn]
    by_cases hy : y < 0
    · rw [if_pos hy, if_pos hy, signedHundredths_neg, apply_ite String.toList, String.toList_ofList,
        String.toList_ofList]
    · rw [if_neg hy, if_neg hy, if_neg (hundredths_ne_minus n _), String.toList_ofList]
      rfl

theorem near_of_hardly_near {m n d : Int} (hd : d ≠ 0) (h : |(m : Rat) - n / d| < 1 / 2 + 1 / (2 * |(d : Rat)|)) :
    |(m : Rat) - n / d| ≤ 1 / 2 := by
  have hd' : (d : Rat) ≠ 0 := by exact_mod_cast hd
  have hpos : 0 < |(d : Rat)| := abs_pos.2 hd'
  have hscale : |(m : Rat) - n / d| = |(m : Rat) * d - n| / |(d : Rat)| := by
    rw [← abs_div, sub_div, mul_div_cancel_right₀ _ hd']
  have hhalf : (1 : Rat) / 2 + 1 / (2 * |(d : Rat)|) = (|(d : Rat)| + 1) / 2 / |(d : Rat)| := by
    field_simp
  rw [hscale] at h ⊢
  rw [hhalf, div_lt_div_iff_of_pos_right hpos, lt_div_iff₀ (by norm_num)] at h
  rw [div_le_iff₀ hpos]
  have hint : |m * d - n| * 2 < |d| + 1 := by exact_mod_cast h
  have hle : |m * d - n| * 2 ≤ |d| := by omega
  have hle' : |(m : Rat) * d - n| * 2 ≤ |(d : Rat)| := by exact_mod_cast hle
  linarith

theorem abs_hundredths_sub_le {v d : Int} (hd : d ≠ 0) (hv : |v| ≤ 2 ^ 31) :
    |(roundEven (double (v / d) * 100) : Rat) - (v : Rat) / d * 100| ≤ 1 / 2 := by
  have hpos : (0 : Rat) < |(d : Rat)| := abs_pos.2 (by exact_mod_cast hd)
  have hv' : |(v : Rat)| ≤ 2 ^ 31 := by exact_mod_cast hv
  have hround := abs_roundEven_sub_le (double (v / d) * 100)
  have hdouble := abs_double_sub_le (v / d)
  -- Hundredths of the quotient are moved by less than their least distance from a tie.
  have hgap : |(v : Rat) / d| / 2 ^ 53 * 100 < 1 / (2 * |(d : Rat)|) := by
    have hfactor : |(v : Rat) / d| / 2 ^ 53 * 100 = |(v : Rat)| * 200 / 2 ^ 53 * (1 / (2 * |(d : Rat)|)) := by
      rw [abs_div]
      field_simp
      ring
    rw [hfactor]
    apply mul_lt_of_lt_one_left (by positivity)
    rw [div_lt_one (by positivity)]
    linarith
  have hcast : (v : Rat) / d * 100 = (100 * v : Int) / d := by
    push_cast
    ring
  rw [hcast]
  apply near_of_hardly_near hd
  rw [← hcast]
  rw [abs_le] at hround hdouble
  rw [abs_lt]
  constructor <;> linarith

theorem toInt_ne_zero {d : Int32} (h : d ≠ 0) : d.toInt ≠ 0 := by
  intro hzero
  exact h (Int32.toInt_inj.1 hzero)

theorem fraction_canonical (value : Int32) {divisor : Int32} (hd : divisor ≠ 0) :
    ∃ m : Int, CanonicalDecimal (fraction value divisor).toList (m / 100) ∧
      |(m : Rat) / 100 - value.toInt / divisor.toInt| ≤ 1 / 200 := by
  refine ⟨roundEven (double (value.toInt / divisor.toInt) * 100), ?_, ?_⟩
  · rw [toList_fraction value hd]
    exact canonical_signedHundredths _
  · have hnear := abs_le.1 (abs_hundredths_sub_le (toInt_ne_zero hd) (abs_le.2 ⟨value.le_toInt, value.toInt_lt.le⟩))
    rw [abs_le]
    constructor <;> linarith

theorem nearest_of_half {m k : Int} {x : Rat} (h : |(m : Rat) / 100 - x| ≤ 1 / 200) :
    |(m : Rat) / 100 - x| ≤ |(k : Rat) / 100 - x| := by
  by_cases hk : m = k
  · rw [hk]
  · have hone : (1 : Rat) ≤ |(m : Rat) - k| := by exact_mod_cast Int.one_le_abs (sub_ne_zero.2 hk)
    have hsplit : |(m : Rat) / 100 - k / 100| ≤ |(m : Rat) / 100 - x| + |(k : Rat) / 100 - x| := by
      rw [← abs_sub_comm x ((k : Rat) / 100)]
      exact abs_sub_le _ _ _
    rw [← sub_div, abs_div, abs_of_pos (by norm_num : (0 : Rat) < 100)] at hsplit
    linarith

theorem exact_of_half {m v d : Int} (hd : d ≠ 0) (hdvd : d ∣ 100 * v) (h : |(m : Rat) / 100 - v / d| ≤ 1 / 200) :
    (m : Rat) / 100 = v / d := by
  obtain ⟨n, hn⟩ := hdvd
  have hd' : (d : Rat) ≠ 0 := by exact_mod_cast hd
  have hn' : 100 * (v : Rat) = d * n := by exact_mod_cast hn
  have hquot : (n : Rat) / 100 = v / d := by
    rw [div_eq_div_iff (by norm_num) hd']
    linarith
  have hle := nearest_of_half h (k := n)
  rw [hquot, sub_self, abs_zero, abs_nonpos_iff, sub_eq_zero] at hle
  exact hle

theorem fraction_injective {value value' divisor : Int32} (hdvd : divisor.toInt ∣ 100)
    (h : fraction value divisor = fraction value' divisor) : value = value' := by
  have hd : divisor.toInt ≠ 0 := by
    intro hzero
    rw [hzero] at hdvd
    exact absurd (Int.zero_dvd.1 hdvd) (by decide)
  have hne : divisor ≠ 0 := by
    rintro rfl
    exact hd rfl
  obtain ⟨m, hm, hnear⟩ := fraction_canonical value hne
  obtain ⟨m', hm', hnear'⟩ := fraction_canonical value' hne
  rw [← h] at hm'
  have hexact := exact_of_half hd (hdvd.mul_right _) hnear
  have hexact' := exact_of_half hd (hdvd.mul_right _) hnear'
  rw [hm.unique hm', hexact', div_left_inj' (by exact_mod_cast hd)] at hexact
  exact Int32.toInt_inj.1 (by exact_mod_cast hexact.symm)

def divisor? : Control → Option Int32
  | .slider s => match s.display with
    | .fraction divisor => some divisor
    | _ => none
  | _ => none

theorem panel_divisors (p : Panel) : ∀ b ∈ p.table.bindings, ∀ d ∈ divisor? b.control, d = 10 ∨ d = 100 := by
  have hall : ∀ b ∈ p.table.bindings, (divisor? b.control).all (fun d => d = 10 ∨ d = 100) = true := by
    cases p <;> decide
  intro b hb d hd
  have h := hall b hb
  rw [Option.mem_def.1 hd] at h
  simpa using h

/-- The label is the numeral of the nearest hundredth of the exact quotient, at a tie one of both. A quotient that has
two decimals is shown as it is, so that values shown by a divisor of 100 can be told from one another; the divisors of
the shipped forms are such. -/
theorem fraction_label_is_nearest :
    (∀ value divisor : Int32, divisor ≠ 0 → ∃ q : Rat, CanonicalDecimal (fraction value divisor).toList q ∧
      |q - value.toInt / divisor.toInt| ≤ 1 / 200 ∧
      (∀ k : Int, |q - value.toInt / divisor.toInt| ≤ |(k : Rat) / 100 - value.toInt / divisor.toInt|) ∧
      (divisor.toInt ∣ 100 * value.toInt → q = value.toInt / divisor.toInt)) ∧
    (∀ value value' divisor : Int32, divisor.toInt ∣ 100 →
      fraction value divisor = fraction value' divisor → value = value') ∧
    ∀ p : Panel, ∀ b ∈ p.table.bindings, ∀ d ∈ divisor? b.control, d = 10 ∨ d = 100 := by
  refine ⟨?_, fun _ _ _ => fraction_injective, panel_divisors⟩
  intro value divisor hd
  obtain ⟨m, hm, hnear⟩ := fraction_canonical value hd
  exact ⟨m / 100, hm, hnear, fun k => nearest_of_half hnear, fun hdvd => exact_of_half (toInt_ne_zero hd) hdvd hnear⟩

theorem fraction_label_is_nearest_tenths :
    (10 : Int32) ≠ 0 ∧ (10 : Int32).toInt ∣ 100 ∧ (10 : Int32).toInt ∣ 100 * (-15 : Int32).toInt ∧
      (∃ q : Rat, CanonicalDecimal (fraction (-15) 10).toList q ∧ q = (-15 : Int32).toInt / (10 : Int32).toInt) ∧
      fraction (-15) 10 ≠ fraction (-14) 10 := by
  have hne : (10 : Int32) ≠ 0 := by decide
  have hdvd : (10 : Int32).toInt ∣ 100 := by decide
  have hdvd' : (10 : Int32).toInt ∣ 100 * (-15 : Int32).toInt := by decide
  obtain ⟨hnearest, hinjective, -⟩ := fraction_label_is_nearest
  obtain ⟨q, hq, -, -, hexact⟩ := hnearest (-15) 10 hne
  refine ⟨hne, hdvd, hdvd', ⟨q, hq, hexact hdvd'⟩, ?_⟩
  intro h
  exact absurd (hinjective _ _ _ hdvd h) (by decide)

example : fraction (-15) 10 = "-1.5" ∧ fraction 1 8 = "0.12" ∧ fraction (-1) 1000 = "0" := by decide +kernel

end XrPanel.Measure
