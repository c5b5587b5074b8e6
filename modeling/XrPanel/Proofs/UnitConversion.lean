import Mathlib.Order.MinMax
import XrPanel.Proofs.ControlRanges

namespace XrPanel

namespace Measure

theorem fromStored_mono {raw raw' : Int32} (scale : Int32) (h : raw ≤ raw') :
    fromStored raw scale ≤ fromStored raw' scale := by
  rw [Int32.le_iff_toInt_le, toInt_fromStored, toInt_fromStored]
  exact Int.tdiv_le_tdiv (factor_pos scale) (Int32.le_iff_toInt_le.1 h)

theorem toStored_mono {v w : Int32} (scale : Int32) (h : v ≤ w) : toStored v scale ≤ toStored w scale := by
  have hmul : v.toInt * factor scale ≤ w.toInt * factor scale :=
    Int.mul_le_mul_of_nonneg_right (Int32.le_iff_toInt_le.1 h) (Int.le_of_lt (factor_pos scale))
  rw [Int32.le_iff_toInt_le, toInt_toStored, toInt_toStored]
  unfold clamp32
  omega

def highest (scale : Int32) : Int := Int.tdiv 2147483647 (factor scale)

def lowest (scale : Int32) : Int := Int.tdiv (-2147483648) (factor scale)

theorem zero_le_highest (scale : Int32) : 0 ≤ highest scale :=
  Int.tdiv_nonneg (by decide) (Int.le_of_lt (factor_pos scale))

theorem lowest_le_zero (scale : Int32) : lowest scale ≤ 0 := by
  rw [← Int.zero_tdiv (factor scale)]
  exact Int.tdiv_le_tdiv (factor_pos scale) (by decide)

theorem fromStored_bounds (raw scale : Int32) :
    lowest scale ≤ (fromStored raw scale).toInt ∧ (fromStored raw scale).toInt ≤ highest scale := by
  rw [toInt_fromStored]
  exact ⟨Int.tdiv_le_tdiv (factor_pos scale) raw.le_toInt,
    Int.tdiv_le_tdiv (factor_pos scale) (Int.le_of_lt_add_one raw.toInt_lt)⟩

/-- Of a value that is stored, what is nearest to it among the values that can be read comes back: division by
the effective scale is monotone, so that it takes the bounds of the stored number to bounds of the value. -/
theorem toInt_fromStored_toStored (v scale : Int32) :
    (fromStored (toStored v scale) scale).toInt = max (lowest scale) (min (highest scale) v.toInt) := by
  have hmono : Monotone fun n : Int => n.tdiv (factor scale) := fun n m h => Int.tdiv_le_tdiv (factor_pos scale) h
  calc (fromStored (toStored v scale) scale).toInt
      = (clamp32 (v.toInt * factor scale)).tdiv (factor scale) := by rw [toInt_fromStored, toInt_toStored]
    _ = max (lowest scale) (min (highest scale) ((v.toInt * factor scale).tdiv (factor scale))) := by
        rw [clamp32, hmono.map_max, hmono.map_min, lowest, highest]
    _ = max (lowest scale) (min (highest scale) v.toInt) := by
        rw [Int.mul_tdiv_cancel _ (Int.ne_of_gt (factor_pos scale))]

end Measure

open XrPanel.Measure

namespace Control

variable {c : Control} {raw raw' v v' w : Int32}

theorem toInt_between {low high : Int32} (h : low ≤ high) (v : Int32) :
    (between low high v).toInt = max low.toInt (min high.toInt v.toInt) := by
  have hle := Int32.le_iff_toInt_le.1 h
  unfold between
  split
  case isTrue hl =>
    have := Int32.lt_iff_toInt_lt.1 hl
    omega
  case isFalse hl =>
    have := Int32.le_iff_toInt_le.1 (Int32.not_lt.1 hl)
    split
    case isTrue hu =>
      have := Int32.lt_iff_toInt_lt.1 hu
      omega
    case isFalse hu =>
      have := Int32.le_iff_toInt_le.1 (Int32.not_lt.1 hu)
      omega

theorem fromStored?_covers (hc : c.Ordered) (raw : Int32) : ∃ v, c.fromStored? raw = some v ∧ c.Covers v :=
  clamp?_covers hc (fromStored raw c.scale)

theorem toInt_fromStored? (hc : c.Ordered) (hbox : ¬ c.IsCheckbox) (h : c.fromStored? raw = some v) :
    v.toInt = max c.least.toInt (min c.greatest.toInt (fromStored raw c.scale).toInt) := by
  have hv := Option.some.inj (h.symm.trans (clamp?_eq_between hc hbox (fromStored raw c.scale)))
  rw [hv, toInt_between (ordered_iff.1 hc)]

theorem exact_of_checkbox (hbox : c.IsCheckbox) (v : Int32) : Exact v c.scale := by
  cases c with
  | slider s => exact hbox.elim
  | checkbox d => exact exact_of_le (Int32.le_refl 1)
  | choice options d => exact hbox.elim

theorem reread_stable (hc : c.Ordered) (h : c.fromStored? raw = some v) : c.fromStored? (c.toStored v) = some v := by
  obtain ⟨u, hu, hcovers⟩ := fromStored?_covers hc raw
  obtain rfl : u = v := Option.some.inj (hu.symm.trans h)
  by_cases hbox : c.IsCheckbox
  · exact reread_of_exact hcovers (exact_of_checkbox hbox u)
  · obtain ⟨w, hw, -⟩ := fromStored?_covers hc (c.toStored u)
    have hshown := toInt_fromStored? hc hbox hu
    have hagain := toInt_fromStored? hc hbox hw
    rw [toStored, toInt_fromStored_toStored] at hagain
    -- where the range ends beyond what can be read, both times it is its nearest end that shows
    have hbounds := fromStored_bounds raw c.scale
    have heq : w.toInt = u.toInt := by omega
    rw [hw, Int32.toInt_inj.1 heq]

theorem reread_between (hc : c.Ordered) (hv : c.Covers v) (h : c.fromStored? (c.toStored v) = some w) :
    (0 ≤ v.toInt → 0 ≤ w.toInt ∧ w.toInt ≤ v.toInt) ∧ (v.toInt ≤ 0 → v.toInt ≤ w.toInt ∧ w.toInt ≤ 0) := by
  by_cases hbox : c.IsCheckbox
  · rw [reread_of_exact hv (exact_of_checkbox hbox v)] at h
    obtain rfl : v = w := Option.some.inj h
    omega
  · have hw := toInt_fromStored? hc hbox h
    rw [toStored, toInt_fromStored_toStored] at hw
    have hl := Int32.le_iff_toInt_le.1 hv.1
    have hu := Int32.le_iff_toInt_le.1 hv.2
    have hhigh := zero_le_highest c.scale
    have hlow := lowest_le_zero c.scale
    omega

theorem toStored_of_above (h : 2147483647 < v.toInt * factor c.scale) : c.toStored v = Int32.maxValue := by
  have hmax : Int32.maxValue.toInt = 2147483647 := rfl
  rw [← Int32.toInt_inj, toStored, toInt_toStored, clamp32, hmax]
  omega

theorem toStored_of_below (h : v.toInt * factor c.scale < -2147483648) : c.toStored v = Int32.minValue := by
  have hmin : Int32.minValue.toInt = -2147483648 := rfl
  rw [← Int32.toInt_inj, toStored, toInt_toStored, clamp32, hmin]
  omega

theorem fromStored?_mono (hc : c.Ordered) (hbox : ¬ c.IsCheckbox) (hle : raw ≤ raw') (h : c.fromStored? raw = some v)
    (h' : c.fromStored? raw' = some v') : v ≤ v' := by
  have hmono := Int32.le_iff_toInt_le.1 (fromStored_mono c.scale hle)
  rw [Int32.le_iff_toInt_le, toInt_fromStored? hc hbox h, toInt_fromStored? hc hbox h']
  omega

/-- Stored numbers and values convert without wrapping and without a division by less than one. What was read of the
store is read again once it is stored, also if the product saturates; a value whose product with the effective
scale is a 32-bit integer comes back as it was; any other is stored as the bound on its side and comes back
nearer to 0. -/
theorem conversion_is_stable (hc : c.Ordered) :
    (∀ raw, ∃ v, c.fromStored? raw = some v ∧ c.Covers v ∧ c.fromStored? (c.toStored v) = some v) ∧
      (∀ v, c.Covers v → Exact v c.scale →
        (c.toStored v).toInt = v.toInt * factor c.scale ∧ c.fromStored? (c.toStored v) = some v) ∧
      (∀ v, c.Covers v → 2147483647 < v.toInt * factor c.scale → c.toStored v = Int32.maxValue ∧
        ∃ w, c.fromStored? (c.toStored v) = some w ∧ c.Covers w ∧ 0 ≤ w.toInt ∧ w.toInt ≤ v.toInt) ∧
      (∀ v, c.Covers v → v.toInt * factor c.scale < -2147483648 → c.toStored v = Int32.minValue ∧
        ∃ w, c.fromStored? (c.toStored v) = some w ∧ c.Covers w ∧ v.toInt ≤ w.toInt ∧ w.toInt ≤ 0) ∧
      (¬ c.IsCheckbox → (∀ v v', v ≤ v' → c.toStored v ≤ c.toStored v') ∧
        ∀ raw raw' v v', raw ≤ raw' → c.fromStored? raw = some v → c.fromStored? raw' = some v' → v ≤ v') ∧
      1 ≤ factor c.scale ∧ (∀ raw, (fromStored raw c.scale).toInt = raw.toInt.tdiv (factor c.scale)) ∧
      ∀ v, (c.toStored v).toInt = clamp32 (v.toInt * factor c.scale) := by
  have hstable : ∀ raw, ∃ v, c.fromStored? raw = some v ∧ c.Covers v ∧ c.fromStored? (c.toStored v) = some v := by
    intro raw
    obtain ⟨v, hv, hcovers⟩ := fromStored?_covers hc raw
    exact ⟨v, hv, hcovers, reread_stable hc hv⟩
  have hexact : ∀ v, c.Covers v → Exact v c.scale →
      (c.toStored v).toInt = v.toInt * factor c.scale ∧ c.fromStored? (c.toStored v) = some v := by
    intro v hv hfits
    exact ⟨(toInt_toStored v c.scale).trans (clamp32_of_exact hfits), reread_of_exact hv hfits⟩
  have habove : ∀ v, c.Covers v → 2147483647 < v.toInt * factor c.scale → c.toStored v = Int32.maxValue ∧
      ∃ w, c.fromStored? (c.toStored v) = some w ∧ c.Covers w ∧ 0 ≤ w.toInt ∧ w.toInt ≤ v.toInt := by
    intro v hv hprod
    obtain ⟨w, hw, hcovers⟩ := fromStored?_covers hc (c.toStored v)
    have hpos : 0 ≤ v.toInt := by
      by_contra hneg
      have := Int.mul_neg_of_neg_of_pos (Int.not_le.1 hneg) (factor_pos c.scale)
      omega
    exact ⟨toStored_of_above hprod, w, hw, hcovers, (reread_between hc hv hw).1 hpos⟩
  have hbelow : ∀ v, c.Covers v → v.toInt * factor c.scale < -2147483648 → c.toStored v = Int32.minValue ∧
      ∃ w, c.fromStored? (c.toStored v) = some w ∧ c.Covers w ∧ v.toInt ≤ w.toInt ∧ w.toInt ≤ 0 := by
    intro v hv hprod
    obtain ⟨w, hw, hcovers⟩ := fromStored?_covers hc (c.toStored v)
    have hneg : v.toInt ≤ 0 := by
      by_contra hpos
      have := Int.mul_pos (Int.not_le.1 hpos) (factor_pos c.scale)
      omega
    exact ⟨toStored_of_below hprod, w, hw, hcovers, (reread_between hc hv hw).2 hneg⟩
  have hmono : ¬ c.IsCheckbox → (∀ v v', v ≤ v' → c.toStored v ≤ c.toStored v') ∧
      ∀ raw raw' v v', raw ≤ raw' → c.fromStored? raw = some v → c.fromStored? raw' = some v' → v ≤ v' := by
    intro hbox
    exact ⟨fun _ _ => toStored_mono c.scale, fun _ _ _ _ => fromStored?_mono hc hbox⟩
  exact ⟨hstable, hexact, habove, hbelow, hmono, factor_pos c.scale, (toInt_fromStored · c.scale),
    (toInt_toStored · c.scale)⟩

def wideSlider : Control := .slider { min := -5, max := 300000000, default := 0, scale := 10 }

theorem conversion_is_stable_saturating :
    wideSlider.Ordered ∧ wideSlider.toStored 300000000 = Int32.maxValue ∧
      ∃ w, wideSlider.fromStored? Int32.maxValue = some w ∧ 0 ≤ w.toInt ∧ w.toInt ≤ 300000000 := by
  have hwide : wideSlider.Ordered := by decide
  obtain ⟨hstored, w, hw, -, hbetween⟩ :=
    (conversion_is_stable hwide).2.2.1 300000000 (by decide) (by decide)
  exact ⟨hwide, hstored, w, hstored ▸ hw, hbetween⟩

end Control

end XrPanel
