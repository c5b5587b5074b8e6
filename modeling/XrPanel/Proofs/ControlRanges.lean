import XrPanel.Control

namespace XrPanel

namespace Slider

def Fits (s : Slider) : Prop :=
  s.min ≤ s.max ∧
    (1 < s.scale → -2147483648 ≤ s.min.toInt * s.scale.toInt ∧ s.max.toInt * s.scale.toInt ≤ 2147483647)

instance (s : Slider) : Decidable s.Fits := inferInstanceAs (Decidable (_ ∧ _))

end Slider

namespace Measure

def factor (scale : Int32) : Int := max 1 scale.toInt

theorem factor_pos (scale : Int32) : 0 < factor scale :=
  Int.lt_of_lt_of_le Int.zero_lt_one (Int.le_max_left 1 scale.toInt)

theorem factor_of_le {scale : Int32} (h : scale ≤ 1) : factor scale = 1 :=
  Int.max_eq_left (Int32.le_iff_toInt_le.1 h)

theorem factor_of_lt {scale : Int32} (h : 1 < scale) : factor scale = scale.toInt :=
  Int.max_eq_right (Int.le_of_lt (Int32.lt_iff_toInt_lt.1 h))

theorem toInt_fromStored (raw scale : Int32) : (fromStored raw scale).toInt = raw.toInt.tdiv (factor scale) := by
  unfold fromStored
  split
  case isTrue h => rw [factor_of_le h, Int.tdiv_one]
  case isFalse h =>
    have hlt : 1 < scale := Int32.not_le.1 h
    have hne : scale ≠ -1 := by
      rintro rfl
      exact absurd hlt (by decide)
    rw [factor_of_lt hlt, Int32.toInt_div_of_ne_right _ _ hne]

def Exact (v scale : Int32) : Prop := -2147483648 ≤ v.toInt * factor scale ∧ v.toInt * factor scale ≤ 2147483647

theorem clamp32_of_exact {v scale : Int32} (h : Exact v scale) :
    clamp32 (v.toInt * factor scale) = v.toInt * factor scale := by
  unfold clamp32
  exact (congrArg _ (Int.min_eq_right h.2)).trans (Int.max_eq_right h.1)

theorem exact_of_le {v scale : Int32} (h : scale ≤ 1) : Exact v scale := by
  rw [Exact, factor_of_le h, Int.mul_one]
  exact ⟨v.le_toInt, Int.le_of_lt_add_one v.toInt_lt⟩

theorem toInt_toStored (v scale : Int32) : (toStored v scale).toInt = clamp32 (v.toInt * factor scale) := by
  unfold toStored
  split
  case isTrue h => rw [clamp32_of_exact (exact_of_le h), factor_of_le h, Int.mul_one]
  case isFalse h =>
    rw [factor_of_lt (Int32.not_le.1 h)]
    refine Int32.toInt_ofInt_of_le ?_ ?_ <;> unfold clamp32 <;> omega

theorem fromStored_toStored_of_exact {v scale : Int32} (h : Exact v scale) :
    fromStored (toStored v scale) scale = v := by
  rw [← Int32.toInt_inj, toInt_fromStored, toInt_toStored, clamp32_of_exact h,
    Int.mul_tdiv_cancel _ (Int.ne_of_gt (factor_pos scale))]

end Measure

namespace Control

def Fits : Control → Prop
  | slider s => s.Fits
  | checkbox _ => True
  | choice options _ => 0 ≤ lastOption options

instance : (c : Control) → Decidable c.Fits
  | slider s => inferInstanceAs (Decidable s.Fits)
  | checkbox _ => inferInstanceAs (Decidable True)
  | choice options _ => inferInstanceAs (Decidable (0 ≤ lastOption options))

def Positive : Control → Prop
  | slider s => 0 < s.min
  | checkbox _ => False
  | choice .. => False

instance : (c : Control) → Decidable c.Positive
  | slider s => inferInstanceAs (Decidable (0 < s.min))
  | checkbox _ => inferInstanceAs (Decidable False)
  | choice .. => inferInstanceAs (Decidable False)

def IsCheckbox : Control → Prop
  | slider _ => False
  | checkbox _ => True
  | choice .. => False

instance : (c : Control) → Decidable c.IsCheckbox
  | slider _ => inferInstanceAs (Decidable False)
  | checkbox _ => inferInstanceAs (Decidable True)
  | choice .. => inferInstanceAs (Decidable False)

def Takes (c : Control) (v : Int32) : Prop := c.clamp? v = some v

instance (c : Control) (v : Int32) : Decidable (c.Takes v) := inferInstanceAs (Decidable (_ = _))

theorem le_between {low high : Int32} (h : low ≤ high) (v : Int32) :
    low ≤ between low high v ∧ between low high v ≤ high := by
  unfold between
  split
  case isTrue => exact ⟨Int32.le_refl low, h⟩
  case isFalse hl =>
    split
    case isTrue => exact ⟨h, Int32.le_refl high⟩
    case isFalse hu => exact ⟨Int32.not_lt.1 hl, Int32.not_lt.1 hu⟩

theorem between_of_le {low high v : Int32} (hl : low ≤ v) (hu : v ≤ high) : between low high v = v := by
  rw [between, if_neg (Int32.not_lt.2 hl), if_neg (Int32.not_lt.2 hu)]

theorem toInt_max (v w : Int32) : (max v w).toInt = max v.toInt w.toInt := by
  rw [show max v w = if v ≤ w then w else v from rfl]
  split
  case isTrue h => exact (Int.max_eq_right (Int32.le_iff_toInt_le.1 h)).symm
  case isFalse h => exact (Int.max_eq_left (Int.le_of_lt (Int32.lt_iff_toInt_lt.1 (Int32.not_le.1 h)))).symm

theorem toInt_lastOption (options : List String) :
    (lastOption options).toInt = max 0 (((options.length : Int) - 1).bmod Int32.size) := by
  rw [lastOption, toInt_max, Int32.toInt_sub, Int32.toInt_ofNat']
  exact congrArg (max 0) Int.bmod_sub_bmod

theorem toInt_lastOption_le (options : List String) :
    (lastOption options).toInt ≤ (options.length - 1 : Nat) := by
  rw [toInt_lastOption, Int.bmod]
  dsimp only [Int32.size]
  split <;> omega

theorem zero_le_lastOption (options : List String) : 0 ≤ lastOption options := by
  rw [Int32.le_iff_toInt_le, toInt_lastOption]
  exact Int.le_max_left 0 _

/-- No assertion fails where the control is clamped. -/
def Ordered : Control → Prop
  | slider s => s.min ≤ s.max
  | checkbox _ => True
  | choice .. => True

instance : (c : Control) → Decidable c.Ordered
  | slider s => inferInstanceAs (Decidable (s.min ≤ s.max))
  | checkbox _ => inferInstanceAs (Decidable True)
  | choice .. => inferInstanceAs (Decidable True)

def least : Control → Int32
  | slider s => s.min
  | checkbox _ => 0
  | choice .. => 0

def greatest : Control → Int32
  | slider s => s.max
  | checkbox _ => 1
  | choice options _ => lastOption options

def Covers (c : Control) (v : Int32) : Prop := c.least ≤ v ∧ v ≤ c.greatest

instance (c : Control) (v : Int32) : Decidable (c.Covers v) := inferInstanceAs (Decidable (_ ∧ _))

theorem ordered_iff {c : Control} : c.Ordered ↔ c.least ≤ c.greatest := by
  cases c with
  | slider s => exact Iff.rfl
  | checkbox d => exact ⟨fun _ => show (0 : Int32) ≤ 1 by decide, fun _ => trivial⟩
  | choice options d => exact ⟨fun _ => zero_le_lastOption options, fun _ => trivial⟩

theorem Covers.ordered {c : Control} {v : Int32} (h : c.Covers v) : c.Ordered := ordered_iff.2 (Int32.le_trans h.1 h.2)

theorem zero_or_one {v : Int32} : v = 0 ∨ v = 1 ↔ 0 ≤ v ∧ v ≤ 1 := by
  have hv : (0 : Int32).toInt = 0 ∧ (1 : Int32).toInt = 1 := ⟨rfl, rfl⟩
  rw [← Int32.toInt_inj, ← Int32.toInt_inj, Int32.le_iff_toInt_le, Int32.le_iff_toInt_le, hv.1, hv.2]
  omega

theorem takes_checkbox {c : Control} (hc : c.IsCheckbox) {v : Int32} : c.Takes v ↔ v = 0 ∨ v = 1 := by
  cases c with
  | slider s => exact hc.elim
  | checkbox d =>
    by_cases hv : v = 0
    · simp [Takes, clamp?, hv]
    · simp [Takes, clamp?, hv, eq_comm]
  | choice options d => exact hc.elim

theorem clamp?_eq_none {c : Control} {v : Int32} : c.clamp? v = none ↔ ¬ c.Ordered := by
  cases c with
  | slider s =>
    rw [clamp?]
    split
    case isTrue hs => exact ⟨nofun, fun h => absurd hs h⟩
    case isFalse hs => exact ⟨fun _ => hs, fun _ => rfl⟩
  | checkbox d => exact ⟨nofun, fun h => absurd trivial h⟩
  | choice options d => exact ⟨nofun, fun h => absurd trivial h⟩

theorem ordered_of_clamp? {c : Control} {v w : Int32} (h : c.clamp? v = some w) : c.Ordered :=
  Decidable.byContradiction fun hc => by cases (clamp?_eq_none.2 hc).symm.trans h

theorem clamp?_eq_between {c : Control} (hc : c.Ordered) (hbox : ¬ c.IsCheckbox) (v : Int32) :
    c.clamp? v = some (between c.least c.greatest v) := by
  cases c with
  | slider s => exact if_pos hc
  | checkbox d => exact absurd trivial hbox
  | choice options d => rfl

theorem takes_iff {c : Control} {v : Int32} : c.Takes v ↔ c.Covers v := by
  by_cases hbox : c.IsCheckbox
  · cases c with
    | slider s => exact hbox.elim
    | checkbox d => exact (takes_checkbox hbox).trans zero_or_one
    | choice options d => exact hbox.elim
  · constructor
    · intro h
      have hc := ordered_of_clamp? h
      have hv : between c.least c.greatest v = v := Option.some.inj ((clamp?_eq_between hc hbox v).symm.trans h)
      rw [← hv]
      exact le_between (ordered_iff.1 hc) v
    · intro h
      rw [Takes, clamp?_eq_between h.ordered hbox, between_of_le h.1 h.2]

theorem ordered_of_takes {c : Control} {v : Int32} (h : c.Takes v) : c.Ordered := (takes_iff.1 h).ordered

theorem clamp?_covers {c : Control} (hc : c.Ordered) (v : Int32) : ∃ w, c.clamp? v = some w ∧ c.Covers w := by
  by_cases hbox : c.IsCheckbox
  · cases c with
    | slider s => exact hbox.elim
    | checkbox d =>
      refine ⟨if v = 0 then 0 else 1, rfl, zero_or_one.1 ?_⟩
      by_cases hv : v = 0 <;> simp [hv]
    | choice options d => exact hbox.elim
  · exact ⟨_, clamp?_eq_between hc hbox v, le_between (ordered_iff.1 hc) v⟩

theorem covers_of_clamp? {c : Control} {v w : Int32} (h : c.clamp? v = some w) : c.Covers w := by
  obtain ⟨u, hu, hcovers⟩ := clamp?_covers (ordered_of_clamp? h) v
  rwa [← Option.some.inj (hu.symm.trans h)]

theorem clamp?_of_ordered {c : Control} (hc : c.Ordered) (v : Int32) : ∃ w, c.clamp? v = some w :=
  (clamp?_covers hc v).imp fun _ hw => hw.1

theorem clamp?_takes {c : Control} {d : Int32} (hd : c.Takes d) (v : Int32) : ∃ w, c.clamp? v = some w ∧ c.Takes w := by
  obtain ⟨w, hw, hcovers⟩ := clamp?_covers (ordered_of_takes hd) v
  exact ⟨w, hw, takes_iff.2 hcovers⟩

theorem exact_of_covers {c : Control} (hc : c.Fits) {v : Int32} (h : c.Covers v) : Measure.Exact v c.scale := by
  cases c with
  | slider s =>
    by_cases hscale : s.scale ≤ 1
    · exact Measure.exact_of_le hscale
    · obtain ⟨hmin, hmax⟩ := hc.2 (Int32.not_le.1 hscale)
      rw [← Measure.factor_of_lt (Int32.not_le.1 hscale)] at hmin hmax
      have hpos := Int.le_of_lt (Measure.factor_pos s.scale)
      have hlow := Int.mul_le_mul_of_nonneg_right (Int32.le_iff_toInt_le.1 h.1) hpos
      have hup := Int.mul_le_mul_of_nonneg_right (Int32.le_iff_toInt_le.1 h.2) hpos
      exact ⟨Int.le_trans hmin hlow, Int.le_trans hup hmax⟩
  | checkbox d => exact Measure.exact_of_le (Int32.le_refl 1)
  | choice options d => exact Measure.exact_of_le (Int32.le_refl 1)

theorem reread_of_exact {c : Control} {v : Int32} (h : c.Covers v) (hexact : Measure.Exact v c.scale) :
    c.fromStored? (c.toStored v) = some v := by
  rw [fromStored?, toStored, Measure.fromStored_toStored_of_exact hexact]
  exact takes_iff.2 h

theorem fromStored?_toStored {c : Control} (hc : c.Fits) {v : Int32} (h : c.Takes v) :
    c.fromStored? (c.toStored v) = some v :=
  reread_of_exact (takes_iff.1 h) (exact_of_covers hc (takes_iff.1 h))

theorem toStored_pos {c : Control} (hc : c.Fits) (hpos : c.Positive) {v : Int32} (h : c.Takes v) :
    0 < c.toStored v := by
  have hcovers := takes_iff.1 h
  cases c with
  | slider s =>
    have hmin : s.min.toInt ≤ v.toInt := Int32.le_iff_toInt_le.1 hcovers.1
    have hv : 0 < v.toInt := Int.lt_of_lt_of_le (Int32.lt_iff_toInt_lt.1 hpos) hmin
    rw [Int32.lt_iff_toInt_lt, toStored, Measure.toInt_toStored, Measure.clamp32_of_exact (exact_of_covers hc hcovers)]
    exact Int.mul_pos hv (Measure.factor_pos _)
  | checkbox d => exact hpos.elim
  | choice options d => exact hpos.elim

/-- The values that a control is there for; a choice without options has only 0. -/
def InRange : Control → Int32 → Prop
  | slider s, v => s.min ≤ v ∧ v ≤ s.max
  | checkbox _, v => v = 0 ∨ v = 1
  | choice options _, v => 0 ≤ v.toInt ∧ v.toInt ≤ (options.length - 1 : Nat)

theorem inRange_of_takes {c : Control} {v : Int32} (h : c.Takes v) : c.InRange v := by
  obtain ⟨hlow, hhigh⟩ := takes_iff.1 h
  cases c with
  | slider s => exact ⟨hlow, hhigh⟩
  | checkbox d => exact zero_or_one.2 ⟨hlow, hhigh⟩
  | choice options d =>
    exact ⟨Int32.le_iff_toInt_le.1 hlow, Int.le_trans (Int32.le_iff_toInt_le.1 hhigh) (toInt_lastOption_le options)⟩

end Control

end XrPanel
