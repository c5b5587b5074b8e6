import XrPanel.Panel.Pimax
import XrPanel.Proofs.Numerals
import XrPanel.Proofs.Refusals
import XrPanel.Proofs.TrimmedTexts

namespace XrPanel.Control

open Text

def expected : Control → Expected
  | slider s => .integer s.min s.max
  | checkbox _ => .onOff
  | choice options _ => .oneOf options

def read? : Control → String → Option Int32
  | slider _, word => readInt32? word
  | checkbox _, word => checkedBy? (foldCase word)
  | choice options _, word => optionBy? options word

theorem parse_eq (c : Control) (input : String) :
    c.parse input = (c.read? (trim input)).elim (.error c.expected) .ok := by
  cases c <;> rfl

theorem parse_eq_ok {c : Control} {input : String} {v : Int32} :
    c.parse input = .ok v ↔ c.read? (trim input) = some v := by
  rw [parse_eq]
  cases c.read? (trim input) <;> simp

theorem parse_eq_error {c : Control} {input : String} (h : c.read? (trim input) = none) :
    c.parse input = .error c.expected := by
  rw [parse_eq, h]
  rfl

def IsPosition (options : List String) (word : String) (v : Int32) : Prop :=
  IntNumeral word.toList v.toInt ∧ 0 ≤ v ∧ v < Int32.ofNat options.length

theorem isPosition_of_length {options : List String} (h : options.length < 2147483648) {word : String} {v : Int32} :
    IsPosition options word v ↔ IntNumeral word.toList v.toInt ∧ 0 ≤ v.toInt ∧ v.toInt < options.length := by
  rw [IsPosition, Int32.le_iff_toInt_le, Int32.lt_iff_toInt_lt, Int32.toInt_ofNat_of_lt h, Int32.toInt_zero]

/-- The words that a control takes, and the value of each. The position of an option wins over its name, and of options
with the same name the first one over the others. -/
inductive Means : Control → String → Int32 → Prop
  | number {s : Slider} {word : String} {v : Int32} (h : IntNumeral word.toList v.toInt) : Means (slider s) word v
  | on {d : Bool} {word : String} (h : ∃ w ∈ ["1", "on", "true", "yes"], SameName word w) : Means (checkbox d) word 1
  | off {d : Bool} {word : String} (h : ∃ w ∈ ["0", "off", "false", "no"], SameName word w) : Means (checkbox d) word 0
  | position {options : List String} {d v : Int32} {word : String} (h : IsPosition options word v) :
      Means (choice options d) word v
  | name {options : List String} {d : Int32} {word : String} {i : Nat} (hnone : ∀ v, ¬ IsPosition options word v)
      (hi : i < options.length) (h : SameName options[i] word) (hfirst : ∀ j (hj : j < i), ¬ SameName options[j] word) :
      Means (choice options d) word (Int32.ofNat i)

theorem foldCase_mem_iff {words : List String} (hwords : ∀ w ∈ words, foldCase w = w) (word : String) :
    foldCase word ∈ words ↔ ∃ w ∈ words, SameName word w := by
  constructor
  · intro h
    exact ⟨foldCase word, h, (hwords _ h).symm⟩
  · rintro ⟨w, hw, hsame⟩
    have hfold : foldCase word = foldCase w := hsame
    rw [hfold, hwords w hw]
    exact hw

theorem checkedBy?_eq_some {d : Bool} {word : String} {v : Int32} :
    checkedBy? (foldCase word) = some v ↔ (checkbox d).Means word v := by
  have hwords : ∀ w ∈ ["1", "on", "true", "yes"], foldCase w = w := by decide +kernel
  have hwords' : ∀ w ∈ ["0", "off", "false", "no"], foldCase w = w := by decide +kernel
  have hon := foldCase_mem_iff hwords word
  have hoff := foldCase_mem_iff hwords' word
  unfold checkedBy?
  constructor
  · intro h
    split at h
    case isTrue hw =>
      cases h
      exact .on (hon.1 hw)
    case isFalse =>
      split at h
      case isTrue hw =>
        cases h
        exact .off (hoff.1 hw)
      case isFalse => cases h
  · rintro (_ | h | h)
    · rw [if_pos (hon.2 h)]
    · have hw := hoff.2 h
      have hapart : ∀ w ∈ ["0", "off", "false", "no"], w ∉ ["1", "on", "true", "yes"] := by decide
      rw [if_neg (hapart _ hw), if_pos hw]

theorem named_eq_some {options : List String} {word : String} {v : Int32} :
    optionBy?.named options word = some v ↔ ∃ (i : Nat) (hi : i < options.length), SameName options[i] word ∧
      (∀ j (hj : j < i), ¬ SameName options[j] word) ∧ Int32.ofNat i = v := by
  simp only [optionBy?.named, Option.map_eq_some_iff, List.findIdx?_eq_some_iff_getElem, decide_eq_true_eq]
  constructor
  · rintro ⟨i, ⟨hi, hname, hfirst⟩, hv⟩
    exact ⟨i, hi, hname, hfirst, hv⟩
  · rintro ⟨i, hi, hname, hfirst, hv⟩
    exact ⟨i, ⟨hi, hname, hfirst⟩, hv⟩

theorem isPosition_iff {options : List String} {word : String} {v : Int32} :
    IsPosition options word v ↔ readInt32? word = some v ∧ 0 ≤ v ∧ v < Int32.ofNat options.length := by
  rw [IsPosition, readInt32?_eq_some]

theorem optionBy?_of_position {options : List String} {word : String} {v : Int32} (h : IsPosition options word v) :
    optionBy? options word = some v := by
  obtain ⟨hread, hrange⟩ := isPosition_iff.1 h
  simp only [optionBy?, hread]
  exact if_pos hrange

theorem optionBy?_of_not_position {options : List String} {word : String} (h : ∀ v, ¬ IsPosition options word v) :
    optionBy? options word = optionBy?.named options word := by
  unfold optionBy?
  split
  case h_1 n hread => exact if_neg fun hrange => h n (isPosition_iff.2 ⟨hread, hrange⟩)
  case h_2 => rfl

theorem optionBy?_eq_some {options : List String} {d : Int32} {word : String} {v : Int32} :
    optionBy? options word = some v ↔ (choice options d).Means word v := by
  constructor
  · intro h
    by_cases hpos : ∃ n, IsPosition options word n
    · obtain ⟨n, hn⟩ := hpos
      rw [optionBy?_of_position hn] at h
      obtain rfl := Option.some.inj h
      exact .position hn
    · have hnone := not_exists.1 hpos
      rw [optionBy?_of_not_position hnone] at h
      obtain ⟨i, hi, hname, hfirst, rfl⟩ := named_eq_some.1 h
      exact .name hnone hi hname hfirst
  · rintro (_ | _ | _ | h | ⟨hnone, hi, hname, hfirst⟩)
    · exact optionBy?_of_position h
    · rw [optionBy?_of_not_position hnone]
      exact named_eq_some.2 ⟨_, hi, hname, hfirst, rfl⟩

theorem read?_eq_some {c : Control} {word : String} {v : Int32} : c.read? word = some v ↔ c.Means word v := by
  cases c with
  | slider s =>
    constructor
    · intro h
      exact .number (readInt32?_eq_some.1 h)
    · rintro ⟨h⟩
      exact readInt32?_eq_some.2 h
  | checkbox d => exact checkedBy?_eq_some
  | choice options d => exact optionBy?_eq_some

/-- The values that can be typed as they are shown. -/
def Echoes : Control → Int32 → Prop
  | slider s, _ => s.display = .integer ∨ s.display = .height
  | checkbox _, v => v = 0 ∨ v = 1
  | choice options _, v => (0 ≤ v.toInt ∧ v.toInt < options.length) ∧ (∀ o ∈ options, trim o = o) ∧
      options.Pairwise (fun o o' => ¬ SameName o o') ∧ ∀ o ∈ options, ∀ n, ¬ IsPosition options o n

theorem display_of_echoes {s : Slider} {v : Int32} (h : (slider s).Echoes v) : (slider s).display v = decimal32 v := by
  rcases h with h | h <;> simp [display, h]

theorem display_choice {options : List String} {d v : Int32} (h : (choice options d).Echoes v) :
    ∃ hi : v.toInt.toNat < options.length, (choice options d).display v = options[v.toInt.toNat] := by
  obtain ⟨hrange, -⟩ := h
  have hi : v.toInt.toNat < options.length := by omega
  exact ⟨hi, (List.getElem_eq_getD "").symm⟩

theorem numeral_decimal32 (v : Int32) : IntNumeral (decimal32 v).toList v.toInt := by
  rw [decimal32, decimal, String.toList_ofList]
  exact intNumeral_intDigits v.toInt

theorem core_display {c : Control} {v : Int32} (h : c.Echoes v) : Core (c.display v).toList (c.display v).toList := by
  cases c with
  | slider s =>
    rw [display_of_echoes h]
    exact core_of_not_blank (numeral_decimal32 v).not_blank
  | checkbox d =>
    rcases h with rfl | rfl
    · change Core "off".toList "off".toList
      exact core_of_not_blank (by simp [isBlank])
    · change Core "on".toList "on".toList
      exact core_of_not_blank (by simp [isBlank])
  | choice options d =>
    obtain ⟨hi, hshown⟩ := display_choice h
    rw [hshown]
    exact trim_eq_iff.1 (h.2.1 _ (List.getElem_mem hi))

theorem means_display {c : Control} {v : Int32} {word : String} (h : c.Echoes v) (hw : SameName word (c.display v)) :
    c.Means word v := by
  cases c with
  | slider s =>
    rw [display_of_echoes h] at hw
    have hnumeral := numeral_decimal32 v
    obtain rfl := hw.eq_of_not_alpha hnumeral.not_alpha
    exact .number hnumeral
  | checkbox d =>
    rcases h with rfl | rfl
    · exact .off ⟨"off", by decide, hw⟩
    · exact .on ⟨"on", by decide, hw⟩
  | choice options d =>
    obtain ⟨hi, hshown⟩ := display_choice h
    obtain ⟨⟨hpos, -⟩, -, hapart, hnumber⟩ := h
    rw [hshown] at hw
    -- A numeral has no letters: a word that is one is the option itself, which is no position.
    have hnone : ∀ n, ¬ IsPosition options word n := by
      intro n hn
      have hsame := hw.symm.eq_of_not_alpha hn.1.not_alpha
      exact hnumber _ (List.getElem_mem hi) n (hsame ▸ hn)
    have hfirst : ∀ j (hj : j < v.toInt.toNat), ¬ SameName options[j] word := by
      intro j hj hname
      exact List.pairwise_iff_getElem.1 hapart j _ (by omega) hi hj (hname.trans hw)
    have hv : Int32.ofNat v.toInt.toNat = v := by
      rw [← Int32.ofInt_eq_ofNat, Int.toNat_of_nonneg hpos, Int32.ofInt_toInt]
    have hmeans := Means.name (d := d) hnone hi hw.symm hfirst
    rw [hv] at hmeans
    exact hmeans

theorem parse_display {c : Control} {v : Int32} {front word back : String} (h : c.Echoes v)
    (hw : SameName word (c.display v)) (hfront : isBlankText front = true) (hback : isBlankText back = true) :
    c.parse (front ++ word ++ back) = .ok v := by
  have hcore := hw.core (core_display h)
  have htrim : trim (front ++ word ++ back) = word := by
    rw [trim_eq_iff, String.toList_append, String.toList_append]
    exact ⟨⟨front.toList, back.toList, rfl, hfront, hback⟩, hcore.head, hcore.last⟩
  rw [parse_eq_ok, htrim, read?_eq_some]
  exact means_display h hw

/-- The blanks at the ends of what is typed do not count. A word is taken exactly if it means a value; for any other the
input is refused as invalid, with what the control expects. What a control shows can be typed, in capitals or small
letters and with blanks around it, but for fractions and for options that cannot be told from one another. -/
theorem typed_input_is_read_exactly (c : Control) :
    (∀ input word, trim input = word ↔ Core input.toList word.toList) ∧
      (∀ input v, c.parse input = .ok v ↔ c.Means (trim input) v) ∧
      (c.options.length < 2147483648 → ∀ word v, IsPosition c.options word v ↔
        IntNumeral word.toList v.toInt ∧ 0 ≤ v.toInt ∧ v.toInt < c.options.length) ∧
      (∀ input, (∀ v, ¬ c.Means (trim input) v) → c.parse input = .error c.expected ∧
        ∀ (f : Form) (id : String) (b : Binding), f.table.binding? id = some b → b.control = c →
          f.setText id input = pure ⟨f, some (.error (.invalidValue id input c.expected))⟩) ∧
      ∀ v front word back, c.Echoes v → SameName word (c.display v) → isBlankText front = true →
        isBlankText back = true → c.parse (front ++ word ++ back) = .ok v := by
  have hmeans : ∀ input v, c.parse input = .ok v ↔ c.Means (trim input) v := by
    intro input v
    rw [parse_eq_ok, read?_eq_some]
  refine ⟨fun _ _ => trim_eq_iff, hmeans, fun h _ _ => isPosition_of_length h, ?_, fun _ _ _ _ => parse_display⟩
  intro input hnone
  have hrefused : c.parse input = .error c.expected := by
    apply parse_eq_error
    rw [Option.eq_none_iff_forall_ne_some]
    intro v hv
    exact hnone v (read?_eq_some.1 hv)
  refine ⟨hrefused, ?_⟩
  rintro f id b hb rfl
  rw [Form.setText_of_some hb, hrefused]

theorem typed_input_is_read_exactly_emulation :
    (choice Pimax.controllerEmulation 0).Echoes 1 ∧
      SameName "OCULUS touch" ((choice Pimax.controllerEmulation 0).display 1) ∧
      (choice Pimax.controllerEmulation 0).parse (" \t" ++ "OCULUS touch" ++ "\n") = .ok 1 ∧
      (∀ v, ¬ (choice Pimax.controllerEmulation 0).Means (trim "3") v) ∧
      (Form.new Pimax.companion "SOFTWARE\\PimaxXR").setText "controller_emulation" "3" =
        pure ⟨Form.new Pimax.companion "SOFTWARE\\PimaxXR",
          some (.error (.invalidValue "controller_emulation" "3" (.oneOf Pimax.controllerEmulation)))⟩ := by
  have hnumber : ∀ o ∈ Pimax.controllerEmulation, readInt32? o = none := by decide +kernel
  have hechoes : (choice Pimax.controllerEmulation 0).Echoes 1 := by
    refine ⟨by decide, by decide +kernel, by decide +kernel, ?_⟩
    intro o ho n hn
    have hread := (isPosition_iff.1 hn).1
    rw [hnumber o ho] at hread
    cases hread
  have hshown : (choice Pimax.controllerEmulation 0).display 1 = "Oculus Touch" := rfl
  have hsame : SameName "OCULUS touch" ((choice Pimax.controllerEmulation 0).display 1) := by
    rw [hshown, sameName_iff]
    decide
  have hnone : ∀ v, ¬ (choice Pimax.controllerEmulation 0).Means (trim "3") v := by
    have hread : (choice Pimax.controllerEmulation 0).read? (trim "3") = none := by decide +kernel
    intro v hv
    rw [← read?_eq_some, hread] at hv
    cases hv
  obtain ⟨-, -, -, hrefused, hechoed⟩ := typed_input_is_read_exactly (choice Pimax.controllerEmulation 0)
  obtain ⟨-, hform⟩ := hrefused "3" hnone
  refine ⟨hechoes, hsame, ?_, hnone, ?_⟩
  · exact hechoed 1 " \t" "OCULUS touch" "\n" hechoes hsame (by decide +kernel) (by decide +kernel)
  · exact hform (Form.new Pimax.companion "SOFTWARE\\PimaxXR") "controller_emulation" _ rfl rfl

end XrPanel.Control
