import XrPanel.Store.Memory

namespace XrPanel

open Text

namespace SortedMap

variable {β : Type}

theorem find?_insertEntry_pos {p : String → Bool} {k : String} (v : β) {es : List (String × β)}
    (hk : p k = true) (h : (es.map (·.1)).find? p = none ∨ (es.map (·.1)).find? p = some k) :
    ((insertEntry k v es).map (·.1)).find? p = some k := by
  induction es with
  | nil => simp [insertEntry, hk]
  | cons e es ih =>
    simp only [insertEntry]
    split
    case isTrue => simp [hk]
    case isFalse =>
      split
      case isTrue => simp [hk]
      case isFalse hne =>
        cases he : p e.1 with
        | true =>
          rw [List.map_cons, List.find?_cons_of_pos he] at h
          rcases h with h | h
          · cases h
          · exact absurd (Option.some.inj h).symm hne
        | false =>
          have hn : ¬ p e.1 = true := by simp [he]
          rw [List.map_cons, List.find?_cons_of_neg hn] at h ⊢
          exact ih h

theorem find?_insertEntry_neg {p : String → Bool} {k : String} (v : β) (es : List (String × β))
    (hk : p k = false) : ((insertEntry k v es).map (·.1)).find? p = (es.map (·.1)).find? p := by
  induction es with
  | nil => simp [insertEntry, hk]
  | cons e es ih =>
    simp only [insertEntry]
    split
    case isTrue => simp [hk]
    case isFalse =>
      split
      case isTrue he => simp [he]
      case isFalse =>
        simp only [List.map_cons, List.find?_cons]
        rw [ih]

theorem sameName_of_spelled? {m : SortedMap β} {name k : String} (h : m.spelled? name = some k) :
    SameName k name := by
  have hk := List.find?_some h
  simpa using hk

theorem spelled?_congr {m : SortedMap β} {a b : String} (h : SameName a b) : m.spelled? a = m.spelled? b := by
  have he : (fun k => decide (SameName k a)) = fun k => decide (SameName k b) := by
    funext k
    exact decide_eq_decide.2 ⟨fun hk => hk.trans h, fun hk => hk.trans h.symm⟩
  rw [spelled?, spelled?, he]

theorem sameName_spelling (m : SortedMap β) (name : String) : SameName (m.spelling name) name := by
  unfold spelling
  cases h : m.spelled? name with
  | none => exact SameName.refl name
  | some k => exact sameName_of_spelled? h

theorem look_congr {m : SortedMap β} {a b : String} (h : SameName a b) : m.look a = m.look b := by
  rw [look, look, spelled?_congr h]

theorem spelled?_put (m : SortedMap β) (name other : String) (v : β) :
    (m.put name v).spelled? other =
      if SameName name other then some (m.spelling name) else m.spelled? other := by
  have hs := m.sameName_spelling name
  by_cases h : SameName name other
  · rw [if_pos h]
    apply find?_insertEntry_pos
    · simpa using hs.trans h
    · change m.spelled? other = none ∨ m.spelled? other = some (m.spelling name)
      rw [← spelled?_congr h, spelling]
      cases m.spelled? name <;> simp
  · rw [if_neg h]
    apply find?_insertEntry_neg
    simpa using fun hk => h (hs.symm.trans hk)

theorem look_put (m : SortedMap β) (name other : String) (v : β) :
    (m.put name v).look other = if SameName name other then some v else m.look other := by
  rw [look, spelled?_put]
  by_cases h : SameName name other
  · rw [if_pos h, if_pos h, Option.bind_some, put, find?_insert, if_pos rfl]
  · rw [if_neg h, if_neg h, look]
    cases hk : m.spelled? other with
    | none => rfl
    | some k =>
      have hne : m.spelling name ≠ k := by
        rintro rfl
        exact h ((m.sameName_spelling name).symm.trans (sameName_of_spelled? hk))
      rw [Option.bind_some, Option.bind_some, put, find?_insert, if_neg hne]

end SortedMap

namespace Hive

theorem valuesAt_congr {h : Hive} {p q : String} (hp : SameName p q) : h.valuesAt p = h.valuesAt q := by
  rw [valuesAt, valuesAt, SortedMap.look_congr hp]

theorem valuesAt_put (h : Hive) (p q : String) (vs : SortedMap Value) :
    valuesAt (SortedMap.put h p vs) q = if SameName p q then vs else h.valuesAt q := by
  rw [valuesAt, SortedMap.look_put]
  split <;> rfl

theorem get?_set (h : Hive) (p n : String) (v : Value) (q k : String) :
    (h.set p n v).get? q k = if SameName p q ∧ SameName n k then some v else h.get? q k := by
  rw [get?, set, valuesAt_put]
  by_cases hp : SameName p q
  · rw [if_pos hp, SortedMap.look_put, get?, valuesAt_congr hp]
    simp [hp]
  · rw [if_neg hp, if_neg fun h => hp h.1, get?]

theorem get?_ensurePath (h : Hive) (p q k : String) : (h.ensurePath p).get? q k = h.get? q k := by
  rw [get?, ensurePath, valuesAt_put, get?]
  by_cases hp : SameName p q
  · rw [if_pos hp, valuesAt_congr hp]
  · rw [if_neg hp]

theorem get?_after_ensurePath (h : Hive) (p q k : String) :
    (h.after (.ensurePath p)).get? q k = h.get? q k := by
  rw [after, edit?]
  split
  · rfl
  · exact get?_ensurePath h p q k

end Hive

end XrPanel
