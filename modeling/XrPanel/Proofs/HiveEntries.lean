import Mathlib.Data.List.Sort
import XrPanel.Proofs.HiveLookup

namespace XrPanel

open Text

namespace SortedMap

variable {β : Type} {a b m : SortedMap β} {k name : String} {v : β}

theorem find?_eq_some : m.find? k = some v ↔ (k, v) ∈ m.entries := by
  constructor
  · intro h
    obtain ⟨e, he, rfl⟩ := Option.map_eq_some_iff.1 h
    have hk : e.1 = k := by simpa using List.find?_some he
    rw [← hk]
    exact List.mem_of_find?_eq_some he
  · obtain ⟨es, hes⟩ := m
    intro h
    change (k, v) ∈ es at h
    change (es.find? fun e => e.1 = k).map (·.2) = some v
    induction es with
    | nil => cases h
    | cons e es ih =>
      obtain ⟨he, hes⟩ := List.pairwise_cons.1 hes
      rcases List.mem_cons.1 h with rfl | h
      · simp
      · have hne : e.1 ≠ k := by
          intro hk
          exact String.lt_irrefl k (hk ▸ he (k, v) h)
        rw [List.find?_cons_of_neg (by simpa using hne)]
        exact ih hes h

theorem ext_find? (h : ∀ k, a.find? k = b.find? k) : a = b := by
  apply ext_entries
  have hasymm : Std.Asymm fun a b : String × β => a.1 < b.1 :=
    ⟨fun _ _ hab hba => String.lt_irrefl _ (String.lt_trans hab hba)⟩
  refine a.ordered.eq_of_mem_iff b.ordered fun e => ?_
  rw [← find?_eq_some, ← find?_eq_some, h]

theorem mem_names : k ∈ m.names ↔ ∃ v, m.find? k = some v := by
  simp [names, find?_eq_some]

theorem find?_eq_none : m.find? k = none ↔ k ∉ m.names := by
  rw [mem_names, Option.eq_none_iff_forall_ne_some, not_exists]

theorem mem_names_insert {x : String} : x ∈ (m.insert k v).names ↔ x = k ∨ x ∈ m.names := by
  rw [mem_names, mem_names, find?_insert]
  by_cases h : k = x
  · simp [h]
  · simp [h, Ne.symm h]

theorem mem_names_of_spelled? (h : m.spelled? name = some k) : k ∈ m.names := List.mem_of_find?_eq_some h

theorem spelled?_eq_none : m.spelled? name = none ↔ ∀ k ∈ m.names, ¬ SameName k name := by
  simp [spelled?]

theorem not_mem_of_spelled? (h : m.spelled? name = none) : name ∉ m.names :=
  fun hn => spelled?_eq_none.1 h name hn (SameName.refl name)

theorem spelling_of_spelled? (h : m.spelled? name = none) : m.spelling name = name := by
  rw [spelling, h, Option.getD_none]

theorem look_eq (m : SortedMap β) (name : String) : m.look name = m.find? (m.spelling name) := by
  unfold look spelling
  cases h : m.spelled? name with
  | none => exact (find?_eq_none.2 (not_mem_of_spelled? h)).symm
  | some k => rfl

theorem spelled?_of_not_mem (h : m.spelling name ∉ m.names) : m.spelled? name = none := by
  cases hk : m.spelled? name with
  | none => rfl
  | some k =>
    rw [spelling, hk] at h
    exact absurd (mem_names_of_spelled? hk) h

theorem look_isSome : (m.look name).isSome = (m.spelled? name).isSome := by
  unfold look
  cases h : m.spelled? name with
  | none => rfl
  | some k =>
    obtain ⟨v, hv⟩ := mem_names.1 (mem_names_of_spelled? h)
    rw [Option.bind_some, hv]
    rfl

end SortedMap

namespace Hive

variable {h h' : Hive} {p n : String} {v : Value}

def at? (h : Hive) (p n : String) : Option Value := (SortedMap.find? h p).bind (·.find? n)

theorem mem_entries : (p, n, v) ∈ h.entries ↔ h.at? p n = some v := by
  simp only [entries, at?, List.mem_flatMap, List.mem_map, Prod.mk.injEq, Option.bind_eq_some_iff,
    SortedMap.find?_eq_some]
  constructor
  · rintro ⟨e, he, x, hx, rfl, rfl, rfl⟩
    exact ⟨e.2, he, hx⟩
  · rintro ⟨vs, hvs, hx⟩
    exact ⟨(p, vs), hvs, (n, v), hx, rfl, rfl, rfl⟩

/-- A path without values is in a hive too, so the paths are compared besides the values. -/
theorem ext_at? (hpaths : ∀ p, p ∈ SortedMap.names h ↔ p ∈ SortedMap.names h')
    (hvalues : ∀ p n, h.at? p n = h'.at? p n) : h = h' := by
  apply SortedMap.ext_find?
  intro p
  have hpath := hpaths p
  rw [SortedMap.mem_names, SortedMap.mem_names] at hpath
  cases hp : SortedMap.find? h p with
  | none =>
    cases hp' : SortedMap.find? h' p with
    | none => rfl
    | some vs => simp [hp, hp'] at hpath
  | some vs =>
    cases hp' : SortedMap.find? h' p with
    | none => simp [hp, hp'] at hpath
    | some vs' =>
      refine congrArg some (SortedMap.ext_find? fun n => ?_)
      have hv := hvalues p n
      rwa [at?, at?, hp, hp'] at hv

theorem mem_names_of_at? (hv : h.at? p n = some v) : p ∈ SortedMap.names h := by
  obtain ⟨vs, hvs, -⟩ := Option.bind_eq_some_iff.1 hv
  exact SortedMap.mem_names.2 ⟨vs, hvs⟩

theorem find?_valuesAt (h : Hive) (p n : String) : (h.valuesAt p).find? n = h.at? (SortedMap.spelling h p) n := by
  rw [valuesAt, at?, SortedMap.look_eq]
  cases SortedMap.find? h (SortedMap.spelling h p) <;> rfl

theorem get?_eq (h : Hive) (p n : String) :
    h.get? p n = h.at? (SortedMap.spelling h p) ((h.valuesAt p).spelling n) := by
  rw [get?, SortedMap.look_eq, find?_valuesAt]

theorem at?_put (h : Hive) (path : String) (vs : SortedMap Value) (p n : String) :
    at? (SortedMap.put h path vs) p n = if SortedMap.spelling h path = p then vs.find? n else h.at? p n := by
  rw [at?, SortedMap.put, SortedMap.find?_insert]
  split <;> rfl

theorem at?_set (h : Hive) (path name : String) (x : Value) (p n : String) :
    (h.set path name x).at? p n =
      if SortedMap.spelling h path = p ∧ (h.valuesAt path).spelling name = n then some x else h.at? p n := by
  rw [set, at?_put]
  by_cases hp : SortedMap.spelling h path = p
  · rw [if_pos hp, SortedMap.put, SortedMap.find?_insert, find?_valuesAt, hp]
    simp
  · rw [if_neg hp, if_neg fun hpn => hp hpn.1]

theorem at?_ensurePath (h : Hive) (path p n : String) : (h.ensurePath path).at? p n = h.at? p n := by
  rw [ensurePath, at?_put]
  split
  case isTrue hp => rw [find?_valuesAt, hp]
  case isFalse => rfl

theorem at?_delete (h : Hive) (path name p n : String) :
    (h.delete path name).at? p n =
      if SortedMap.spelling h path = p ∧ (h.valuesAt path).spelling name = n then none else h.at? p n := by
  unfold delete
  split
  case isTrue =>
    rw [at?_put]
    by_cases hp : SortedMap.spelling h path = p
    · rw [if_pos hp, SortedMap.drop, SortedMap.find?_erase, find?_valuesAt, hp]
      simp
    · rw [if_neg hp, if_neg fun hpn => hp hpn.1]
  case isFalse hnone =>
    split
    case isTrue hpn =>
      obtain ⟨rfl, rfl⟩ := hpn
      rw [← get?_eq]
      simpa using hnone
    case isFalse => rfl

theorem mem_names_put {path x : String} {vs : SortedMap Value} :
    x ∈ SortedMap.names (SortedMap.put h path vs) ↔ x = SortedMap.spelling h path ∨ x ∈ SortedMap.names h :=
  SortedMap.mem_names_insert

theorem after_cases (h : Hive) (r : Request) : h.after r = h ∨
    (∃ p, r = .ensurePath p ∧ h.after r = h.ensurePath p) ∨
    (∃ p n v, r.target? = some (p, n) ∧ h.after r = h.set p n v) ∨
    ∃ p n, r = .deleteValue p n ∧ h.after r = h.delete p n := by
  cases r with
  | ensurePath p =>
    rw [after, edit?]
    split
    · exact .inl rfl
    · exact .inr (.inl ⟨p, rfl, rfl⟩)
  | setDword p n i => exact .inr (.inr (.inl ⟨p, n, .dword i, rfl, rfl⟩))
  | setString p n s => exact .inr (.inr (.inl ⟨p, n, .string s, rfl, rfl⟩))
  | deleteValue p n =>
    rw [after, edit?]
    split
    · exact .inr (.inr (.inr ⟨p, n, rfl, rfl⟩))
    · exact .inl rfl
  | getDword p n => exact .inl rfl
  | getString p n => exact .inl rfl

theorem after_deleteValue (h : Hive) (p n : String) : h.after (.deleteValue p n) = h.delete p n := by
  rw [after, edit?]
  split
  case isTrue => rfl
  case isFalse hnone =>
    rw [delete, if_neg hnone]
    rfl

end Hive

end XrPanel
