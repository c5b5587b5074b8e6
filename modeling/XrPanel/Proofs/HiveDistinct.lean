import XrPanel.Proofs.HiveEntries

namespace XrPanel

open Text

namespace SortedMap

variable {β : Type} {m : SortedMap β} {k name : String} {v : β}

def Distinct (m : SortedMap β) : Prop := ∀ a ∈ m.names, ∀ b ∈ m.names, SameName a b → a = b

theorem distinct_empty : (empty : SortedMap β).Distinct := by
  intro a ha
  cases ha

theorem spelling_of_sameName {k' : String} (hk' : k' ∈ m.names) (h : SameName k' name) : m.spelling name ∈ m.names := by
  unfold spelling
  cases hs : m.spelled? name with
  | none => exact absurd h (spelled?_eq_none.1 hs k' hk')
  | some k => exact mem_names_of_spelled? hs

namespace Distinct

theorem spelling_eq (hm : m.Distinct) (hk : k ∈ m.names) (h : SameName k name) : m.spelling name = k :=
  hm _ (spelling_of_sameName hk h) k hk ((m.sameName_spelling name).trans h.symm)

theorem put (hm : m.Distinct) (name : String) (v : β) : (m.put name v).Distinct := by
  have hnew : ∀ b ∈ m.names, SameName (m.spelling name) b → m.spelling name = b :=
    fun b hb h => hm.spelling_eq hb (h.symm.trans (m.sameName_spelling name))
  intro a ha b hb h
  rcases mem_names_insert.1 ha with rfl | ha
  · rcases mem_names_insert.1 hb with rfl | hb
    · rfl
    · exact hnew b hb h
  · rcases mem_names_insert.1 hb with rfl | hb
    · exact (hnew a ha h.symm).symm
    · exact hm a ha b hb h

theorem drop (hm : m.Distinct) (name : String) : (m.drop name).Distinct := by
  have hsub : ∀ a ∈ (m.drop name).names, a ∈ m.names := by
    intro a ha
    obtain ⟨v, hv⟩ := mem_names.1 ha
    rw [SortedMap.drop, find?_erase] at hv
    split at hv
    · cases hv
    · exact mem_names.2 ⟨v, hv⟩
  exact fun a ha b hb => hm a (hsub a ha) b (hsub b hb)

theorem look_eq_some (hm : m.Distinct) : m.look name = some v ↔ ∃ k, SameName k name ∧ m.find? k = some v := by
  rw [look_eq]
  constructor
  · intro h
    exact ⟨_, m.sameName_spelling name, h⟩
  · rintro ⟨k, hk, hv⟩
    rw [hm.spelling_eq (mem_names.2 ⟨v, hv⟩) hk, hv]

end Distinct

end SortedMap

namespace Hive

variable {h : Hive} {p n q k : String} {v : Value}

structure Distinct (h : Hive) : Prop where
  paths : SortedMap.Distinct h
  names {p : String} {vs : SortedMap Value} (hvs : SortedMap.find? h p = some vs) : vs.Distinct

theorem distinct_empty : Distinct .empty := ⟨SortedMap.distinct_empty, fun hvs => by cases hvs⟩

theorem get?_congr (hp : SameName p q) (hn : SameName n k) : h.get? p n = h.get? q k := by
  rw [get?, get?, valuesAt_congr hp, SortedMap.look_congr hn]

theorem containsPath_iff : h.containsPath q = true ↔ ∃ p ∈ SortedMap.names h, SameName p q := by
  rw [containsPath, SortedMap.look_isSome, ← Option.ne_none_iff_isSome, ne_eq, SortedMap.spelled?_eq_none]
  simp

theorem containsPath_put {vs : SortedMap Value} :
    containsPath (SortedMap.put h p vs) q = true ↔ SameName p q ∨ h.containsPath q = true := by
  rw [containsPath_iff, containsPath_iff]
  have hs := SortedMap.sameName_spelling h p
  constructor
  · rintro ⟨x, hx, hxq⟩
    rcases mem_names_put.1 hx with rfl | hx
    · exact .inl (hs.symm.trans hxq)
    · exact .inr ⟨x, hx, hxq⟩
  · rintro (hpq | ⟨x, hx, hxq⟩)
    · exact ⟨_, mem_names_put.2 (.inl rfl), hs.trans hpq⟩
    · exact ⟨x, mem_names_put.2 (.inr hx), hxq⟩

theorem spelling_mem_of_get? (hv : (h.get? p n).isSome) : SortedMap.spelling h p ∈ SortedMap.names h := by
  obtain ⟨v, hv⟩ := Option.isSome_iff_exists.1 hv
  rw [get?_eq] at hv
  exact mem_names_of_at? hv

theorem mem_names_delete : q ∈ SortedMap.names (h.delete p n) ↔ q ∈ SortedMap.names h := by
  unfold delete
  split
  case isTrue hv =>
    rw [mem_names_put]
    constructor
    · rintro (rfl | hq)
      · exact spelling_mem_of_get? hv
      · exact hq
    · exact .inr
  case isFalse => rfl

theorem containsPath_delete : (h.delete p n).containsPath q = h.containsPath q := by
  rw [Bool.eq_iff_iff, containsPath_iff, containsPath_iff]
  simp only [mem_names_delete]

namespace Distinct

variable (hd : h.Distinct)

include hd

theorem valuesAt (p : String) : (h.valuesAt p).Distinct := by
  unfold Hive.valuesAt
  rw [SortedMap.look_eq]
  cases hvs : SortedMap.find? h (SortedMap.spelling h p) with
  | none => exact SortedMap.distinct_empty
  | some vs => exact hd.names hvs

theorem put {vs : SortedMap Value} (hvs : vs.Distinct) (p : String) : Distinct (SortedMap.put h p vs) := by
  refine ⟨hd.paths.put p vs, fun {q ws} hws => ?_⟩
  rw [SortedMap.put, SortedMap.find?_insert] at hws
  split at hws
  · cases hws
    exact hvs
  · exact hd.names hws

theorem ensurePath (p : String) : (h.ensurePath p).Distinct := hd.put (hd.valuesAt p) p

theorem set (p n : String) (v : Value) : (h.set p n v).Distinct := hd.put ((hd.valuesAt p).put n v) p

theorem delete (p n : String) : (h.delete p n).Distinct := by
  unfold Hive.delete
  split
  · exact hd.put ((hd.valuesAt p).drop n) p
  · exact hd

theorem after (r : Request) : (h.after r).Distinct := by
  rcases h.after_cases r with ha | ⟨p, -, ha⟩ | ⟨p, n, v, -, ha⟩ | ⟨p, n, -, ha⟩ <;> rw [ha]
  · exact hd
  · exact hd.ensurePath p
  · exact hd.set p n v
  · exact hd.delete p n

theorem get?_eq_some : h.get? q k = some v ↔ ∃ p n, SameName p q ∧ SameName n k ∧ h.at? p n = some v := by
  constructor
  · intro hv
    rw [get?_eq] at hv
    exact ⟨_, _, SortedMap.sameName_spelling h q, SortedMap.sameName_spelling _ k, hv⟩
  · rintro ⟨p, n, hp, hn, hv⟩
    obtain rfl : SortedMap.spelling h q = p := hd.paths.spelling_eq (mem_names_of_at? hv) hp
    rw [get?, (hd.valuesAt q).look_eq_some]
    exact ⟨n, hn, by rw [find?_valuesAt, hv]⟩

theorem get?_of_at? (hv : h.at? p n = some v) : h.get? p n = some v :=
  hd.get?_eq_some.2 ⟨p, n, SameName.refl p, SameName.refl n, hv⟩

theorem get?_delete (p n q k : String) :
    (h.delete p n).get? q k = if SameName p q ∧ SameName n k then none else h.get? q k := by
  have hp := SortedMap.sameName_spelling h p
  have hn := SortedMap.sameName_spelling (h.valuesAt p) n
  apply Option.ext
  intro v
  rw [(hd.delete p n).get?_eq_some]
  simp only [at?_delete]
  constructor
  · rintro ⟨p', n', hp', hn', hv⟩
    split at hv
    case isTrue => cases hv
    case isFalse hne =>
      have hread : h.get? q k = some v := hd.get?_eq_some.2 ⟨p', n', hp', hn', hv⟩
      rw [if_neg, hread]
      rintro ⟨hpq, hnk⟩
      have hpath : SortedMap.spelling h p = p' :=
        hd.paths.spelling_eq (mem_names_of_at? hv) (hp'.trans hpq.symm)
      refine hne ⟨hpath, (hd.valuesAt p).spelling_eq ?_ (hn'.trans hnk.symm)⟩
      exact SortedMap.mem_names.2 ⟨v, by rw [find?_valuesAt, hpath, hv]⟩
  · intro hv
    split at hv
    case isTrue => cases hv
    case isFalse hne =>
      obtain ⟨p', n', hp', hn', hv⟩ := hd.get?_eq_some.1 hv
      refine ⟨p', n', hp', hn', ?_⟩
      rw [if_neg, hv]
      rintro ⟨rfl, rfl⟩
      exact hne ⟨hp.symm.trans hp', hn.symm.trans hn'⟩

end Distinct

end Hive

end XrPanel
