import Mathlib.Data.List.Induction
import Mathlib.Data.Set.Insert
import XrPanel.Proofs.ByteOrder
import XrPanel.Proofs.HiveDistinct

namespace XrPanel

open Text

namespace Hive

inductive Change where
  | set (path name : String) (v : Value)
  | ensurePath (path : String)
  | delete (path name : String)

namespace Change

def apply : Change → Hive → Hive
  | set p n v, h => h.set p n v
  | ensurePath p, h => h.ensurePath p
  | delete p n, h => h.delete p n

def path? : Change → Option String
  | set p _ _ | ensurePath p => some p
  | delete .. => none

end Change

def made (cs : List Change) : Hive := cs.foldl (fun h c => c.apply h) .empty

theorem made_concat (cs : List Change) (c : Change) : made (cs ++ [c]) = c.apply (made cs) := by
  rw [made, List.foldl_append]
  rfl

/-- The map that a hive stands for, from folded paths and names, with the folded paths that there are. -/
structure FoldedMap where
  paths : Set String
  values : String × String → Option Value

def Change.record : Change → FoldedMap → FoldedMap
  | set p n v, m =>
    ⟨insert (foldCase p) m.paths, Function.update m.values (foldCase p, foldCase n) (some v)⟩
  | ensurePath p, m => ⟨insert (foldCase p) m.paths, m.values⟩
  | delete p n, m => ⟨m.paths, Function.update m.values (foldCase p, foldCase n) none⟩

def recorded (cs : List Change) : FoldedMap := cs.foldl (fun m c => c.record m) ⟨∅, fun _ => none⟩

structure StandsFor (h : Hive) (m : FoldedMap) : Prop where
  paths (p : String) : h.containsPath p = true ↔ foldCase p ∈ m.paths
  values (p n : String) : h.get? p n = m.values (foldCase p, foldCase n)

variable {cs : List Change} {c : Change} {h : Hive} {m : FoldedMap} {p n q k : String} {v : Value}

theorem Distinct.apply (hd : h.Distinct) (c : Change) : (c.apply h).Distinct := by
  cases c with
  | set p n v => exact hd.set p n v
  | ensurePath p => exact hd.ensurePath p
  | delete p n => exact hd.delete p n

theorem containsPath_apply :
    (c.apply h).containsPath q = true ↔ (∃ p ∈ c.path?, SameName p q) ∨ h.containsPath q = true := by
  cases c with
  | set p n v => exact containsPath_put.trans (by simp [Change.path?])
  | ensurePath p => exact containsPath_put.trans (by simp [Change.path?])
  | delete p n => simp [Change.apply, Change.path?, containsPath_delete]

theorem folded_update {β : Type} {f : String × String → β} {x : β} :
    Function.update f (foldCase p, foldCase n) x (foldCase q, foldCase k) =
      if SameName p q ∧ SameName n k then x else f (foldCase q, foldCase k) := by
  rw [Function.update_apply]
  exact if_congr (by simp [SameName, eq_comm]) rfl rfl

theorem StandsFor.apply (hs : h.StandsFor m) (hd : h.Distinct) (c : Change) : (c.apply h).StandsFor (c.record m) := by
  constructor
  · intro q
    rw [containsPath_apply, hs.paths]
    cases c with
    | set p n v => simp [Change.record, Change.path?, SameName, eq_comm]
    | ensurePath p => simp [Change.record, Change.path?, SameName, eq_comm]
    | delete p n => simp [Change.record, Change.path?]
  · intro q k
    cases c with
    | set p n v =>
      rw [Change.apply, get?_set, hs.values]
      exact folded_update.symm
    | ensurePath p =>
      rw [Change.apply, get?_ensurePath, hs.values]
      rfl
    | delete p n =>
      rw [Change.apply, hd.get?_delete, hs.values]
      exact folded_update.symm

theorem made_distinct (cs : List Change) : (made cs).Distinct := by
  induction cs using List.reverseRecOn with
  | nil => exact distinct_empty
  | append_singleton cs c ih =>
    rw [made_concat]
    exact ih.apply c

theorem made_standsFor (cs : List Change) : (made cs).StandsFor (recorded cs) := by
  induction cs using List.reverseRecOn with
  | nil => exact ⟨fun p => by simp [made, recorded, containsPath_iff, SortedMap.names, SortedMap.empty], fun p n => rfl⟩
  | append_singleton cs c ih =>
    rw [made_concat, recorded, List.foldl_append]
    exact ih.apply (made_distinct cs) c

theorem containsPath_made : (made cs).containsPath q = true ↔ ∃ c ∈ cs, ∃ p ∈ c.path?, SameName p q := by
  induction cs using List.reverseRecOn with
  | nil => simp [made, containsPath_iff, SortedMap.names, SortedMap.empty]
  | append_singleton cs c ih =>
    rw [made_concat, containsPath_apply, ih]
    simp [or_and_right, exists_or, or_comm]

/-- A change that found no path of that name has made it, in this spelling. -/
def PathMade (cs : List Change) (p : String) : Prop :=
  ∃ before c after, cs = before ++ c :: after ∧ c.path? = some p ∧ (made before).containsPath p = false

/-- A change that found no entry of that name has made it, in this spelling, and there was one ever since. -/
def EntryMade (cs : List Change) (p n : String) : Prop :=
  ∃ before q v after, cs = before ++ .set q n v :: after ∧ SameName q p ∧ (made before).get? p n = none ∧
    ∀ mid, mid <+: after → ((made (before ++ .set q n v :: mid)).get? p n).isSome

theorem PathMade.concat (hp : PathMade cs p) (c : Change) : PathMade (cs ++ [c]) p := by
  obtain ⟨before, d, after, rfl, hd, hnew⟩ := hp
  exact ⟨before, d, after ++ [c], by simp, hd, hnew⟩

theorem EntryMade.concat (hp : EntryMade cs p n) (hc : ((made (cs ++ [c])).get? p n).isSome) :
    EntryMade (cs ++ [c]) p n := by
  obtain ⟨before, q, v, after, rfl, hq, hnew, hsince⟩ := hp
  refine ⟨before, q, v, after ++ [c], by simp, hq, hnew, fun mid hmid => ?_⟩
  rcases List.prefix_concat_iff.1 hmid with rfl | hmid
  · simpa using hc
  · exact hsince mid hmid

theorem mem_names_apply (hp : p ∈ SortedMap.names (c.apply h)) :
    p ∈ SortedMap.names h ∨ ∃ q, c.path? = some q ∧ p = SortedMap.spelling h q := by
  cases c with
  | set q n v => exact (mem_names_put.1 hp).symm.imp_right fun hq => ⟨q, rfl, hq⟩
  | ensurePath q => exact (mem_names_put.1 hp).symm.imp_right fun hq => ⟨q, rfl, hq⟩
  | delete q n => exact .inl (mem_names_delete.1 hp)

theorem pathMade (hp : p ∈ SortedMap.names (made cs)) : PathMade cs p := by
  induction cs using List.reverseRecOn with
  | nil => cases hp
  | append_singleton cs c ih =>
    by_cases hold : p ∈ SortedMap.names (made cs)
    · exact (ih hold).concat c
    · rw [made_concat] at hp
      obtain ⟨q, hq, rfl⟩ := (mem_names_apply hp).resolve_left hold
      have hnone := SortedMap.spelled?_of_not_mem hold
      rw [SortedMap.spelling_of_spelled? hnone]
      refine ⟨cs, c, [], rfl, hq, ?_⟩
      rw [containsPath, SortedMap.look_isSome, hnone]
      rfl

theorem set_of_at?_apply (hv : (c.apply h).at? p n = some v) (hold : h.at? p n = none) :
    ∃ q k w, c = .set q k w ∧ SortedMap.spelling h q = p ∧ (h.valuesAt q).spelling k = n := by
  cases c with
  | ensurePath q =>
    rw [Change.apply, at?_ensurePath, hold] at hv
    cases hv
  | delete q k =>
    rw [Change.apply, at?_delete, hold] at hv
    split at hv <;> cases hv
  | set q k w =>
    rw [Change.apply, at?_set] at hv
    split at hv
    case isTrue hpn => exact ⟨q, k, w, rfl, hpn⟩
    case isFalse =>
      rw [hold] at hv
      cases hv

theorem entryMade (hv : (made cs).at? p n = some v) : EntryMade cs p n := by
  induction cs using List.reverseRecOn generalizing v with
  | nil => cases hv
  | append_singleton cs c ih =>
    have hread : ((made (cs ++ [c])).get? p n).isSome := by
      rw [(made_distinct _).get?_of_at? hv]
      rfl
    cases hold : (made cs).at? p n with
    | some w => exact (ih hold).concat hread
    | none =>
      rw [made_concat] at hv
      obtain ⟨q, k, w, rfl, rfl, rfl⟩ := set_of_at?_apply hv hold
      have hq := SortedMap.sameName_spelling (made cs) q
      have hk := SortedMap.sameName_spelling ((made cs).valuesAt q) k
      have hnone : (made cs).get? q k = none := by rw [get?_eq, hold]
      have hspelled : ((made cs).valuesAt q).spelled? k = none := by
        rw [← Option.not_isSome_iff_eq_none, ← SortedMap.look_isSome]
        exact Option.not_isSome_iff_eq_none.2 hnone
      -- no name stood in the way, so the new one is spelled as it was given
      rw [SortedMap.spelling_of_spelled? hspelled] at hk hread ⊢
      refine ⟨cs, q, w, [], rfl, hq.symm, ?_, fun mid hmid => ?_⟩
      · rw [get?_congr hq hk, hnone]
      · rw [List.prefix_nil.1 hmid]
        exact hread

theorem entries_ordered (h : Hive) :
    h.entries.Pairwise fun a b => bytes a.1 < bytes b.1 ∨ a.1 = b.1 ∧ bytes a.2.1 < bytes b.2.1 := by
  refine List.pairwise_flatMap.2 ⟨fun e _ => ?_, h.ordered.imp fun {d e} hlt => ?_⟩
  · exact List.pairwise_map.2 (e.2.ordered.imp fun hlt => .inr ⟨rfl, bytes_lt hlt⟩)
  · intro x hx y hy
    obtain ⟨_, _, rfl⟩ := List.mem_map.1 hx
    obtain ⟨_, _, rfl⟩ := List.mem_map.1 hy
    exact .inl (bytes_lt hlt)

/-- Whatever changes have made a hive, it has no two paths and no two names under one path that are the same up
to case, and it stands for the map of the same changes over folded paths and names. Its entries are listed once
each, in the order of their bytes, in the spelling in which path and entry came. -/
theorem hive_is_case_insensitive_map (cs : List Change) :
    let h := made cs
    let m := recorded cs
    h.Distinct ∧ h.StandsFor m ∧
    (∀ p n v q k, (h.set p n v).get? q k = if SameName p q ∧ SameName n k then some v else h.get? q k) ∧
    (∀ p n q k, (h.delete p n).get? q k = if SameName p q ∧ SameName n k then none else h.get? q k) ∧
    (∀ p n, (h.edit? (.deleteValue p n)).isSome ↔ m.values (foldCase p, foldCase n) ≠ none) ∧
    (∀ p n q, (h.delete p n).containsPath q = h.containsPath q) ∧
    (∀ p q k, (h.ensurePath p).get? q k = h.get? q k) ∧
    (∀ p q, (h.ensurePath p).containsPath q = true ↔ SameName p q ∨ h.containsPath q = true) ∧
    (∀ q, h.containsPath q = true ↔ ∃ c ∈ cs, ∃ p ∈ c.path?, SameName p q) ∧
    (∀ p n, h.getDword p n = match m.values (foldCase p, foldCase n) with
      | none => .ok none
      | some (.dword i) => .ok (some i)
      | some (.string _) => .error (.typeMismatch n .dword)) ∧
    (∀ p n, h.getString p n = match m.values (foldCase p, foldCase n) with
      | none => .ok none
      | some (.string s) => .ok (some s)
      | some (.dword _) => .error (.typeMismatch n .string)) ∧
    (∀ q k v, h.get? q k = some v ↔ ∃ p n, SameName p q ∧ SameName n k ∧ (p, n, v) ∈ h.entries) ∧
    (h.entries.Pairwise fun a b => bytes a.1 < bytes b.1 ∨ a.1 = b.1 ∧ bytes a.2.1 < bytes b.2.1) ∧
    ∀ e ∈ h.entries, PathMade cs e.1 ∧ EntryMade cs e.1 e.2.1 := by
  intro h m
  have hd : h.Distinct := made_distinct cs
  have hs : h.StandsFor m := made_standsFor cs
  refine ⟨hd, hs, get?_set h, hd.get?_delete, fun p n => ?_, fun p n q => containsPath_delete, get?_ensurePath h,
    fun p q => containsPath_put, fun q => containsPath_made, fun p n => ?_, fun p n => ?_, fun q k v => ?_,
    entries_ordered h, ?_⟩
  · rw [← hs.values, edit?]
    cases h.get? p n <;> simp
  · rw [← hs.values]
    rfl
  · rw [← hs.values]
    rfl
  · simp only [mem_entries]
    exact hd.get?_eq_some
  · rintro ⟨p, n, v⟩ he
    have hv := mem_entries.1 he
    exact ⟨pathMade (mem_names_of_at? hv), entryMade hv⟩

end Hive

end XrPanel
