import Mathlib.Data.List.Sort
import XrPanel.Proofs.HiveFrame

namespace XrPanel

open Text

namespace SortedMap

variable {β : Type} {a b : SortedMap β} {name : String}

theorem pairwise_names (m : SortedMap β) : m.names.Pairwise (· < ·) := List.pairwise_map.2 m.ordered

theorem spelled?_of_alike (h : ∀ n, SameName n name → a.find? n = b.find? n) : a.spelled? name = b.spelled? name := by
  have hmem : ∀ n, n ∈ a.names.filter (fun k => decide (SameName k name)) ↔
      n ∈ b.names.filter fun k => decide (SameName k name) := by
    intro n
    simp only [List.mem_filter, decide_eq_true_eq, mem_names]
    exact and_congr_left fun hn => by rw [h n hn]
  have hfilter : a.names.filter (fun k => decide (SameName k name)) =
      b.names.filter fun k => decide (SameName k name) :=
    (a.pairwise_names.filter _).eq_of_mem_iff (b.pairwise_names.filter _) hmem
  rw [spelled?, spelled?, ← List.head?_filter, hfilter, List.head?_filter]

theorem spelling_of_alike (h : ∀ n, SameName n name → a.find? n = b.find? n) : a.spelling name = b.spelling name := by
  rw [spelling, spelling, spelled?_of_alike h]

theorem look_of_alike (h : ∀ n, SameName n name → a.find? n = b.find? n) : a.look name = b.look name := by
  rw [look_eq, look_eq, spelling_of_alike h]
  exact h _ (spelling_of_alike h ▸ a.sameName_spelling name)

end SortedMap

variable {path path' p q n : String} {keys keys' : List String} {r : Request}

def Apart (path : String) (keys : List String) (path' : String) (keys' : List String) : Prop :=
  ∀ k ∈ keys, ∀ l ∈ keys', ¬ (SameName path path' ∧ SameName k l)

instance (path : String) (keys : List String) (path' : String) (keys' : List String) :
    Decidable (Apart path keys path' keys') := inferInstanceAs (Decidable (∀ k ∈ keys, _))

theorem Apart.symm (h : Apart path keys path' keys') : Apart path' keys' path keys :=
  fun k hk l hl hkl => h l hl k hk ⟨hkl.1.symm, hkl.2.symm⟩

theorem Apart.of_path (h : ¬ SameName path path') : Apart path keys path' keys' := fun _ _ _ _ hkl => h hkl.1

theorem Apart.of_keys (h : ∀ k ∈ keys, ∀ l ∈ keys', ¬ SameName k l) : Apart path keys path' keys' :=
  fun k hk l hl hkl => h k hk l hl hkl.2

def Request.change? : Request → Option (String × String × Option Value)
  | setDword p k i => some (p, k, some (.dword i))
  | setString p k s => some (p, k, some (.string s))
  | deleteValue p k => some (p, k, none)
  | ensurePath _ | getDword .. | getString .. => none

theorem Request.Within.of_change? {k : String} {v : Option Value} (hr : r.Within path keys)
    (hc : r.change? = some (p, k, v)) : p = path ∧ k ∈ keys := by
  cases r <;> cases hc <;> exact hr

namespace Hive

variable {h h' h'' : Hive} {v : Value}

def Alike (path : String) (keys : List String) (h h' : Hive) : Prop :=
  ∀ k ∈ keys, ∀ n, SameName n k → (h.valuesAt path).find? n = (h'.valuesAt path).find? n

theorem Alike.refl (path : String) (keys : List String) (h : Hive) : Alike path keys h h := fun _ _ _ _ => rfl

theorem Alike.symm (hh : Alike path keys h h') : Alike path keys h' h := fun k hk n hn => (hh k hk n hn).symm

theorem Alike.trans (h₁ : Alike path keys h h') (h₂ : Alike path keys h' h'') : Alike path keys h h'' :=
  fun k hk n hn => (h₁ k hk n hn).trans (h₂ k hk n hn)

theorem Alike.spelling_eq (hh : Alike path keys h h') (hn : n ∈ keys) :
    (h.valuesAt path).spelling n = (h'.valuesAt path).spelling n := SortedMap.spelling_of_alike (hh n hn)

theorem Alike.get?_eq (hh : Alike path keys h h') (hr : Reaches path keys p n) : h.get? p n = h'.get? p n := by
  obtain ⟨hp, k, hk, hn⟩ := hr
  rw [get?, get?, valuesAt_congr hp, valuesAt_congr hp]
  exact SortedMap.look_of_alike fun x hx => hh k hk x (hx.trans hn)

theorem Alike.get?_own (hh : Alike path keys h h') (hn : n ∈ keys) : h.get? path n = h'.get? path n :=
  hh.get?_eq ⟨SameName.refl path, n, hn, SameName.refl n⟩

theorem valuesAt_ensurePath (h : Hive) (p q : String) : (h.ensurePath p).valuesAt q = h.valuesAt q := by
  rw [ensurePath, valuesAt_put]
  split
  case isTrue hp => exact valuesAt_congr hp
  case isFalse => rfl

theorem find?_valuesAt_set (h : Hive) (p k : String) (v : Value) (q n : String) :
    ((h.set p k v).valuesAt q).find? n =
      if SameName p q ∧ (h.valuesAt q).spelling k = n then some v else (h.valuesAt q).find? n := by
  rw [set, valuesAt_put]
  by_cases hp : SameName p q
  · rw [if_pos hp, SortedMap.put, SortedMap.find?_insert, valuesAt_congr hp]
    exact if_congr (by simp [hp]) rfl rfl
  · rw [if_neg hp, if_neg fun h => hp h.1]

theorem find?_valuesAt_delete (h : Hive) (p k q n : String) :
    ((h.delete p k).valuesAt q).find? n =
      if SameName p q ∧ (h.valuesAt q).spelling k = n then none else (h.valuesAt q).find? n := by
  unfold delete
  split
  case isTrue =>
    rw [valuesAt_put]
    by_cases hp : SameName p q
    · rw [if_pos hp, SortedMap.drop, SortedMap.find?_erase, valuesAt_congr hp]
      exact if_congr (by simp [hp]) rfl rfl
    · rw [if_neg hp, if_neg fun h => hp h.1]
  case isFalse hnone =>
    split
    case isTrue hx =>
      obtain ⟨hp, rfl⟩ := hx
      rw [← SortedMap.look_eq, ← valuesAt_congr hp]
      exact Option.not_isSome_iff_eq_none.1 hnone
    case isFalse => rfl

theorem find?_valuesAt_after (h : Hive) (r : Request) (q n : String) :
    ((h.after r).valuesAt q).find? n =
      match r.change? with
      | some (p, k, v) => if SameName p q ∧ (h.valuesAt q).spelling k = n then v else (h.valuesAt q).find? n
      | none => (h.valuesAt q).find? n := by
  cases r with
  | ensurePath p =>
    rcases h.after_cases (.ensurePath p) with ha | ⟨_, hp, ha⟩ | ⟨_, _, _, htarget, -⟩ | ⟨_, _, hd, -⟩
    · rw [ha]
      rfl
    · cases hp
      rw [ha, valuesAt_ensurePath]
      rfl
    · cases htarget
    · cases hd
  | getDword p k => rfl
  | getString p k => rfl
  | setDword p k i => exact find?_valuesAt_set h p k _ q n
  | setString p k s => exact find?_valuesAt_set h p k _ q n
  | deleteValue p k =>
    rw [after_deleteValue]
    exact find?_valuesAt_delete h p k q n

theorem Alike.own (hh : Alike path keys h h') (hr : r.Within path keys) :
    h.answer r = h'.answer r ∧ Alike path keys (h.after r) (h'.after r) := by
  constructor
  · cases r with
    | getDword p n =>
      obtain ⟨rfl, hn⟩ := hr
      rw [answer, answer, getDword, getDword, hh.get?_own hn]
    | getString p n =>
      obtain ⟨rfl, hn⟩ := hr
      rw [answer, answer, getString, getString, hh.get?_own hn]
    | _ => rfl
  · intro k hk n hn
    rw [find?_valuesAt_after, find?_valuesAt_after]
    cases hc : r.change? with
    | none => exact hh k hk n hn
    | some x =>
      obtain ⟨p, l, v⟩ := x
      obtain ⟨rfl, hl⟩ := hr.of_change? hc
      -- an entry is hit through a spelling, which the hives have in common for the names they are alike in
      exact if_congr (by rw [hh.spelling_eq hl]) rfl (hh k hk n hn)

theorem Alike.foreign (h : Hive) (hapart : Apart path keys path' keys') (hr : r.Within path' keys') :
    Alike path keys h (h.after r) := by
  intro k hk n hn
  rw [find?_valuesAt_after]
  cases hc : r.change? with
  | none => rfl
  | some x =>
    obtain ⟨p, l, v⟩ := x
    obtain ⟨rfl, hl⟩ := hr.of_change? hc
    refine (if_neg ?_).symm
    rintro ⟨hp, rfl⟩
    exact hapart k hk l hl ⟨hp.symm, hn.symm.trans ((h.valuesAt path).sameName_spelling l)⟩

end Hive

variable {α σ : Type} {st : Store (StateM σ)} {hive : σ → Hive} {fit : σ → Prop} {s s' : σ}

theorem Store.Follows.foreign (hst : st.Follows hive) (hapart : Apart path keys path' keys') (p : Script α)
    (hp : ∀ x ∈ (p.runOn st s).1.steps, x.Asks (Request.Within path' keys')) :
    Hive.Alike path keys (hive s) (hive (p.runOn st s).2) :=
  hst.runOn (Hive.Alike.refl path keys) Hive.Alike.trans (fun _ _ h hr => Hive.Alike.foreign h hapart hr) p s hp

namespace Store.Faultless

variable (hst : st.Faultless hive fit)

include hst

theorem stays_runOn (p : Script α) (hs : fit s) : fit (p.runOn st s).2 :=
  Script.runOn_keeps fit (fun _ r hs => hst.stays hs r) p hs

theorem runOn_alike (hfol : st.Follows hive) (p : Script α) (hs : fit s) (hs' : fit s')
    (hh : Hive.Alike path keys (hive s) (hive s'))
    (hp : ∀ x ∈ (p.runOn st s).1.steps, x.Asks (Request.Within path keys)) :
    (p.runOn st s).1 = (p.runOn st s').1 ∧ Hive.Alike path keys (hive (p.runOn st s).2) (hive (p.runOn st s').2) := by
  induction p generalizing s s' with
  | done a => exact ⟨rfl, hh⟩
  | abort => exact ⟨rfl, hh⟩
  | tell e next ih =>
    rw [Script.runOn_tell] at hp ⊢
    rw [Script.runOn_tell]
    obtain ⟨hrun, halike⟩ := ih hs hs' hh (List.forall_mem_cons.1 hp).2
    exact ⟨congrArg (·.cons (.told e)) hrun, halike⟩
  | ask r next ih =>
    rw [Script.runOn_ask] at hp ⊢
    rw [Script.runOn_ask]
    obtain ⟨hr, hnext⟩ := List.forall_mem_cons.1 hp
    obtain ⟨hanswer, hafter⟩ := hh.own hr
    have hsame : (st r s).1 = (st r s').1 := by rw [hst.answers hs, hst.answers hs', hanswer]
    rw [← hst.hive_after hfol hs, ← hst.hive_after hfol hs'] at hafter
    -- one answer, so one rest of the script for both hives
    rw [← hsame]
    obtain ⟨hrun, halike⟩ := ih _ (hst.stays hs r) (hst.stays hs' r) hafter hnext
    exact ⟨congrArg (·.cons (.asked r (failure? (st r s).1))) hrun, halike⟩

end Store.Faultless

end XrPanel
