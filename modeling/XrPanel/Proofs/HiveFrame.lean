import XrPanel.Proofs.FileDurability
import XrPanel.Proofs.HiveDistinct

namespace XrPanel

open Text

theorem SortedMap.spelling_mem_or_eq {β : Type} (m : SortedMap β) (name : String) :
    m.spelling name ∈ m.names ∨ m.spelling name = name := by
  cases h : m.spelled? name with
  | none => exact .inr (spelling_of_spelled? h)
  | some k =>
    left
    rw [spelling, h]
    exact mem_names_of_spelled? h

def Reaches (path : String) (keys : List String) (p n : String) : Prop :=
  SameName p path ∧ ∃ k ∈ keys, SameName n k

/-- Reads and changes only entries of one path with certain names, and makes at most that path. -/
def Request.Within (path : String) (keys : List String) : Request → Prop
  | ensurePath p => p = path
  | getDword p n | getString p n | setDword p n _ | setString p n _ | deleteValue p n => p = path ∧ n ∈ keys

def Request.Removes (path : String) (keys : List String) : Request → Prop
  | deleteValue p n => p = path ∧ n ∈ keys
  | getDword .. | getString .. => True
  | ensurePath _ | setDword .. | setString .. => False

variable {path p n : String} {keys keys' : List String} {r : Request}

theorem Request.Reads.within (h : r.Reads path keys) : r.Within path keys := by
  cases r <;> first | exact h | exact h.elim

theorem Request.removes_of_quiet (h : r.writes = false) : r.Removes path keys := by
  cases r <;> trivial

theorem Request.Within.mono (h : r.Within path keys) (hk : ∀ k ∈ keys, k ∈ keys') : r.Within path keys' := by
  cases r with
  | ensurePath p => exact h
  | getDword p n => exact ⟨h.1, hk n h.2⟩
  | getString p n => exact ⟨h.1, hk n h.2⟩
  | setDword p n v => exact ⟨h.1, hk n h.2⟩
  | setString p n s => exact ⟨h.1, hk n h.2⟩
  | deleteValue p n => exact ⟨h.1, hk n h.2⟩

namespace Hive

variable {h h' h'' : Hive} {v : Value}

/-- All is as it was but entries of one path with certain names, and that path, which may have been made. -/
structure Frame (path : String) (keys : List String) (h h' : Hive) : Prop where
  entries {p n : String} (hout : ¬ Reaches path keys p n) (v : Value) : (p, n, v) ∈ h'.entries ↔ (p, n, v) ∈ h.entries
  made {p : String} (hp : p ∈ SortedMap.names h') : p ∈ SortedMap.names h ∨ p = path
  kept {p : String} (hp : p ∈ SortedMap.names h) : p ∈ SortedMap.names h'

structure Pruned (h h' : Hive) : Prop where
  entries {e : String × String × Value} (he : e ∈ h'.entries) : e ∈ h.entries
  paths (p : String) : p ∈ SortedMap.names h' ↔ p ∈ SortedMap.names h

theorem Frame.refl (path : String) (keys : List String) (h : Hive) : Frame path keys h h :=
  ⟨fun _ _ => Iff.rfl, .inl, fun hp => hp⟩

theorem Frame.trans (h₁ : Frame path keys h h') (h₂ : Frame path keys h' h'') : Frame path keys h h'' where
  entries hout v := (h₂.entries hout v).trans (h₁.entries hout v)
  made hp := (h₂.made hp).elim h₁.made .inr
  kept hp := h₂.kept (h₁.kept hp)

theorem Pruned.refl (h : Hive) : Pruned h h := ⟨fun he => he, fun _ => Iff.rfl⟩

theorem Pruned.trans (h₁ : Pruned h h') (h₂ : Pruned h' h'') : Pruned h h'' where
  entries he := h₁.entries (h₂.entries he)
  paths p := (h₂.paths p).trans (h₁.paths p)

theorem made_put {vs : SortedMap Value} (hp : p ∈ SortedMap.names (SortedMap.put h path vs)) :
    p ∈ SortedMap.names h ∨ p = path := by
  rcases mem_names_put.1 hp with rfl | hp
  · exact SortedMap.spelling_mem_or_eq h path
  · exact .inl hp

theorem frame_ensurePath (h : Hive) (path : String) (keys : List String) : Frame path keys h (h.ensurePath path) where
  entries _ v := by rw [mem_entries, mem_entries, at?_ensurePath]
  made := made_put
  kept hp := mem_names_put.2 (.inr hp)

theorem reaches_spelling (h : Hive) (path : String) (hn : n ∈ keys) :
    Reaches path keys (SortedMap.spelling h path) ((h.valuesAt path).spelling n) :=
  ⟨SortedMap.sameName_spelling h path, n, hn, SortedMap.sameName_spelling _ n⟩

theorem frame_set (h : Hive) (path : String) (hn : n ∈ keys) (v : Value) : Frame path keys h (h.set path n v) where
  entries {p k} hout x := by
    rw [mem_entries, mem_entries, at?_set, if_neg]
    rintro ⟨rfl, rfl⟩
    exact hout (reaches_spelling h path hn)
  made := made_put
  kept hp := mem_names_put.2 (.inr hp)

theorem frame_delete (h : Hive) (path : String) (hn : n ∈ keys) : Frame path keys h (h.delete path n) where
  entries {p k} hout x := by
    rw [mem_entries, mem_entries, at?_delete, if_neg]
    rintro ⟨rfl, rfl⟩
    exact hout (reaches_spelling h path hn)
  made hp := .inl (mem_names_delete.1 hp)
  kept hp := mem_names_delete.2 hp

theorem pruned_delete (h : Hive) (path n : String) : Pruned h (h.delete path n) where
  entries {e} he := by
    obtain ⟨p, k, v⟩ := e
    rw [mem_entries, at?_delete] at he
    split at he
    · cases he
    · exact mem_entries.2 he
  paths _ := mem_names_delete

theorem frame_after (h : Hive) (hr : r.Within path keys) : Frame path keys h (h.after r) := by
  rcases h.after_cases r with ha | ⟨p, rfl, ha⟩ | ⟨p, n, v, htarget, ha⟩ | ⟨p, n, rfl, ha⟩ <;> rw [ha]
  · exact .refl path keys h
  · obtain rfl : p = path := hr
    exact frame_ensurePath h p keys
  · cases r <;> cases htarget <;> obtain ⟨rfl, hn⟩ := hr <;> exact frame_set h _ hn v
  · obtain ⟨rfl, hn⟩ := hr
    exact frame_delete h p hn

theorem removed_after (h : Hive) (hr : r.Removes path keys) : Frame path keys h (h.after r) ∧ Pruned h (h.after r) := by
  cases r with
  | deleteValue p n =>
    obtain ⟨rfl, hn⟩ := hr
    rw [after_deleteValue]
    exact ⟨frame_delete h p hn, pruned_delete h p n⟩
  | getDword p n => exact ⟨.refl path keys h, .refl h⟩
  | getString p n => exact ⟨.refl path keys h, .refl h⟩
  | ensurePath p => exact hr.elim
  | setDword p n v => exact hr.elim
  | setString p n s => exact hr.elim

theorem quiet_of_error {e : StoreError} (hr : h.answer r = .error e) : r.writes = false := by
  cases r <;> first | rfl | cases hr

theorem after_of_quiet (h : Hive) (hr : r.writes = false) : h.after r = h := by
  cases r <;> first | rfl | cases hr

theorem foldl_after_quiet {rs : List Request} (hrs : ∀ r ∈ rs, r.writes = false) (h : Hive) : rs.foldl after h = h := by
  induction rs with
  | nil => rfl
  | cons r rs ih =>
    obtain ⟨hr, hrs⟩ := List.forall_mem_cons.1 hrs
    rw [List.foldl_cons, after_of_quiet h hr, ih hrs]

theorem get?_after_elsewhere (h : Hive) (hr : ¬ SameName r.path p) (k : String) :
    (h.after r).get? p k = h.get? p k := by
  rcases h.after_cases r with ha | ⟨q, -, ha⟩ | ⟨q, n, v, htarget, ha⟩ | ⟨q, n, rfl, ha⟩ <;> rw [ha]
  · exact get?_ensurePath h q p k
  · have hpath : r.path = q := by cases r <;> cases htarget <;> rfl
    rw [get?_set, if_neg fun hq => hr (hpath ▸ hq.1)]
  · have hq : ¬ SameName q p := hr
    unfold delete
    split
    · rw [get?, valuesAt_put, if_neg hq, get?]
    · rfl

theorem get?_foldl_elsewhere {rs : List Request} (hrs : ∀ r ∈ rs, ¬ SameName r.path p) (h : Hive) (k : String) :
    (rs.foldl after h).get? p k = h.get? p k := by
  induction rs generalizing h with
  | nil => rfl
  | cons r rs ih =>
    obtain ⟨hr, hrest⟩ := List.forall_mem_cons.1 hrs
    rw [List.foldl_cons, ih hrest, get?_after_elsewhere h hr]

end Hive

variable {α σ : Type}

/-- The hive of the store is changed by what is asked of the store, or not at all; any request may fail, and what
is answered is left open. -/
def Store.Follows (st : Store (StateM σ)) (hive : σ → Hive) : Prop :=
  ∀ r s, hive (st r s).2 = hive s ∨ hive (st r s).2 = (hive s).after r

theorem memoryStore_follows : memoryStore.Follows Memory.hive := by
  intro r s
  unfold memoryStore
  split
  · exact .inl rfl
  · exact .inr rfl

theorem FileStore.ask_follows {δ : Type} (d : Drive (StateM δ)) :
    Store.Follows (fun r w => ask d r w) fun w : FileStore × δ => w.1.hive := ask_hive d

namespace Store.Follows

variable {st : Store (StateM σ)} {hive : σ → Hive} (hst : st.Follows hive)

include hst

theorem runOn {Q : Step → Prop} {R : Hive → Hive → Prop} (refl : ∀ h, R h h)
    (trans : ∀ {a b c}, R a b → R b c → R a c) (step : ∀ r e h, Q (.asked r e) → R h (h.after r)) (p : Script α) (s : σ)
    (hp : ∀ x ∈ (p.runOn st s).1.steps, Q x) : R (hive s) (hive (p.runOn st s).2) := by
  induction p generalizing s with
  | done a => exact refl (hive s)
  | abort => exact refl (hive s)
  | tell e next ih =>
    rw [Script.runOn_tell] at hp ⊢
    exact ih s (List.forall_mem_cons.1 hp).2
  | ask r next ih =>
    rw [Script.runOn_ask] at hp ⊢
    obtain ⟨hr, hnext⟩ := List.forall_mem_cons.1 hp
    have hstep : R (hive s) (hive (st r s).2) := by
      rcases hst r s with hstays | hafter
      · rw [hstays]
        exact refl (hive s)
      · rw [hafter]
        exact step r _ (hive s) hr
    exact trans hstep (ih _ _ hnext)

theorem frame (p : Script α) (s : σ) (hp : ∀ x ∈ (p.runOn st s).1.steps, x.Asks (Request.Within path keys)) :
    Hive.Frame path keys (hive s) (hive (p.runOn st s).2) :=
  hst.runOn (Hive.Frame.refl path keys) (fun h₁ h₂ => h₁.trans h₂) (fun _ _ h hr => Hive.frame_after h hr) p s hp

theorem removed (p : Script α) (s : σ) (hp : ∀ x ∈ (p.runOn st s).1.steps, x.Asks (Request.Removes path keys)) :
    Hive.Frame path keys (hive s) (hive (p.runOn st s).2) ∧ Hive.Pruned (hive s) (hive (p.runOn st s).2) := by
  let R := fun h h' : Hive => Hive.Frame path keys h h' ∧ Hive.Pruned h h'
  have hrefl : ∀ h, R h h := fun h => ⟨.refl path keys h, .refl h⟩
  have htrans : ∀ {a b c}, R a b → R b c → R a c := fun hab hbc => ⟨hab.1.trans hbc.1, hab.2.trans hbc.2⟩
  exact hst.runOn hrefl htrans (fun _ _ h hr => Hive.removed_after h hr) p s hp

theorem unchanged (p : Script α) (s : σ) (hp : ∀ x ∈ (p.runOn st s).1.steps, x.Quiet) :
    hive (p.runOn st s).2 = hive s :=
  (hst.runOn Eq.refl Eq.trans (fun _ _ h hr => (Hive.after_of_quiet h hr).symm) p s hp).symm

end Store.Follows

theorem Store.Faultless.hive_after {st : Store (StateM σ)} {hive : σ → Hive} {fit : σ → Prop} {s : σ}
    (hst : st.Faultless hive fit) (hfol : st.Follows hive) (hs : fit s) (r : Request) :
    hive (st r s).2 = (hive s).after r := by
  cases ha : (st r s).1 with
  | ok a => exact hst.after ha
  | error e =>
    have hquiet : r.writes = false := Hive.quiet_of_error ((hst.answers hs r).symm.trans ha)
    rcases hfol r s with hstays | hafter
    · rw [hstays, Hive.after_of_quiet _ hquiet]
    · exact hafter

end XrPanel
