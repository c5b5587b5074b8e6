import XrPanel.Proofs.RestoredDefaults

namespace XrPanel

open Script

variable {σ : Type} {t : FormTable} {f g : Form} {h : Hive} {k : String} {gs : List String}

namespace FormTable

structure Grouped (t : FormTable) : Prop where
  members : ∀ e ∈ t.exclusives, ∃ m ∈ e.members, ∃ b ∈ t.bindings, b.id = m.1
  once : ∀ b ∈ t.bindings, ∀ e ∈ t.exclusives, ∀ e' ∈ t.exclusives,
    (∃ m ∈ e.members, m.1 = b.id) → (∃ m ∈ e'.members, m.1 = b.id) → e = e'

theorem Grouped.bindingKeys (ht : t.Grouped) {e : Exclusive} (he : e ∈ t.exclusives) (hk : k ∈ e.keys) :
    ∃ b ∈ t.bindings, k ∈ t.bindingKeys b := by
  obtain ⟨m, hm, b, hb, hid⟩ := ht.members e he
  refine ⟨b, hb, List.mem_append_right _ ?_⟩
  cases he' : t.exclusiveOf? b.id with
  | none => exact absurd ⟨e, he, m, hm, hid.symm⟩ (exclusiveOf?_eq_none.1 he')
  | some e' =>
    obtain ⟨hmem, hmember⟩ := exclusiveOf?_eq_some he'
    obtain rfl : e = e' := ht.once b hb e he e' hmem ⟨m, hm, hid.symm⟩ hmember
    exact hk

theorem Grouped.mem_ownedKeys (ht : t.Grouped) : k ∈ t.ownedKeys ↔ ∃ group ∈ t.groups, k ∈ t.groupKeys group := by
  constructor
  · intro hk
    obtain ⟨b, hb, hkey⟩ : ∃ b ∈ t.bindings, k ∈ t.bindingKeys b := by
      rcases FormTable.mem_ownedKeys.1 hk with ⟨b, hb, hkey⟩ | ⟨e, he, hkey⟩
      · exact ⟨b, hb, List.mem_append_left _ (Option.mem_toList.2 hkey)⟩
      · exact ht.bindingKeys he hkey
    refine ⟨b.group, mem_groups.2 ⟨b, hb, rfl⟩, ?_⟩
    rw [groupKeys, List.mem_eraseDups, List.mem_flatMap]
    exact ⟨b, by simpa using hb, hkey⟩
  · rintro ⟨group, -, hk⟩
    exact groupKeys_owned hk

end FormTable

namespace Form

def Current (f : Form) (h : Hive) : Prop := ∃ x ns, Loads f (f.table.ownedKeys.map (h.getDword f.path)) ⟨f, x⟩ ns

theorem Loads.current {r : Reply Unit} {ns : List Notice}
    (hr : Loads f (f.table.ownedKeys.map (h.getDword f.path)) r ns) : r.form.Current h := by
  cases hr with
  | shown raws vs h hvs => exact ⟨_, _, .shown raws vs h hvs⟩
  | failed raws e rest h => exact ⟨_, _, .failed raws e rest h⟩

theorem Current.values_eq (hf : f.Current h) (hg : g.Current h) (ht : g.table = f.table) (hp : g.path = f.path) :
    g.values = f.values := by
  obtain ⟨x, ns, hf⟩ := hf
  obtain ⟨y, ms, hg⟩ := hg
  rw [ht, hp] at hg
  exact (hf.alike hg ht).1

theorem performAll_restoreGroups (ht : f.table.Ordered) (hgs : ∀ group ∈ gs, group ∈ f.table.groups) :
    (performAll (gs.map .restoreGroup) f).Ensures (Restores f (gs.flatMap f.table.groupKeys)) := by
  induction gs generalizing f with
  | nil => exact .refl f
  | cons group gs ih =>
    obtain ⟨hgroup, hgs⟩ := List.forall_mem_cons.1 hgs
    rw [List.map_cons, performAll, ensures_bind]
    refine (settled_restores (restoreGroup_restores ht group)).mono fun l f' hf' => ?_
    have hkeys : f.table.restoredBy (.restoreGroup group) = f.table.groupKeys group := if_pos hgroup
    rw [hkeys] at hf'
    refine (ih (hf'.table ▸ ht) (hf'.table ▸ hgs)).mono fun m f'' hf'' => ?_
    rw [List.flatMap_cons]
    exact hf'.trans (hf'.table ▸ hf'')

section

variable {st : Store (StateM σ)} {hive : σ → Hive} {fit : σ → Prop} {s : σ}
variable (hst : st.Faultless hive fit) (hfol : st.Follows hive) (hs : fit s)

include hst hfol

theorem restoreGroup_current (ht : f.table.Ordered) (hs : fit s) {group : String} (hgroup : group ∈ f.table.groups) :
    let run := (f.perform (.restoreGroup group)).runOn st s
    ∃ g, run.1.result = some g ∧ g.table = f.table ∧ g.path = f.path ∧ g.Current (hive run.2) := by
  obtain ⟨r, hr, hloads⟩ := restoreGroup_answered ht hst.legible hfol hs hgroup
  obtain ⟨x, hx⟩ := hloads.settles
  dsimp only
  rw [perform, runOn_bind_some hr, Reply.settled_of_some hx]
  exact ⟨r.form, rfl, by rw [hloads.form_eq], by rw [hloads.form_eq], hloads.current⟩

theorem performAll_current (ht : f.table.Ordered) (hs : fit s) (hgs : ∀ group ∈ gs, group ∈ f.table.groups) :
    let run := (performAll (gs.map .restoreGroup) f).runOn st s
    ∃ g, run.1.result = some g ∧ g.table = f.table ∧ g.path = f.path ∧
      (gs ≠ [] ∨ f.Current (hive s) → g.Current (hive run.2)) := by
  induction gs generalizing f s with
  | nil => exact ⟨f, rfl, rfl, rfl, fun h => h.resolve_left fun h => h rfl⟩
  | cons group gs ih =>
    obtain ⟨hgroup, hgs⟩ := List.forall_mem_cons.1 hgs
    obtain ⟨f', hf', htable, hpath, hcurrent⟩ := restoreGroup_current hst hfol ht hs hgroup
    have hfit := runOn_keeps fit (fun _ r hs => hst.stays hs r) (f.perform (.restoreGroup group)) hs
    obtain ⟨g, hg, htable', hpath', hcurrent'⟩ := ih (htable ▸ ht) hfit (htable ▸ hgs)
    dsimp only
    rw [List.map_cons, performAll, runOn_bind_some hf']
    exact ⟨g, hg, htable'.trans htable, hpath'.trans hpath, fun _ => hcurrent' (.inr hcurrent)⟩

include hs

/-- To restore each group once, in any order, is to restore the form: the groups own what the form owns, and nothing of
it is left. One group by itself leaves all entries but those of its own names. -/
theorem groups_restore_form (ht : f.table.Ordered) (hgroups : f.table.Grouped) {cs : List Hive.Change}
    (hmade : hive s = .made cs) (hgs : gs.Perm f.table.groups) :
    (let each := (performAll (gs.map .restoreGroup) f).runOn st s
     let once := f.restoreDefaults.runOn st s
     ∃ g r, each.1.result = some g ∧ once.1.result = some r ∧ hive each.2 = hive once.2 ∧
       (∀ b ∈ f.table.bindings, g.value b.id = r.form.value b.id) ∧
       ∀ k ∈ f.table.ownedKeys, (hive once.2).get? f.path k = none) ∧
    (∀ k, k ∈ f.table.ownedKeys ↔ ∃ group ∈ f.table.groups, k ∈ f.table.groupKeys group) ∧
    f.table.ownedKeys.Nodup ∧ (∀ group, (f.table.groupKeys group).Nodup) ∧
    ∀ group, Hive.Frame f.path (f.table.groupKeys group) (hive s) (hive ((f.restoreGroup group).runOn st s).2) := by
  refine ⟨?_, fun k => hgroups.mem_ownedKeys, f.table.ownedKeys_nodup, f.table.groupKeys_nodup, fun group => ?_⟩
  · intro each once
    have hknown : ∀ group ∈ gs, group ∈ f.table.groups := fun _ => hgs.mem_iff.1
    obtain ⟨_, -, heach⟩ := (performAll_restoreGroups ht hknown).runOn st s
    obtain ⟨_, -, honce, -⟩ := (restoreDefaults_restores ht).runOn st s
    have hd : (hive s).Distinct := hmade ▸ Hive.made_distinct cs
    have hkeys : ∀ k, k ∈ gs.flatMap f.table.groupKeys ↔ k ∈ f.table.ownedKeys := by
      intro k
      rw [hgroups.mem_ownedKeys, List.mem_flatMap]
      simp only [hgs.mem_iff]
    have hdeleted : hive once.2 = (hive s).deleteEach f.path f.table.ownedKeys := hst.deleteEach hfol hs honce.changes
    have hsame : hive each.2 = hive once.2 := calc
      hive each.2 = (hive s).deleteEach f.path (gs.flatMap f.table.groupKeys) := hst.deleteEach hfol hs heach.changes
      _ = (hive s).deleteEach f.path f.table.ownedKeys := hd.deleteEach_congr hkeys
      _ = hive once.2 := hdeleted.symm
    obtain ⟨g, hg, htable, hpath, hcurrent⟩ := performAll_current hst hfol ht hs hknown
    obtain ⟨r, hr, hloads⟩ := restoreDefaults_answered ht hst.legible hfol hs
    have hgone : ∀ k ∈ f.table.ownedKeys, (hive once.2).get? f.path k = none := by
      intro k hk
      rw [hdeleted]
      exact hd.get?_deleteEach hk
    refine ⟨g, r, hg, hr, hsame, fun b hb => ?_, hgone⟩
    -- Of the values at the start nothing is left once one group is restored, and a binding has a group.
    have hsome : gs ≠ [] := by
      have hmem : b.group ∈ gs := hgs.mem_iff.2 (FormTable.mem_groups.2 ⟨b, hb, rfl⟩)
      exact List.ne_nil_of_mem hmem
    have hshown : g.Current (hive once.2) := hsame ▸ hcurrent (.inl hsome)
    have hvalues : g.values = r.form.values := hloads.current.values_eq hshown ?_ ?_
    rw [value, hvalues, value]
    · rw [htable, hloads.form_eq]
    · rw [hpath, hloads.form_eq]
  · by_cases hgroup : group ∈ f.table.groups
    · rw [restoreGroup_of_known hgroup]
      exact (reset_frame hfol ht (f.table.groupKeys group) _ s).1
    · rw [restoreGroup, if_neg hgroup]
      exact .refl _ _ _

end

/-- The entry of the slider is also the companion of the box, which is in the other group. -/
theorem groups_restore_form_pinned :
    let start : Memory := { hive := .made [.set "P" "a" (.dword 7), .set "P" "B" (.dword 1), .set "P" "C" (.dword 2)] }
    let each := (performAll (["h", "g"].map .restoreGroup) (new pinned "P")).runOn memoryStore start
    let once := (new pinned "P").restoreDefaults.runOn memoryStore start
    pinned.Ordered ∧ pinned.Grouped ∧ ["h", "g"].Perm pinned.groups ∧
    ∃ g r, each.1.result = some g ∧ once.1.result = some r ∧ each.2.hive = once.2.hive ∧
      (∀ b ∈ pinned.bindings, g.value b.id = r.form.value b.id) ∧
      ∀ k ∈ pinned.ownedKeys, once.2.hive.get? "P" k = none := by
  intro start
  have ht : pinned.Ordered := by decide
  have hgroups : pinned.Grouped := ⟨by decide, by decide⟩
  have hgs : ["h", "g"].Perm pinned.groups := by decide
  exact ⟨ht, hgroups, hgs, (groups_restore_form memoryStore_faultless memoryStore_follows ⟨rfl, rfl⟩ ht hgroups
    (show start.hive = .made _ from rfl) hgs).1⟩

end Form

end XrPanel
