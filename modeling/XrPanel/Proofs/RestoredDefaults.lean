import XrPanel.Proofs.ExclusiveMembers
import XrPanel.Proofs.HiveDeletions
import XrPanel.Proofs.HiveHistory
import XrPanel.Proofs.ReadOnlyForms

namespace XrPanel

open Script Text

variable {σ : Type} {t : FormTable} {f : Form} {b : Binding} {v : Int32} {vs : Values} {s : Snapshot}

namespace FormTable

/-- Where nothing is stored nothing is checked but by default: what has no entry of its own is off, and no member of
an exclusive group has the code that is taken for an absent one. -/
structure Neutral (t : FormTable) : Prop where
  boxes : ∀ b ∈ t.bindings, b.key = none → b.control = .checkbox false
  codes : ∀ e ∈ t.exclusives, ∀ m ∈ e.members, m.2 ≠ e.none

theorem Neutral.default_eq_zero (hn : t.Neutral) (hb : b ∈ t.bindings) (hk : b.key = none) : b.default = 0 := by
  rw [Binding.default, hn.boxes b hb hk]
  rfl

end FormTable

namespace Snapshot

theorem raw?_ofList_absent {es : List (String × Option Int32)} (h : ∀ e ∈ es, e.2 = none) (k : String) :
    raw? (SortedMap.ofList es) k = none := by
  refine List.foldlRecOn (motive := fun m : Snapshot => m.raw? k = none) es _ rfl fun m hm e he => ?_
  rw [raw?, SortedMap.find?_insert, h e he]
  split
  · rfl
  · exact hm

end Snapshot

namespace Values

def AtDefaults (t : FormTable) (vs : Values) : Prop := ∀ b ∈ t.bindings, vs.value b.id = b.default

section

variable (hids : t.bindings.Pairwise fun b c => b.id ≠ c.id)

include hids

theorem atDefaults_defaults : (defaults t).AtDefaults t := fun _ hb => value_defaults hids hb

theorem AtDefaults.reset {bs : List Binding} (h : vs.AtDefaults t) (hbs : ∀ c ∈ bs, c ∈ t.bindings) :
    (vs.reset bs).AtDefaults t := by
  intro b hb
  rw [value_reset hids hbs hb, h b hb, ite_self]

end

theorem AtDefaults.set {id : String} (h : vs.AtDefaults t) (hv : ∀ b ∈ t.bindings, b.id = id → b.default = v) :
    (vs.set id v).AtDefaults t := by
  intro b hb
  rw [value_set]
  split
  case isTrue hid => exact (hv b hb hid.symm).symm
  case isFalse => exact h b hb

section

variable (hs : ∀ k, s.raw? k = none)

include hs

theorem bind_raw?_absent (key : Option String) : key.bind s.raw? = none := by
  cases key with
  | none => rfl
  | some k => exact hs k

theorem engaged_absent (g : Gate) : engaged t s g = false := by
  simp [engaged, bind_raw?_absent hs]

theorem loadBinding?_absent (vs : Values) (b : Binding) : loadBinding? s vs b = some vs := by
  rw [loadBinding?, bind_raw?_absent hs]

section

variable (hv : t.validate? = some none) (hn : t.Neutral)

include hv hn

theorem AtDefaults.loadGate {g : Gate} (h : vs.AtDefaults t) (hg : g ∈ t.gates) : (loadGate t s vs g).AtDefaults t := by
  by_cases hsome : g.sentinel.isSome
  · rw [loadGate_of_isSome hsome, engaged_absent hs]
    refine AtDefaults.reset (FormTable.ids_of_validate? hv) (h.set fun b hb hid => ?_)
      fun _ hc => FormTable.mem_of_known hc
    exact hn.default_eq_zero hb (FormTable.keyless_toggle hv hg hsome hb hid)
  · rw [loadGate_of_none (by simpa using hsome)]
    exact h

theorem AtDefaults.loadExclusive {e : Exclusive} (h : vs.AtDefaults t) (he : e ∈ t.exclusives) :
    (loadExclusive t s vs e).AtDefaults t := by
  have hcode : e.code s = e.none := by rw [Exclusive.code, hs, Option.getD_none]
  have hselects : ¬ e.Selects s := by
    rintro ⟨m, hm, hm'⟩
    exact hn.codes e he m hm (hm'.symm.trans hcode)
  rw [loadExclusive_eq, if_neg hselects]
  refine List.foldlRecOn e.members _ h fun vs hvs m hm => hvs.set fun b hb hid => ?_
  rw [if_neg fun hm' => hselects ⟨m, hm, hm'⟩]
  exact hn.default_eq_zero hb (FormTable.keyless_member hv hb ⟨e, he, m, hm, hid.symm⟩)

theorem ofSnapshot?_absent : ∃ vs, ofSnapshot? t s = some vs ∧ vs.AtDefaults t :=
  ofSnapshot?_keeps (atDefaults_defaults (FormTable.ids_of_validate? hv))
    (fun b _ vs h => ⟨vs, loadBinding?_absent hs vs b, h⟩) (fun _ hg _ h => h.loadGate hs hv hn hg)
    fun _ he _ h => h.loadExclusive hs hv hn he

end

end

end Values

namespace Form

theorem Loads.atDefaults {answers : List (Except StoreError (Option Int32))} {r : Reply Unit} {ns : List Notice}
    (hv : f.table.validate? = some none) (hn : f.table.Neutral) (hr : Loads f answers r ns)
    (habsent : ∀ a ∈ answers, a = .ok none) : r.result = some (.ok ()) ∧ r.form.values.AtDefaults f.table := by
  cases hr with
  | shown raws vs h hvs =>
    have hraws : ∀ raw ∈ raws, raw = none := fun raw hraw =>
      Except.ok.inj (habsent _ (h ▸ List.mem_map_of_mem hraw))
    have hentries : ∀ e ∈ f.table.ownedKeys.zip raws, e.2 = none := fun e he => hraws _ (List.of_mem_zip he).2
    obtain ⟨vs', hvs', hdefaults⟩ := Values.ofSnapshot?_absent (Snapshot.raw?_ofList_absent hentries) hv hn
    obtain rfl := Option.some.inj (hvs.symm.trans hvs')
    exact ⟨rfl, hdefaults⟩
  | failed raws e rest h => cases habsent (.error e) (by simp [h])

section

variable {st : Store (StateM σ)} {hive : σ → Hive} {fit : σ → Prop} {x : σ}

/-- A form is restored to what the store then holds, and the store has lost the entries that could be deleted and no
other one. If none was kept, that is to the defaults. -/
theorem defaults_are_restored (hv : f.table.validate? = some none) (hn : f.table.Neutral) (hst : st.Backed hive)
    (hintact : st.Intact hive) (hlegible : st.Legible hive fit) (hx : fit x) {cs : List Hive.Change}
    (hmade : hive x = .made cs) :
    let run := f.restoreDefaults.runOn st x
    ∃ r fresh, run.1.result = some r ∧ ((loaded f.table f.path).runOn st run.2).1.result = some fresh ∧
      r.form = { f with values := fresh.values } ∧
      changeRequests run.1.steps = f.table.ownedKeys.map (.deleteValue f.path) ∧
      (∀ p n v, (p, n, v) ∈ (hive run.2).entries ↔ (p, n, v) ∈ (hive x).entries ∧
        ¬ (SameName p f.path ∧ ∃ k, (.deleteValue f.path k, none) ∈ attempts run.1.steps ∧ SameName n k)) ∧
      (∀ p, p ∈ SortedMap.names (hive run.2) ↔ p ∈ SortedMap.names (hive x)) ∧
      ((∀ c ∈ attempts run.1.steps, c.1.writes = true → c.2 = none) →
        r.result = some (.ok ()) ∧ (∀ k ∈ f.table.ownedKeys, (hive run.2).get? f.path k = none) ∧
        ∀ b ∈ f.table.bindings, r.form.value b.id = b.default) := by
  intro run
  have ht := FormTable.ordered_of_validate? hv
  have hfol := hst.follows hintact
  have hd : (hive x).Distinct := hmade ▸ Hive.made_distinct cs
  obtain ⟨r, hr, hloads⟩ := restoreDefaults_answered ht hlegible hfol hx
  obtain ⟨_, -, hrestores, -⟩ := (restoreDefaults_restores ht).runOn st x
  -- A deletion that fails changes nothing, so the run ends as if only the keys `ks` had been deleted.
  obtain ⟨ks, hks, hend⟩ := hst.deleteEach hintact hrestores.changes
  have hfit : fit run.2 := runOn_keeps fit (fun _ r hx => hlegible.stays hx r) f.restoreDefaults hx
  obtain ⟨r', ns, hfresh, hloads'⟩ := loaded_answered ht f.path st run.2
  rw [Store.readings_eq hlegible hfol _ _ hfit] at hloads'
  have hvalues : r'.form.values = r.form.values := (hloads.alike hloads' rfl).1
  refine ⟨r, r'.form, hr, hfresh, hvalues ▸ hloads.form_eq, hrestores.changes, fun p n v => ?_, fun p => ?_,
    fun hall => ?_⟩
  · rw [hend, hd.mem_entries_deleteEach, Reaches]
    simp only [hks]
    rfl
  · rw [hend, Hive.mem_names_deleteEach]
  · have hgone : ∀ k ∈ f.table.ownedKeys, (hive run.2).get? f.path k = none := by
      intro k hk
      obtain ⟨e, he, hw⟩ := attempt_of_changeRequests (hrestores.changes ▸ List.mem_map_of_mem hk)
      obtain rfl : e = none := hall _ he hw
      rw [hend]
      exact hd.get?_deleteEach ((hks k).2 he)
    obtain ⟨hok, hdefaults⟩ := hloads.atDefaults hv hn <| by
      intro a ha
      obtain ⟨k, hk, rfl⟩ := List.mem_map.1 ha
      rw [Hive.getDword, hgone k hk]
    exact ⟨hok, hgone, hdefaults⟩

end

end Form

structure LockedHive where
  hive : Hive
  locked : List String

def lockedStore : Store (StateM LockedHive) := fun r s =>
  if ∃ name ∈ s.locked, r = .deleteValue r.path name then (.error (.accessDenied r.path), s)
  else (s.hive.answer r, { s with hive := s.hive.after r })

theorem lockedStore_backed : lockedStore.Backed LockedHive.hive where
  answer {r s a} ha := by
    unfold lockedStore at ha
    split at ha
    · cases ha
    · exact ha
  after {r s a} ha := by
    unfold lockedStore at ha ⊢
    split at ha
    · cases ha
    case isFalse hfree => rw [if_neg hfree]

theorem lockedStore_intact : lockedStore.Intact LockedHive.hive := by
  intro r s e ha
  unfold lockedStore at ha ⊢
  split at ha
  case isTrue hlocked => rw [if_pos hlocked]
  case isFalse hfree =>
    rw [if_neg hfree]
    exact Hive.after_of_quiet s.hive (Hive.quiet_of_error ha)

theorem lockedStore_legible : lockedStore.Legible LockedHive.hive fun _ => True where
  answers {s} _ r hr := by
    rw [lockedStore, if_neg]
    rintro ⟨name, -, hdelete⟩
    rw [hdelete] at hr
    cases hr
  stays _ _ := trivial

namespace Form

theorem defaults_are_restored_locked :
    let start : LockedHive := ⟨.made [.set "P" "a" (.dword 7), .set "P" "B" (.dword 1)], ["A"]⟩
    let run := (new pinned "P").restoreDefaults.runOn lockedStore start
    pinned.validate? = some none ∧ pinned.Neutral ∧ ("P", "a", .dword 7) ∈ run.2.hive.entries ∧
    ∀ v, ("P", "B", v) ∉ run.2.hive.entries := by
  intro start
  have hv : pinned.validate? = some none := by decide +kernel
  have hn : pinned.Neutral := ⟨by decide, by decide⟩
  obtain ⟨r, fresh, -, -, -, -, hentries, -, -⟩ := defaults_are_restored (f := new pinned "P") hv hn
    lockedStore_backed lockedStore_intact lockedStore_legible trivial (show start.hive = .made _ from rfl)
  have hchanges : (attempts ((new pinned "P").restoreDefaults.runOn lockedStore start).1.steps).filter (·.1.writes) =
      [(.deleteValue "P" "A", some (.accessDenied "P")), (.deleteValue "P" "B", none)] := by decide +kernel
  have hdeleted : ∀ k, (.deleteValue "P" k, none) ∈
      attempts ((new pinned "P").restoreDefaults.runOn lockedStore start).1.steps ↔ k = "B" := by
    intro k
    have hmem : (.deleteValue "P" k, none) ∈ (attempts
        ((new pinned "P").restoreDefaults.runOn lockedStore start).1.steps).filter (·.1.writes) ↔ k = "B" := by
      rw [hchanges]
      simp
    rw [← hmem, List.mem_filter]
    exact (and_iff_left rfl).symm
  refine ⟨hv, hn, (hentries _ _ _).2 ⟨by decide +kernel, ?_⟩, fun v hmem => ((hentries _ _ _).1 hmem).2 ?_⟩
  · rintro ⟨-, k, hk, hsame⟩
    obtain rfl := (hdeleted k).1 hk
    exact absurd hsame (by decide +kernel)
  · exact ⟨.refl _, "B", (hdeleted _).2 rfl, .refl _⟩

end Form

end XrPanel
