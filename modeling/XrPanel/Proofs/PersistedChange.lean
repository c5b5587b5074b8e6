import XrPanel.Proofs.FormRanges

namespace XrPanel

open Script

structure FaultyHive where
  hive : Hive
  faults : List (Option StoreError) := []

def faultyStore : Store (StateM FaultyHive) := fun r s =>
  match s.faults with
  | some e :: es => (.error e, { s with faults := es })
  | none :: es => (s.hive.answer r, ⟨s.hive.after r, es⟩)
  | [] => (s.hive.answer r, { s with hive := s.hive.after r })

theorem faultyStore_backed : faultyStore.Backed FaultyHive.hive where
  answer {r s a} h := by
    obtain ⟨hive, _ | ⟨_ | e, es⟩⟩ := s
    · exact h
    · exact h
    · cases h
  after {r s a} h := by
    obtain ⟨hive, _ | ⟨_ | e, es⟩⟩ := s
    · rfl
    · rfl
    · cases h

theorem faultyStore_faultless : faultyStore.Faultless FaultyHive.hive fun s => s.faults = [] where
  toBacked := faultyStore_backed
  answers {s} hs r := by
    obtain ⟨hive, faults⟩ := s
    subst hs
    rfl
  stays {s} hs r := by
    obtain ⟨hive, faults⟩ := s
    subst hs
    rfl

variable {σ : Type} {t : FormTable} {path : String} {f : Form} {h : Hive}

namespace Form

def Selected (f : Form) (h : Hive) (id : String) : Prop :=
  ∃ e ∈ f.table.exclusives, ∃ m ∈ e.members, m.1 = id ∧ e.code (f.stored h) = m.2

def Shadowed (f : Form) (h : Hive) (id : String) : Prop :=
  ∃ e ∈ f.table.exclusives, id ∈ e.shadowed ∧ e.Selects (f.stored h)

theorem Planned.shown_of_not_shadowed (ht : f.table.Coherent) {b : Binding} {v : Int32} {vs : Values} {ws : Writes}
    (hb : b ∈ f.table.bindings) (hv : b.control.Takes v) (hfit : vs.Fit f.table) (hplan : Planned f b v vs ws)
    (hsh : ¬ f.Shadowed (h.write f.path ws) b.id)
    (hsel : ¬ (vs.value b.id = 0 ∧ f.value b.id = 0 ∧ f.Selected h b.id)) :
    f.table.shown (f.stored (h.write f.path ws)) b = vs.value b.id := by
  have hnot : ¬ f.table.Masked (f.stored (h.write f.path ws)) b := by
    rintro (⟨g, hg, hs, hid, heng⟩ | hmask)
    · have hkeyed := ht.key_of_governed hb hg hs hid
      obtain ⟨hgate, hof⟩ := ht.plain_of_keyed hb hkeyed
      obtain ⟨k, hk⟩ := Option.isSome_iff_exists.1 hkeyed
      cases hplan with
      | plain _ _ =>
        -- the form may take the gate for unchecked, but the entry that is written engages it
        rw [plain_writes hk, engaged_by_own ht hg hs hb hid hk hv] at heng
        cases heng
      | check _ he _ => simp [hof] at he
      | uncheck _ he _ _ => simp [hof] at he
      | still _ he _ _ => simp [hof] at he
      | engage hg' _ _ => simp [hgate] at hg'
      | release hg' _ => simp [hgate] at hg'
    · exact hsh hmask
  refine hplan.shown ht hb hv hfit (fun hmember hzero hold => ?_) hnot
  obtain ⟨e, he⟩ := Option.isSome_iff_exists.1 hmember
  rw [FormTable.shown_member (ht.sentinelGate?_member hb he) he, if_neg]
  intro hcode
  exact hsel ⟨hzero, hold, e, (FormTable.exclusiveOf?_eq_some he).1, _, Exclusive.mem_of_codeOf? hcode, rfl, rfl⟩

section

variable {st : Store (StateM σ)} {hive : σ → Hive} {s : σ}

theorem loaded_shown (hst : st.Backed hive) (ht : t.Coherent) (hc : Clean ((loaded t path).runOn st s).1.steps) :
    ∃ f, ((loaded t path).runOn st s).1.result = some f ∧
      ∀ b ∈ t.bindings, f.value b.id = t.shown ((new t path).stored (hive s)) b := by
  obtain ⟨vs, hvs, hresult⟩ := loaded_runOn hst ht hc
  obtain ⟨vs', hvs', hshown⟩ := Values.ofSnapshot?_shown ht ((new t path).stored (hive s))
  obtain rfl : vs = vs' := Option.some.inj (hvs.symm.trans hvs')
  exact ⟨_, hresult, hshown⟩

theorem SetOutcome.shown_after (hst : st.Backed hive) (ht : t.Coherent) (hf : f.IsOf t path)
    {p : Script (Reply Change)} (hp : p.Ensures (SetOutcome f)) {f' : Form} {c : Change}
    (hresult : (p.runOn st s).1.result = some ⟨f', some (.ok c)⟩) (hpersisted : c.persisted = true)
    (hc : Clean ((loaded t path).runOn st (p.runOn st s).2).1.steps) :
    ∃ second b, ((loaded t path).runOn st (p.runOn st s).2).1.result = some second ∧ t.binding? c.id = some b ∧
      (f.Shadowed (hive (p.runOn st s).2) c.id → second.value c.id = b.default) ∧
      (¬ f.Shadowed (hive (p.runOn st s).2) c.id →
        ¬ (c.value = 0 ∧ f.value c.id = 0 ∧ f.Selected (hive s) c.id) → second.value c.id = c.value) := by
  obtain ⟨rfl, rfl, -⟩ := hf
  obtain ⟨r, hr, hout⟩ := hp.runOn st s
  obtain rfl : r = ⟨f', some (.ok c)⟩ := Option.some.inj (hr.symm.trans hresult)
  obtain ⟨second, hsecond, hshown⟩ := loaded_shown hst ht hc
  generalize hl : (p.runOn st s).1.steps = l at hout
  cases hout with
  | @changed b v vs q _ hb hen hv happ =>
    obtain ⟨q', hq, hiff⟩ := happ.persisted
    obtain rfl : q = q' := Option.some.inj hq
    have hclean : Clean l := hiff.1 hpersisted
    obtain ⟨ws, hplan, heff⟩ := happ.planned hclean
    have hhive : hive (p.runOn st s).2 = (hive s).write f.path ws := by
      rw [hst.hive_runOn p (hl ▸ hclean), hl, heff]
    refine ⟨second, b, hsecond, ht.binding?_eq_some.2 ⟨hb, rfl⟩, fun hsh => ?_, fun hsh hsel => ?_⟩
    · obtain ⟨e, he, hid, hselects⟩ := hsh
      obtain ⟨hg, hof⟩ := ht.plain_of_keyed hb (ht.key_of_shadowed hb he hid)
      exact (hshown b hb).trans (FormTable.shown_masked hg hof (.inr ⟨e, he, hid, hselects⟩))
    · refine (hshown b hb).trans ?_
      rw [hhive] at hsh ⊢
      exact hplan.shown_of_not_shadowed ht hb hv happ.fit hsh hsel

/-- However calls fail before or between, a change that is reported as persisted is what a form that is then opened
without an error shows, unless the control is shadowed by the stored code of an exclusive group: then it shows its
default. Left open is the unchecking of a member that the live form shows unchecked while its code is stored. -/
theorem persisted_change_is_stored (p : Panel) (d : Deployment) (hst : st.Backed hive) (s : σ) (as : List Action) :
    let run := (p.openForm d >>= performAll as).runOn st s
    ∃ live, run.1.result = some live ∧
      ∀ change : Script (Reply Change),
        (∃ id v, change = live.set id v) ∨ (∃ id input, change = live.setText id input) →
        let done := change.runOn st run.2
        let again := (p.openForm d).runOn st done.2
        ∀ f c, done.1.result = some ⟨f, some (.ok c)⟩ → c.persisted = true → Clean again.1.steps →
        ∃ second b, again.1.result = some second ∧ p.table.binding? c.id = some b ∧
          (live.Shadowed (hive done.2) c.id → second.value c.id = b.default) ∧
          (¬ live.Shadowed (hive done.2) c.id →
            ¬ (c.value = 0 ∧ live.value c.id = 0 ∧ live.Selected (hive run.2) c.id) → second.value c.id = c.value) := by
  intro run
  have ht : p.table.Coherent := p.coherent
  have hreached : (p.openForm d >>= performAll as).Ensures fun _ f => f.IsOf p.table (p.path d) := by
    rw [ensures_bind]
    exact (loaded_isOf ht (p.path d)).mono fun _ f hf => performAll_isOf ht hf as
  obtain ⟨live, hlive, hf⟩ := hreached.runOn st s
  refine ⟨live, hlive, fun change hchange => ?_⟩
  intro done again f c hdone hpersisted hc
  have hensures : change.Ensures (SetOutcome live) := by
    rcases hchange with ⟨id, v, rfl⟩ | ⟨id, input, rfl⟩
    · exact hf.set_ensures ht id v
    · exact hf.setText_ensures ht id input
  exact SetOutcome.shown_after hst ht hf hensures hdone hpersisted hc

end

theorem persisted_change_is_stored_after_failed_load :
    let start : FaultyHive := ⟨.empty, [some (.accessDenied "SOFTWARE\\PimaxXR")]⟩
    let run := (Panel.companion.openForm .bundled >>= performAll []).runOn faultyStore start
    ∃ live, run.1.result = some live ∧
      let done := (live.set "guardian_radius" 200).runOn faultyStore run.2
      let again := (Panel.companion.openForm .bundled).runOn faultyStore done.2
      ∃ second, again.1.result = some second ∧ second.value "guardian_radius" = 200 := by
  let start : FaultyHive := ⟨.empty, [some (.accessDenied "SOFTWARE\\PimaxXR")]⟩
  let live := new Pimax.companion "SOFTWARE\\PimaxXR"
  let stored : Hive := .write .empty "SOFTWARE\\PimaxXR" [("guardian_radius", 2000)]
  have hrun : ((Panel.companion.openForm .bundled >>= performAll []).runOn faultyStore start).1.result = some live :=
    rfl
  have hstate : ((Panel.companion.openForm .bundled >>= performAll []).runOn faultyStore start).2 = ⟨.empty, []⟩ :=
    rfl
  have hdone : ((live.set "guardian_radius" 200).runOn faultyStore ⟨.empty, []⟩).1.result =
      some ⟨{ live with values := live.values.set "guardian_radius" 200 },
        some (.ok ⟨"guardian_radius", 200, true⟩)⟩ := rfl
  have hstate' : ((live.set "guardian_radius" 200).runOn faultyStore ⟨.empty, []⟩).2 = ⟨stored, []⟩ := rfl
  have hopen : Panel.companion.openForm .bundled = loaded Pimax.companion "SOFTWARE\\PimaxXR" := rfl
  have hclean : Clean ((loaded Pimax.companion "SOFTWARE\\PimaxXR").runOn faultyStore ⟨stored, []⟩).1.steps := by
    apply clean_loaded faultyStore_faultless rfl Panel.companion.coherent
    intro k _
    exact (Hive.readable_empty _ k).write _
  obtain ⟨live', hlive', hchange⟩ := persisted_change_is_stored .companion .bundled faultyStore_backed start []
  obtain rfl : live' = live := Option.some.inj (hlive'.symm.trans hrun)
  have hset := hchange (live.set "guardian_radius" 200) (.inl ⟨_, _, rfl⟩)
  dsimp only at hset
  rw [hstate, hstate', hopen] at hset
  obtain ⟨second, b, hsecond, -, -, hvalue⟩ := hset _ _ hdone rfl hclean
  refine ⟨live, hrun, ?_⟩
  dsimp only
  rw [hstate, hstate', hopen]
  refine ⟨second, hsecond, hvalue ?_ ?_⟩
  · rintro ⟨e, he, -⟩
    exact absurd he (List.not_mem_nil (a := e))
  · rintro ⟨hzero, -⟩
    exact absurd hzero (by decide)

theorem forced_rate_shown (hr : ∀ k, h.Readable path k) (hcode : h.dword? path Pimax.multiplierKey = some 100) :
    Clean ((loaded Pimax.experimental path).runOn faultyStore ⟨h, []⟩).1.steps ∧
      ∃ f, ((loaded Pimax.experimental path).runOn faultyStore ⟨h, []⟩).1.result = some f ∧
        f.value "force_half" = 1 ∧ f.value "timing_bias" = 0 := by
  have ht : Pimax.experimental.Coherent := Panel.experimental.coherent
  obtain ⟨e, he, hkey, hhalf, hbias⟩ : ∃ e, Pimax.experimental.exclusives = [e] ∧ e.key = Pimax.multiplierKey ∧
      ("force_half", 100) ∈ e.members ∧ "timing_bias" ∈ e.shadowed :=
    ⟨_, rfl, rfl, List.mem_cons_self, List.mem_cons_self⟩
  have hmem : e ∈ Pimax.experimental.exclusives := he ▸ List.mem_singleton_self e
  have hstored : e.code ((new Pimax.experimental path).stored h) = 100 := by
    rw [Exclusive.code, raw?_stored (owned_of_exclusive hmem), hkey]
    exact congrArg (Option.getD · e.none) hcode
  have hclean := clean_loaded faultyStore_faultless (s := ⟨h, []⟩) rfl ht fun k _ => hr k
  obtain ⟨f, hf, hshown⟩ := loaded_shown faultyStore_backed ht hclean
  refine ⟨hclean, f, hf, ?_, ?_⟩
  · obtain ⟨b, hb, hid⟩ : ∃ b ∈ Pimax.experimental.bindings, b.id = "force_half" := by decide
    have hof : Pimax.experimental.exclusiveOf? b.id = some e := ht.exclusiveOf?_member hmem hhalf hid.symm
    rw [← hid, hshown b hb, FormTable.shown_member (ht.sentinelGate?_member hb hof) hof, hid, hstored]
    exact if_pos (ht.codeOf?_member hmem hhalf)
  · obtain ⟨b, hb, hid, hdefault⟩ : ∃ b ∈ Pimax.experimental.bindings, b.id = "timing_bias" ∧ b.default = 0 := by decide
    have hshadowed : b.id ∈ e.shadowed := hid ▸ hbias
    obtain ⟨hg, hof⟩ := ht.plain_of_keyed hb (ht.key_of_shadowed hb hmem hshadowed)
    rw [← hid, hshown b hb, ← hdefault]
    exact FormTable.shown_masked hg hof (.inr ⟨e, hmem, hshadowed, ("force_half", 100), hhalf, hstored⟩)

theorem unshown_rate_given_up (st : Store (StateM σ)) (s : σ) (path : String) :
    let f := new Pimax.experimental path
    let run := (f.set "force_half" 0).runOn st s
    run.1.result = some ⟨{ f with values := f.values.set "force_half" 0 }, some (.ok ⟨"force_half", 0, true⟩)⟩ ∧
      run.2 = s :=
  ⟨rfl, rfl⟩

theorem bias_written (h : Hive) (path : String) :
    let f := new Pimax.experimental path
    let run := (f.set "timing_bias" 50).runOn faultyStore ⟨h, []⟩
    run.1.result = some ⟨{ f with values := f.values.set "timing_bias" 50 }, some (.ok ⟨"timing_bias", 50, true⟩)⟩ ∧
      run.2 = ⟨h.write path [(Pimax.offsetKey, 5000)], []⟩ :=
  ⟨rfl, rfl⟩

/-- A rate is forced in the store, but the initial load fails. The form shows defaults, with no rate forced. To give
up the rate that is not shown, or to set the bias that it shadows, is reported as persisted, and is not what a form
shows that is opened then. -/
theorem changes_lost_after_failed_load :
    let path := "SOFTWARE\\PimaxXR"
    let start : FaultyHive := ⟨Hive.write .empty path [(Pimax.multiplierKey, 100)], [some (.accessDenied path)]⟩
    let run := (Panel.experimental.openForm .bundled >>= performAll []).runOn faultyStore start
    ∃ live, run.1.result = some live ∧ ∀ x ∈ [("force_half", (0 : Int32)), ("timing_bias", 50)],
      let done := (live.set x.1 x.2).runOn faultyStore run.2
      let again := (Panel.experimental.openForm .bundled).runOn faultyStore done.2
      ∃ f second, done.1.result = some ⟨f, some (.ok ⟨x.1, x.2, true⟩)⟩ ∧ Clean again.1.steps ∧
        again.1.result = some second ∧ second.value x.1 ≠ x.2 := by
  let path := "SOFTWARE\\PimaxXR"
  let forced : Hive := .write .empty path [(Pimax.multiplierKey, 100)]
  let start : FaultyHive := ⟨forced, [some (.accessDenied path)]⟩
  let live := new Pimax.experimental path
  have hrun : ((Panel.experimental.openForm .bundled >>= performAll []).runOn faultyStore start).1.result = some live :=
    rfl
  have hstate : ((Panel.experimental.openForm .bundled >>= performAll []).runOn faultyStore start).2 = ⟨forced, []⟩ :=
    rfl
  have hopen : Panel.experimental.openForm .bundled = loaded Pimax.experimental path := rfl
  have hstored : forced.dword? path Pimax.multiplierKey = some 100 :=
    Hive.dword?_write_of_mem (by simp) ⟨_, List.mem_singleton_self _, Text.SameName.refl _⟩
  have hreadable : ∀ k, forced.Readable path k := fun k => (Hive.readable_empty _ k).write _
  refine ⟨live, hrun, ?_⟩
  dsimp only
  rw [hstate, hopen]
  refine List.forall_mem_cons.2 ⟨?_, List.forall_mem_cons.2 ⟨?_, by simp⟩⟩
  · obtain ⟨hclean, second, hsecond, hhalf, -⟩ := forced_rate_shown hreadable hstored
    obtain ⟨hdone, hstate'⟩ := unshown_rate_given_up faultyStore ⟨forced, []⟩ path
    rw [hstate']
    refine ⟨_, second, hdone, hclean, hsecond, ?_⟩
    rw [hhalf]
    decide
  · have hother : ∀ w ∈ [(Pimax.offsetKey, (5000 : Int32))], ¬ Text.SameName w.1 Pimax.multiplierKey := by
      decide +kernel
    obtain ⟨hclean, second, hsecond, -, hbias⟩ := forced_rate_shown (fun k => (hreadable k).write _)
      ((Hive.dword?_write_of_not_mem hother).trans hstored)
    obtain ⟨hdone, hstate'⟩ := bias_written forced path
    rw [hstate']
    refine ⟨_, second, hdone, hclean, hsecond, ?_⟩
    rw [hbias]
    decide

end Form

end XrPanel
