import XrPanel.Proofs.FormRanges

namespace XrPanel

open Script

variable {σ : Type} {t : FormTable} {path : String} {f : Form} {h : Hive}

namespace Form

def Exempt (f : Form) (id : String) : Prop :=
  (∃ g ∈ f.table.gates, g.sentinel.isSome ∧ id ∈ g.governs ∧ f.value g.toggle = 0) ∨
    ∃ e ∈ f.table.exclusives, id ∈ e.shadowed ∧ ∃ m ∈ e.members, f.value m.1 ≠ 0

structure Mirrors (t : FormTable) (path : String) (h : Hive) (f : Form) : Prop extends f.IsOf t path where
  readable : ∀ k ∈ f.table.ownedKeys, h.Readable f.path k
  shows : f.Shows h

theorem Planned.mirrors (ht : t.Coherent) (hf : f.Mirrors t path h) {b : Binding} {v : Int32} {vs : Values}
    {ws : Writes} (hb : b ∈ f.table.bindings) (hen : f.isEnabled b.id = true) (hv : b.control.Takes v)
    (hfit : vs.Fit f.table) (hplan : Planned f b v vs ws) :
    Mirrors t path (h.write f.path ws) { f with values := vs } := by
  have htable : f.table.Coherent := hf.coherent ht
  refine ⟨hf.withValues (hf.table ▸ hfit), fun k hk => (hf.readable k hk).write ws, fun c hc hm => ?_⟩
  change ¬ f.table.Masked (f.stored (h.write f.path ws)) c at hm
  change f.table.shown (f.stored (h.write f.path ws)) c = vs.value c.id
  by_cases hid : b.id = c.id
  · obtain rfl := htable.eq_of_id hb hc hid
    refine hplan.shown htable hb hv hfit (fun hmember _ hold => ?_) hm
    have hkeyless : b.key = none := (htable.derived b hb (.inr hmember)).1
    rw [hf.shows b hb (htable.not_masked_of_keyless hb hkeyless), hold]
  · exact hplan.shown_other htable hf.shows hc hid hb hen hv hfit hm

theorem SetOutcome.mirrors (ht : t.Coherent) (hf : f.Mirrors t path h) {l : List Step} {r : Reply Change}
    (hr : SetOutcome f l r) (hc : Clean l) : Mirrors t path (effects l h) r.form ∧ ∃ x, r.result = some x := by
  cases hr with
  | refused e => exact ⟨hf, _, rfl⟩
  | changed hb hen hv happ =>
    obtain ⟨ws, hplan, heff⟩ := happ.planned hc
    refine ⟨?_, _, rfl⟩
    rw [heff h]
    exact hplan.mirrors ht hf hb hen hv happ.fit

section

variable {st : Store (StateM σ)} {hive : σ → Hive} (hst : st.Backed hive) (ht : t.Coherent) {s : σ}

include hst ht

theorem set_mirrors (hf : f.Mirrors t path (hive s)) {p : Script (Reply Change)} (hp : p.Ensures (SetOutcome f))
    (hc : Clean ((p >>= Reply.settled).runOn st s).1.steps) :
    ∃ f', ((p >>= Reply.settled).runOn st s).1.result = some f' ∧
      f'.Mirrors t path (hive ((p >>= Reply.settled).runOn st s).2) := by
  have hclean := clean_of_bind hc
  obtain ⟨r, hr, hout⟩ := hp.runOn st s
  obtain ⟨hmirrors, x, hx⟩ := hout.mirrors ht hf hclean
  rw [runOn_bind_some hr, Reply.settled_of_some hx]
  refine ⟨r.form, rfl, ?_⟩
  change r.form.Mirrors t path (hive (p.runOn st s).2)
  rw [hst.hive_runOn p hclean]
  exact hmirrors

theorem load_mirrors (hf : f.IsOf t path) (hc : Clean ((f.load >>= Reply.settled).runOn st s).1.steps) :
    ∃ f', ((f.load >>= Reply.settled).runOn st s).1.result = some f' ∧ f'.Mirrors t path (hive s) ∧
      hive ((f.load >>= Reply.settled).runOn st s).2 = hive s := by
  obtain ⟨rfl, rfl, hfit⟩ := hf
  obtain ⟨vs, -, hresult, hhive, hreadable, hshown⟩ := load_runOn hst ht (clean_of_bind hc)
  rw [runOn_bind_some hresult, Reply.settled_of_some rfl]
  have hshows : Shows { f with values := vs } (hive s) := fun b hb _ => (hshown b hb).symm
  refine ⟨{ f with values := vs }, rfl, ⟨⟨rfl, rfl, fun b hb => ?_⟩, hreadable, hshows⟩, hhive⟩
  change b.control.Takes (vs.value b.id)
  rw [hshown b hb]
  exact ht.shown_takes hb

theorem reload_mirrors (hf : f.IsOf t path) (hc : Clean ((f.load >>= Reply.settled).runOn st s).1.steps) :
    ∃ f', ((f.load >>= Reply.settled).runOn st s).1.result = some f' ∧
      f'.Mirrors t path (hive ((f.load >>= Reply.settled).runOn st s).2) := by
  obtain ⟨f', hresult, hmirrors, hhive⟩ := load_mirrors hst ht hf hc
  exact ⟨f', hresult, hhive ▸ hmirrors⟩

theorem load_after_mirrors (hf : f.IsOf t path) {p : Script Unit} (hp : p.Ensures fun _ _ => True)
    (hc : Clean (((p >>= fun _ => f.load) >>= Reply.settled).runOn st s).1.steps) :
    ∃ f', (((p >>= fun _ => f.load) >>= Reply.settled).runOn st s).1.result = some f' ∧
      f'.Mirrors t path (hive (((p >>= fun _ => f.load) >>= Reply.settled).runOn st s).2) := by
  have hassoc : ((p >>= fun _ => f.load) >>= Reply.settled) = p >>= fun _ => f.load >>= Reply.settled :=
    bind_assoc p (fun _ => f.load) Reply.settled
  obtain ⟨u, hu, -⟩ := hp.runOn st s
  rw [hassoc, runOn_bind_some hu] at hc ⊢
  exact reload_mirrors hst ht hf ((clean_append _ _).1 hc).2

theorem perform_mirrors (hf : f.Mirrors t path (hive s)) (a : Action) (hc : Clean ((f.perform a).runOn st s).1.steps) :
    ∃ f', ((f.perform a).runOn st s).1.result = some f' ∧ f'.Mirrors t path (hive ((f.perform a).runOn st s).2) := by
  cases a with
  | set id v => exact set_mirrors hst ht hf (hf.set_ensures ht id v) hc
  | setText id input => exact set_mirrors hst ht hf (hf.setText_ensures ht id input) hc
  | load => exact reload_mirrors hst ht hf.toIsOf hc
  | restoreDefaults =>
    exact load_after_mirrors hst ht hf.toIsOf (p := .tell _ (deleteKeys f.path f.table.ownedKeys))
      (deleteKeys_ends _ _) hc
  | restoreGroup group =>
    rw [perform, restoreGroup] at hc ⊢
    by_cases hg : group ∈ f.table.groups
    · rw [if_pos hg] at hc ⊢
      exact load_after_mirrors hst ht hf.toIsOf (p := .tell _ (deleteKeys f.path (f.table.groupKeys group)))
        (deleteKeys_ends _ _) hc
    · rw [if_neg hg]
      exact ⟨f, rfl, hf⟩
  | setInteractive interactive =>
    exact ⟨f.setInteractive interactive, rfl, ⟨hf.table, hf.path, hf.fit⟩, hf.readable, hf.shows⟩

theorem performAll_mirrors (hf : f.Mirrors t path (hive s)) (as : List Action)
    (hc : Clean ((performAll as f).runOn st s).1.steps) :
    ∃ f', ((performAll as f).runOn st s).1.result = some f' ∧
      f'.Mirrors t path (hive ((performAll as f).runOn st s).2) := by
  induction as generalizing f s with
  | nil => exact ⟨f, rfl, hf⟩
  | cons a as ih =>
    rw [performAll] at hc ⊢
    obtain ⟨f', hresult, hmirrors⟩ := perform_mirrors hst ht hf a (clean_of_bind hc)
    rw [runOn_bind_some hresult] at hc ⊢
    exact ih hmirrors ((clean_append _ _).1 hc).2

theorem loaded_mirrors (path : String) (hc : Clean ((loaded t path).runOn st s).1.steps) :
    ∃ f, ((loaded t path).runOn st s).1.result = some f ∧ f.Mirrors t path (hive s) ∧
      hive ((loaded t path).runOn st s).2 = hive s :=
  load_mirrors hst ht (isOf_new ht.sound path) hc

theorem loaded_performAll_mirrors (path : String) (as : List Action)
    (hc : Clean ((loaded t path >>= performAll as).runOn st s).1.steps) :
    ∃ f, ((loaded t path >>= performAll as).runOn st s).1.result = some f ∧
      f.Mirrors t path (hive ((loaded t path >>= performAll as).runOn st s).2) := by
  obtain ⟨first, hfirst, hmirrors, hhive⟩ := loaded_mirrors hst ht path (clean_of_bind hc)
  rw [runOn_bind_some hfirst] at hc ⊢
  exact performAll_mirrors hst ht (hhive ▸ hmirrors) as ((clean_append _ _).1 hc).2

end

theorem Shows.exempt_of_masked (ht : f.table.Coherent) (hshows : f.Shows h) {b : Binding}
    (hm : f.table.Masked (f.stored h) b) : f.Exempt b.id := by
  rcases hm with ⟨g, hg, hs, hid, heng⟩ | ⟨e, he, hid, m, hm, hcode⟩
  · refine .inl ⟨g, hg, hs, hid, ?_⟩
    rw [hshows.value_toggle ht hg hs, heng]
    simp
  · refine .inr ⟨e, he, hid, m, hm, ?_⟩
    rw [hshows.value_selected ht he hm hcode]
    decide

theorem Mirrors.value_eq {f f' : Form} (hf : f.Mirrors t path h) (hf' : f'.Mirrors t path h) {b : Binding}
    (hb : b ∈ t.bindings) (hm : ¬ t.Masked (f.stored h) b) : f'.value b.id = f.value b.id := by
  obtain ⟨⟨rfl, rfl, -⟩, -, hshows⟩ := hf
  obtain ⟨⟨htable, hpath, -⟩, -, hshows'⟩ := hf'
  have hstored : f'.stored h = f.stored h := by rw [stored, stored, htable, hpath]
  have hvalue := hshows' b (htable ▸ hb)
  rw [htable, hstored] at hvalue
  rw [← hvalue hm, hshows b hb hm]

theorem Mirrors.value_of_not_exempt (ht : t.Coherent) {f f' : Form} (hf : f.Mirrors t path h)
    (hf' : f'.Mirrors t path h) {b : Binding} (hb : b ∈ t.bindings) (hex : ¬ f.Exempt b.id) :
    f'.value b.id = f.value b.id := by
  apply hf.value_eq hf' hb
  intro hm
  obtain ⟨⟨rfl, -, -⟩, -, hshows⟩ := hf
  exact hex (hshows.exempt_of_masked ht hm)

theorem Mirrors.isEnabled_eq (ht : t.Coherent) {f f' : Form} (hf : f.Mirrors t path h) (hf' : f'.Mirrors t path h)
    (id : String) : (f'.setInteractive f.interactive).isEnabled id = f.isEnabled id := by
  have htable : (f'.setInteractive f.interactive).table = f.table := hf'.table.trans hf.table.symm
  rw [isEnabled, isEnabled, htable, Bool.eq_iff_iff, Bool.and_eq_true, Bool.and_eq_true, List.all_eq_true,
    List.all_eq_true]
  refine and_congr Iff.rfl (forall_congr' fun g => forall_congr' fun hg => ?_)
  obtain ⟨b, hb, hid, hm⟩ := toggle_not_masked (s := f.stored h) (hf.coherent ht) (List.mem_filter.1 hg).1
  have hvalue : (f'.setInteractive f.interactive).value g.toggle = f.value g.toggle :=
    hid ▸ hf.value_eq hf' (hf.table ▸ hb) (hf.table ▸ hm)
  rw [hvalue]

section

variable {st : Store (StateM σ)} {hive : σ → Hive}

theorem Mirrors.reopened (hst : st.Backed hive) {p : Panel} {d : Deployment} {live : Form} {s : σ}
    (hf : live.Mirrors p.table (p.path d) (hive s)) :
    let again := (p.openForm d).runOn st s
    let contents := (p.openForm d).runOn hiveStore (hive s)
    ∃ second, Clean contents.1.steps ∧ contents.1.result = some second ∧
      (Clean again.1.steps → again.1.result = some second) ∧ second.Mirrors p.table (p.path d) (hive s) := by
  intro again contents
  have ht : p.table.Coherent := p.coherent
  have hreadable : ∀ k ∈ p.table.ownedKeys, (hive s).Readable (p.path d) k := by
    have hr := hf.readable
    rw [hf.table, hf.path] at hr
    exact hr
  have hcontents : Clean contents.1.steps := clean_loaded hiveStore_faultless trivial ht hreadable
  obtain ⟨second, hsecond, hmirrors, -⟩ := loaded_mirrors hiveStore_backed ht (p.path d) hcontents
  refine ⟨second, hcontents, hsecond, fun hagain => ?_, hmirrors⟩
  -- both forms are made of the same numbers
  obtain ⟨vs, hvs, hresult⟩ := loaded_runOn hst ht hagain
  obtain ⟨vs', hvs', hresult'⟩ := loaded_runOn hiveStore_backed ht hcontents
  obtain rfl : vs = vs' := Option.some.inj (hvs.symm.trans hvs')
  exact hresult.trans (hresult'.symm.trans hsecond)

/-- After any actions in which no request fails, a form opened anew shows what the live one shows, but for
controls under a sentinel gate that is unchecked or shadowed by a checked member, and is open to the same input.
The new form can be opened on what the store holds, and is the one that the store itself gives. -/
theorem live_form_mirrors_store (p : Panel) (d : Deployment) (hst : st.Backed hive) (s : σ) (as : List Action) :
    let run := (p.openForm d >>= performAll as).runOn st s
    let again := (p.openForm d).runOn st run.2
    let contents := (p.openForm d).runOn hiveStore (hive run.2)
    Clean run.1.steps →
    ∃ live second, run.1.result = some live ∧
      Clean contents.1.steps ∧ contents.1.result = some second ∧
      (Clean again.1.steps → again.1.result = some second) ∧
      (∀ b ∈ p.table.bindings, ¬ live.Exempt b.id → second.value b.id = live.value b.id) ∧
      ∀ id, (second.setInteractive live.interactive).isEnabled id = live.isEnabled id := by
  intro run again contents hc
  have ht : p.table.Coherent := p.coherent
  obtain ⟨live, hlive, hmirrors⟩ := loaded_performAll_mirrors hst ht (p.path d) as hc
  obtain ⟨second, hcontents, hsecond, hagain, hmirrors'⟩ := hmirrors.reopened hst
  exact ⟨live, second, hlive, hcontents, hsecond, hagain,
    fun b hb hex => hmirrors.value_of_not_exempt ht hmirrors' hb hex, hmirrors.isEnabled_eq ht hmirrors'⟩

theorem live_form_mirrors_store_guardian :
    let actions : List Action := [.set "guardian" 0, .set "guardian_radius" 200, .setText "guardian" " On"]
    let run := (Panel.companion.openForm .bundled >>= performAll actions).runOn memoryStore {}
    let again := (Panel.companion.openForm .bundled).runOn memoryStore run.2
    Clean run.1.steps ∧ Clean again.1.steps ∧
    ∃ live second, run.1.result = some live ∧ again.1.result = some second ∧
      ∀ b ∈ Panel.companion.table.bindings, ¬ live.Exempt b.id → second.value b.id = live.value b.id := by
  intro actions run again
  have hrun : Clean run.1.steps := by decide +kernel
  have hagain : Clean again.1.steps := by decide +kernel
  obtain ⟨live, second, hlive, -, -, hsecond, hvalues, -⟩ :=
    live_form_mirrors_store .companion .bundled memoryStore_backed {} actions hrun
  exact ⟨hrun, hagain, live, second, hlive, hsecond hagain, hvalues⟩

end

end Form

end XrPanel
