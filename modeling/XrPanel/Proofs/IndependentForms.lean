import XrPanel.Proofs.FormReach
import XrPanel.Proofs.HiveAlike

namespace XrPanel

open Script Text

variable {α β σ : Type} {t : FormTable} {path : String} {f g : Form}

def Reply.map (k : α → β) (r : Reply α) : Reply β := ⟨r.form, r.result.map fun x => x.map k⟩

namespace Form

def operate (f : Form) : Action → Script (Reply (Option Change))
  | .set id v => do
    let r ← f.set id v
    pure (r.map some)
  | .setText id input => do
    let r ← f.setText id input
    pure (r.map some)
  | .load => do
    let r ← f.load
    pure (r.map fun _ => none)
  | .restoreDefaults => do
    let r ← f.restoreDefaults
    pure (r.map fun _ => none)
  | .restoreGroup group => do
    let r ← f.restoreGroup group
    pure (r.map fun _ => none)
  | .setInteractive interactive => pure ⟨f.setInteractive interactive, some (.ok none)⟩

theorem Keeps.map {Q : Step → Prop} {I : Form → Prop} {p : Script (Reply α)} (hp : p.Ensures (Keeps Q I)) (k : α → β) :
    (p >>= fun r => pure (r.map k)).Ensures (Keeps Q I) := by
  rw [ensures_bind]
  refine hp.mono fun l r hr => ?_
  obtain ⟨x, hx⟩ := hr.settles
  change Keeps Q I (l ++ []) (r.map k)
  rw [List.append_nil]
  exact ⟨hr.steps, hr.form, x.map k, by rw [Reply.map, hx]; rfl⟩

theorem Invariant.operate {Q : Step → Prop} {I : Form → Prop} (h : Invariant Q I) (hf : I f) (a : Action) :
    (f.operate a).Ensures (Keeps Q I) := by
  cases a with
  | set id v => exact Keeps.map (h.set hf id v) _
  | setText id input => exact Keeps.map (h.setText hf id input) _
  | load => exact Keeps.map (h.load hf) _
  | restoreDefaults => exact Keeps.map (h.restoreDefaults hf) _
  | restoreGroup group => exact Keeps.map (h.restoreGroup hf group) _
  | setInteractive interactive => exact ⟨by simp, h.setInteractive hf interactive, _, rfl⟩

def operateAll : List Action → Form → Script (List (Reply (Option Change)))
  | [], _ => pure []
  | a :: as, f => do
    let r ← f.operate a
    let _ ← assert r.result
    let rs ← operateAll as r.form
    pure (r :: rs)

/-- The same for two forms that are worked with by turns, those of the first form on the left. -/
def takeTurns : List (Action ⊕ Action) → Form → Form →
    Script (List (Reply (Option Change)) × List (Reply (Option Change)))
  | [], _, _ => pure ([], [])
  | .inl a :: turns, f, g => do
    let r ← f.operate a
    let _ ← assert r.result
    let (rs, qs) ← takeTurns turns r.form g
    pure (r :: rs, qs)
  | .inr a :: turns, f, g => do
    let q ← g.operate a
    let _ ← assert q.result
    let (rs, qs) ← takeTurns turns f q.form
    pure (rs, q :: qs)

def Apart (f g : Form) : Prop := XrPanel.Apart f.path f.table.ownedKeys g.path g.table.ownedKeys

instance (f g : Form) : Decidable (f.Apart g) := inferInstanceAs (Decidable (XrPanel.Apart ..))

section

variable {st : Store (StateM σ)} {hive : σ → Hive} {fit : σ → Prop} {s s₁ s₂ : σ}

/-- An operation comes to the same on two stores that are alike in the entries of the form, and leaves the entries of
other forms. -/
structure Mirrored (st : Store (StateM σ)) (hive : σ → Hive) (f : Form) (a : Action) (s s₁ : σ)
    (r : Reply (Option Change)) : Prop where
  here : ((f.operate a).runOn st s).1.result = some r
  there : ((f.operate a).runOn st s₁).1.result = some r
  settles : ∃ x, r.result = some x
  table : r.form.table = f.table
  path : r.form.path = f.path
  alike : Hive.Alike f.path f.table.ownedKeys (hive ((f.operate a).runOn st s).2) (hive ((f.operate a).runOn st s₁).2)
  others {path' : String} {keys' : List String} (hapart : XrPanel.Apart path' keys' f.path f.table.ownedKeys) :
    Hive.Alike path' keys' (hive s) (hive ((f.operate a).runOn st s).2)

theorem operateAll_cons {a : Action} {as : List Action} {r : Reply (Option Change)} {rs : List (Reply (Option Change))}
    (hr : ((f.operate a).runOn st s).1.result = some r) (hx : ∃ x, r.result = some x)
    (hrs : ((operateAll as r.form).runOn st ((f.operate a).runOn st s).2).1.result = some rs) :
    ((operateAll (a :: as) f).runOn st s).1.result = some (r :: rs) ∧
      ((operateAll (a :: as) f).runOn st s).2 = ((operateAll as r.form).runOn st ((f.operate a).runOn st s).2).2 := by
  obtain ⟨x, hx⟩ := hx
  have hrest := runOn_bind_some (f := fun rs => pure (r :: rs)) hrs
  rw [operateAll, runOn_bind_some hr, hx]
  exact ⟨congrArg (fun run => run.1.result) hrest, congrArg (fun run => run.2) hrest⟩

variable {turns : List (Action ⊕ Action)} {rs qs : List (Reply (Option Change))}

theorem takeTurns_inl {a : Action} {r : Reply (Option Change)} (hr : ((f.operate a).runOn st s).1.result = some r)
    (hx : ∃ x, r.result = some x)
    (hrest : ((takeTurns turns r.form g).runOn st ((f.operate a).runOn st s).2).1.result = some (rs, qs)) :
    ((takeTurns (.inl a :: turns) f g).runOn st s).1.result = some (r :: rs, qs) ∧
      ((takeTurns (.inl a :: turns) f g).runOn st s).2 =
        ((takeTurns turns r.form g).runOn st ((f.operate a).runOn st s).2).2 := by
  obtain ⟨x, hx⟩ := hx
  have hrun := runOn_bind_some (f := fun rqs => pure (r :: rqs.1, rqs.2)) hrest
  rw [takeTurns, runOn_bind_some hr, hx]
  exact ⟨congrArg (fun run => run.1.result) hrun, congrArg (fun run => run.2) hrun⟩

theorem takeTurns_inr {a : Action} {q : Reply (Option Change)} (hq : ((g.operate a).runOn st s).1.result = some q)
    (hx : ∃ x, q.result = some x)
    (hrest : ((takeTurns turns f q.form).runOn st ((g.operate a).runOn st s).2).1.result = some (rs, qs)) :
    ((takeTurns (.inr a :: turns) f g).runOn st s).1.result = some (rs, q :: qs) ∧
      ((takeTurns (.inr a :: turns) f g).runOn st s).2 =
        ((takeTurns turns f q.form).runOn st ((g.operate a).runOn st s).2).2 := by
  obtain ⟨x, hx⟩ := hx
  have hrun := runOn_bind_some (f := fun rqs => pure (rqs.1, q :: rqs.2)) hrest
  rw [takeTurns, runOn_bind_some hq, hx]
  exact ⟨congrArg (fun run => run.1.result) hrun, congrArg (fun run => run.2) hrun⟩

variable (hst : st.Faultless hive fit) (hfol : st.Follows hive)

include hst hfol

theorem operate_mirrored (hf : f.table.Ordered) (hs : fit s) (hs₁ : fit s₁)
    (halike : Hive.Alike f.path f.table.ownedKeys (hive s) (hive s₁)) (a : Action) :
    ∃ r, Mirrored st hive f a s s₁ r := by
  have hinv := invariant_over (Values.lasting_of_ordered hf) f.path
  obtain ⟨r, hr, hsteps, hform, hsettles⟩ := (hinv.operate ⟨rfl, rfl, trivial⟩ a).runOn st s
  obtain ⟨hrun, hend⟩ := hst.runOn_alike hfol (f.operate a) hs hs₁ halike hsteps
  exact ⟨r, hr, hrun ▸ hr, hsettles, hform.table, hform.path, hend, fun hapart => hfol.foreign hapart _ hsteps⟩

theorem takeTurns_alike (hf : f.table.Ordered) (hg : g.table.Ordered) (hapart : f.Apart g) (hs : fit s) (hs₁ : fit s₁)
    (hs₂ : fit s₂) (h₁ : Hive.Alike f.path f.table.ownedKeys (hive s) (hive s₁))
    (h₂ : Hive.Alike g.path g.table.ownedKeys (hive s) (hive s₂)) (turns : List (Action ⊕ Action)) :
    let both := (takeTurns turns f g).runOn st s
    let first := (operateAll (turns.filterMap Sum.getLeft?) f).runOn st s₁
    let second := (operateAll (turns.filterMap Sum.getRight?) g).runOn st s₂
    ∃ rs qs, both.1.result = some (rs, qs) ∧ first.1.result = some rs ∧ second.1.result = some qs ∧
      Hive.Alike f.path f.table.ownedKeys (hive both.2) (hive first.2) ∧
      Hive.Alike g.path g.table.ownedKeys (hive both.2) (hive second.2) := by
  induction turns generalizing f g s s₁ s₂ with
  | nil => exact ⟨[], [], rfl, rfl, rfl, h₁, h₂⟩
  | cons turn turns ih =>
    intro both first second
    -- the form whose turn it is moves with its own store, and to the store of the other form nothing happens
    cases turn with
    | inl a =>
      obtain ⟨r, hr⟩ := operate_mirrored hst hfol hf hs hs₁ h₁ a
      have hstays := fun s (hs : fit s) => hst.stays_runOn (f.operate a) hs
      have h₂' := (hr.others hapart.symm).symm.trans h₂
      have h₁' := hr.alike
      rw [Apart, ← hr.table, ← hr.path] at hapart
      rw [← hr.table] at hf
      rw [← hr.table, ← hr.path] at h₁'
      obtain ⟨rs, qs, hboth, hfirst, hsecond, hend₁, hend₂⟩ := ih hf hg hapart (hstays s hs) (hstays s₁ hs₁) hs₂ h₁' h₂'
      obtain ⟨hboth, hb⟩ := takeTurns_inl hr.here hr.settles hboth
      obtain ⟨hfirst, h1⟩ := operateAll_cons hr.there hr.settles hfirst
      rw [hr.table, hr.path, ← hb, ← h1] at hend₁
      rw [← hb] at hend₂
      exact ⟨r :: rs, qs, hboth, hfirst, hsecond, hend₁, hend₂⟩
    | inr a =>
      obtain ⟨q, hq⟩ := operate_mirrored hst hfol hg hs hs₂ h₂ a
      have hstays := fun s (hs : fit s) => hst.stays_runOn (g.operate a) hs
      have h₁' := (hq.others hapart).symm.trans h₁
      have h₂' := hq.alike
      rw [Apart, ← hq.table, ← hq.path] at hapart
      rw [← hq.table] at hg
      rw [← hq.table, ← hq.path] at h₂'
      obtain ⟨rs, qs, hboth, hfirst, hsecond, hend₁, hend₂⟩ := ih hf hg hapart (hstays s hs) hs₁ (hstays s₂ hs₂) h₁' h₂'
      obtain ⟨hboth, hb⟩ := takeTurns_inr hq.here hq.settles hboth
      obtain ⟨hsecond, h1⟩ := operateAll_cons hq.there hq.settles hsecond
      rw [← hb] at hend₁
      rw [hq.table, hq.path, ← hb, ← h1] at hend₂
      exact ⟨rs, q :: qs, hboth, hfirst, hsecond, hend₁, hend₂⟩

end

theorem apart_of_panels {p q : Panel} (hpq : p ≠ q) (d d' : Deployment) :
    Apart (new p.table (p.path d)) (new q.table (q.path d')) := by
  have hdesktop : ∀ k ∈ VirtualDesktop.advanced.ownedKeys, ∀ l ∈ VirtualDesktop.offsets.ownedKeys, ¬ SameName k l := by
    decide +kernel
  have hpimax : ∀ k ∈ Pimax.companion.ownedKeys, ∀ l ∈ Pimax.experimental.ownedKeys, ¬ SameName k l := by
    decide +kernel
  have hpaths : ∀ d d', ¬ SameName (Product.virtualDesktop.path d) (Product.pimax.path d') := by
    intro d d'
    cases d <;> cases d' <;> decide +kernel
  match p, q, hpq with
  | .advanced, .offsets, _ => exact .of_keys hdesktop
  | .offsets, .advanced, _ => exact (XrPanel.Apart.of_keys hdesktop).symm
  | .companion, .experimental, _ => exact .of_keys hpimax
  | .experimental, .companion, _ => exact (XrPanel.Apart.of_keys hpimax).symm
  | .advanced, .companion, _ | .advanced, .experimental, _ | .offsets, .companion, _ | .offsets, .experimental, _ =>
    exact .of_path (hpaths d d')
  | .companion, .advanced, _ | .companion, .offsets, _ | .experimental, .advanced, _ | .experimental, .offsets, _ =>
    exact (XrPanel.Apart.of_path (hpaths d' d)).symm
  | .advanced, .advanced, h | .offsets, .offsets, h | .companion, .companion, h | .experimental, .experimental, h =>
    exact absurd rfl h

section

variable {st : Store (StateM σ)} {hive : σ → Hive} {fit : σ → Prop} {s : σ}

/-- Two forms without a common entry can be worked with by turns on one store: each operation of a form answers what it
answers when the other form is not there, and leaves the form with the same values, so with the same controls enabled;
and the same values are stored in the end. No two of the shipped forms have an entry in common. -/
theorem independent_forms_do_not_interfere (hst : st.Faultless hive fit) (hfol : st.Follows hive) (hs : fit s)
    (hf : f.table.Ordered) (hg : g.table.Ordered) (hapart : f.Apart g) (turns : List (Action ⊕ Action)) :
    (let both := (takeTurns turns f g).runOn st s
      let first := (operateAll (turns.filterMap Sum.getLeft?) f).runOn st s
      let second := (operateAll (turns.filterMap Sum.getRight?) g).runOn st s
      ∃ rs qs, both.1.result = some (rs, qs) ∧ first.1.result = some rs ∧ second.1.result = some qs ∧
        (∀ p n, Reaches f.path f.table.ownedKeys p n → (hive both.2).get? p n = (hive first.2).get? p n) ∧
        ∀ p n, Reaches g.path g.table.ownedKeys p n → (hive both.2).get? p n = (hive second.2).get? p n) ∧
    ∀ p q : Panel, p ≠ q → ∀ d d', p.table.Ordered ∧ (new p.table (p.path d)).Apart (new q.table (q.path d')) := by
  constructor
  · intro both first second
    obtain ⟨rs, qs, hboth, hfirst, hsecond, h₁, h₂⟩ :=
      takeTurns_alike hst hfol hf hg hapart hs hs hs (.refl _ _ _) (.refl _ _ _) turns
    exact ⟨rs, qs, hboth, hfirst, hsecond, fun p n hr => h₁.get?_eq hr, fun p n hr => h₂.get?_eq hr⟩
  · intro p q hpq d d'
    exact ⟨p.ordered, apart_of_panels hpq d d'⟩

def pimaxTurns : List (Action ⊕ Action) :=
  [.inl .load, .inr .load, .inr (.set "force_half" 1), .inl (.set "guardian" 1), .inr .restoreDefaults, .inl .load]

theorem independent_forms_do_not_interfere_pimax :
    let companion := new Pimax.companion "SOFTWARE\\PimaxXR"
    let both := (takeTurns pimaxTurns companion (new Pimax.experimental "Software\\pimaxxr")).runOn memoryStore {}
    let first := (operateAll (pimaxTurns.filterMap Sum.getLeft?) companion).runOn memoryStore {}
    ∃ rs qs, both.1.result = some (rs, qs) ∧ first.1.result = some rs ∧
      both.2.hive.get? "SOFTWARE\\PimaxXR" "guardian" = first.2.hive.get? "SOFTWARE\\PimaxXR" "guardian" := by
  have hapart : (new Pimax.companion "SOFTWARE\\PimaxXR").Apart (new Pimax.experimental "Software\\pimaxxr") :=
    .of_keys (by decide +kernel)
  obtain ⟨⟨rs, qs, hboth, hfirst, -, hget, -⟩, -⟩ := independent_forms_do_not_interfere memoryStore_faultless
    memoryStore_follows (s := {}) ⟨rfl, rfl⟩ (by decide) (by decide) hapart pimaxTurns
  have hguardian := hget "SOFTWARE\\PimaxXR" "guardian"
    ⟨SameName.refl _, "guardian", by decide +kernel, SameName.refl _⟩
  exact ⟨rs, qs, hboth, hfirst, hguardian⟩

end

end Form

end XrPanel
