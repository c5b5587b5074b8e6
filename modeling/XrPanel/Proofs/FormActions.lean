import XrPanel.Panel
import XrPanel.Proofs.OwnedKeys
import XrPanel.Proofs.PlannedChanges

namespace XrPanel

open Script

variable {α σ : Type} {t : FormTable} {path : String} {f : Form}

def Reply.settled (r : Reply α) : Script Form := do
  let _ ← assert r.result
  pure r.form

theorem Reply.settled_of_some {r : Reply α} {x : Except FormError α} (h : r.result = some x) :
    r.settled = pure r.form := by
  rw [settled, h]
  rfl

namespace Form

theorem loaded_eq (t : FormTable) (path : String) : loaded t path = (new t path).load >>= Reply.settled := rfl

inductive Action where
  | set (id : String) (v : Int32)
  | setText (id input : String)
  | load
  | restoreDefaults
  | restoreGroup (group : String)
  | setInteractive (interactive : Bool)

def perform (f : Form) : Action → Script Form
  | .set id v => f.set id v >>= Reply.settled
  | .setText id input => f.setText id input >>= Reply.settled
  | .load => f.load >>= Reply.settled
  | .restoreDefaults => f.restoreDefaults >>= Reply.settled
  | .restoreGroup group => f.restoreGroup group >>= Reply.settled
  | .setInteractive interactive => pure (f.setInteractive interactive)

def performAll : List Action → Form → Script Form
  | [], f => pure f
  | a :: as, f => f.perform a >>= performAll as

structure IsOf (t : FormTable) (path : String) (f : Form) : Prop where
  table : f.table = t
  path : f.path = path
  fit : f.values.Fit t

theorem IsOf.withValues (hf : f.IsOf t path) {vs : Values} (hvs : vs.Fit t) : IsOf t path { f with values := vs } :=
  ⟨hf.table, hf.path, hvs⟩

theorem IsOf.coherent (hf : f.IsOf t path) (ht : t.Coherent) : f.table.Coherent := hf.table ▸ ht

theorem IsOf.set_ensures (hf : f.IsOf t path) (ht : t.Coherent) (id : String) (v : Int32) :
    (f.set id v).Ensures (SetOutcome f) := Form.set_ensures (hf.coherent ht) (hf.table ▸ hf.fit) id v

theorem IsOf.setText_ensures (hf : f.IsOf t path) (ht : t.Coherent) (id input : String) :
    (f.setText id input).Ensures (SetOutcome f) := Form.setText_ensures (hf.coherent ht) (hf.table ▸ hf.fit) id input

theorem read_ensures (path : String) (keys : List String) (s : Snapshot) :
    (Snapshot.read path keys s).Ensures fun l _ => ∀ x ∈ l, ∃ k ∈ keys, ∃ e, x = .asked (.getDword path k) e := by
  induction keys generalizing s with
  | nil =>
    intro x hx
    cases hx
  | cons key keys ih =>
    rw [Snapshot.read_cons]
    rintro (e | raw)
    · intro x hx
      exact ⟨key, List.mem_cons_self, some e, List.mem_singleton.1 hx⟩
    · refine (ih _).mono fun l _ hl x hx => ?_
      rcases List.mem_cons.1 hx with rfl | hx
      · exact ⟨key, List.mem_cons_self, none, rfl⟩
      · obtain ⟨k, hk, he⟩ := hl x hx
        exact ⟨k, List.mem_cons_of_mem _ hk, he⟩

theorem deleteKeys_ensures (path : String) (keys : List String) :
    (deleteKeys path keys).Ensures fun l _ =>
      ∀ x ∈ l, (∃ e, x = .told e) ∨ ∃ k ∈ keys, ∃ e, x = .asked (.deleteValue path k) e := by
  induction keys with
  | nil =>
    intro x hx
    cases hx
  | cons key keys ih =>
    have hrest : (deleteKeys path keys).Ensures fun l _ => ∀ x ∈ l,
        (∃ e, x = .told e) ∨ ∃ k ∈ key :: keys, ∃ e, x = .asked (.deleteValue path k) e := by
      refine ih.mono fun l _ hl x hx => (hl x hx).imp_right ?_
      rintro ⟨k, hk, he⟩
      exact ⟨k, List.mem_cons_of_mem _ hk, he⟩
    have hhead : ∀ e, ∃ k ∈ key :: keys, ∃ e', Step.asked (.deleteValue path key) e = .asked (.deleteValue path k) e' :=
      fun e => ⟨key, List.mem_cons_self, e, rfl⟩
    rw [deleteKeys, ensures_bind, ensures_request]
    rintro (e | x)
    · refine hrest.mono fun l _ hl => ?_
      exact List.forall_mem_cons.2 ⟨.inr (hhead _), List.forall_mem_cons.2 ⟨.inl ⟨_, rfl⟩, hl⟩⟩
    · exact hrest.mono fun l _ hl => List.forall_mem_cons.2 ⟨.inr (hhead _), hl⟩

theorem deleteKeys_ends (path : String) (keys : List String) : (deleteKeys path keys).Ensures fun _ _ => True :=
  (deleteKeys_ensures path keys).mono fun _ _ _ => trivial

structure Keeps (Q : Step → Prop) (I : Form → Prop) (l : List Step) (r : Reply α) : Prop where
  steps : ∀ x ∈ l, Q x
  form : I r.form
  settles : ∃ x, r.result = some x

/-- A property of forms that every operation keeps, with the steps that an operation may take. -/
structure Invariant (Q : Step → Prop) (I : Form → Prop) : Prop where
  tells (e : Event) : Q (.told e)
  deletes {f : Form} (hf : I f) {k : String} (hk : k ∈ f.table.ownedKeys) (x : Option StoreError) :
    Q (.asked (.deleteValue f.path k) x)
  load {f : Form} (hf : I f) : f.load.Ensures (Keeps Q I)
  set {f : Form} (hf : I f) (id : String) (v : Int32) : (f.set id v).Ensures (Keeps Q I)
  setInteractive {f : Form} (hf : I f) (interactive : Bool) : I (f.setInteractive interactive)

namespace Invariant

variable {Q : Step → Prop} {I : Form → Prop} (h : Invariant Q I)

include h

theorem setText (hf : I f) (id input : String) : (f.setText id input).Ensures (Keeps Q I) := by
  unfold Form.setText
  cases f.binding id with
  | error e => exact ⟨by simp, hf, _, rfl⟩
  | ok b =>
    dsimp only
    cases b.control.parse input with
    | error expected => exact ⟨by simp, hf, _, rfl⟩
    | ok v => exact h.set hf id v

theorem reset (hf : I f) {keys : List String} (hkeys : ∀ k ∈ keys, k ∈ f.table.ownedKeys) (e : Event) :
    (event e >>= fun _ => deleteKeys f.path keys >>= fun _ => f.load).Ensures (Keeps Q I) := by
  change (deleteKeys f.path keys >>= fun _ => f.load).Ensures _
  rw [ensures_bind]
  refine (deleteKeys_ensures _ _).mono fun l _ hl => (h.load hf).mono fun m r hr => ⟨?_, hr.form, hr.settles⟩
  have hsteps : ∀ x ∈ l, Q x := by
    intro x hx
    rcases hl x hx with ⟨e, rfl⟩ | ⟨k, hk, e, rfl⟩
    · exact h.tells e
    · exact h.deletes hf (hkeys k hk) e
  exact List.forall_mem_cons.2 ⟨h.tells e, List.forall_mem_append.2 ⟨hsteps, hr.steps⟩⟩

theorem restoreDefaults (hf : I f) : f.restoreDefaults.Ensures (Keeps Q I) := h.reset hf (fun _ hk => hk) _

theorem restoreGroup (hf : I f) (group : String) : (f.restoreGroup group).Ensures (Keeps Q I) := by
  unfold Form.restoreGroup
  split
  · exact h.reset hf (fun _ hk => FormTable.groupKeys_owned hk) _
  · exact ⟨by simp, hf, _, rfl⟩

omit h in
theorem settled {p : Script (Reply α)} (hp : p.Ensures (Keeps Q I)) :
    (p >>= Reply.settled).Ensures fun l f' => (∀ x ∈ l, Q x) ∧ I f' := by
  rw [ensures_bind]
  refine hp.mono fun l r hr => ?_
  obtain ⟨x, hx⟩ := hr.settles
  rw [Reply.settled_of_some hx]
  exact ⟨by simpa using hr.steps, hr.form⟩

theorem perform (hf : I f) (a : Action) : (f.perform a).Ensures fun l f' => (∀ x ∈ l, Q x) ∧ I f' := by
  cases a with
  | set id v => exact settled (h.set hf id v)
  | setText id input => exact settled (h.setText hf id input)
  | load => exact settled (h.load hf)
  | restoreDefaults => exact settled (h.restoreDefaults hf)
  | restoreGroup group => exact settled (h.restoreGroup hf group)
  | setInteractive interactive => exact ⟨by simp, h.setInteractive hf interactive⟩

theorem performAll (hf : I f) (as : List Action) :
    (performAll as f).Ensures fun l f' => (∀ x ∈ l, Q x) ∧ I f' := by
  induction as generalizing f with
  | nil => exact ⟨by simp, hf⟩
  | cons a as ih =>
    rw [Form.performAll, ensures_bind]
    refine (h.perform hf a).mono fun l f' hl => (ih hl.2).mono fun m f'' hm => ⟨?_, hm.2⟩
    exact List.forall_mem_append.2 ⟨hl.1, hm.1⟩

theorem loaded (hnew : I (new t path)) : (loaded t path).Ensures fun l f => (∀ x ∈ l, Q x) ∧ I f := by
  rw [loaded_eq]
  exact settled (h.load hnew)

theorem reached (hnew : I (new t path)) (as : List Action) :
    (Form.loaded t path >>= Form.performAll as).Ensures fun l f => (∀ x ∈ l, Q x) ∧ I f := by
  rw [ensures_bind]
  refine (h.loaded hnew).mono fun l f hl => (h.performAll hl.2 as).mono fun m f' hm => ⟨?_, hm.2⟩
  exact List.forall_mem_append.2 ⟨hl.1, hm.1⟩

end Invariant

section

variable {st : Store (StateM σ)} {hive : σ → Hive} {s : σ}

theorem load_runOn (hst : st.Backed hive) (ht : f.table.Coherent) (hc : Clean (f.load.runOn st s).1.steps) :
    ∃ vs, Values.ofSnapshot? f.table (f.stored (hive s)) = some vs ∧
      (f.load.runOn st s).1.result = some ⟨{ f with values := vs }, some (.ok ())⟩ ∧
      hive (f.load.runOn st s).2 = hive s ∧ (∀ k ∈ f.table.ownedKeys, (hive s).Readable f.path k) ∧
      ∀ b ∈ f.table.bindings, vs.value b.id = f.table.shown (f.stored (hive s)) b := by
  unfold load at hc ⊢
  obtain ⟨hresult, hhive, hreadable⟩ := Snapshot.read_runOn hst f.path f.table.ownedKeys .empty s (clean_of_bind hc)
  obtain ⟨vs, hvs, hshown⟩ := Values.ofSnapshot?_shown ht (f.stored (hive s))
  refine ⟨vs, hvs, ?_, ?_, hreadable, hshown⟩
  all_goals
    rw [runOn_bind_some hresult]
    change Values.ofSnapshot? f.table (Snapshot.collect _ _ _ _) = _ at hvs
    simp only [hvs]
  · rfl
  · exact hhive

theorem clean_load {fit : σ → Prop} (hst : st.Faultless hive fit) (hs : fit s) (ht : f.table.Coherent)
    (hr : ∀ k ∈ f.table.ownedKeys, (hive s).Readable f.path k) : Clean (f.load.runOn st s).1.steps := by
  have hread := Snapshot.clean_read hst hs hr .empty
  obtain ⟨hresult, -, -⟩ := Snapshot.read_runOn hst.toBacked f.path f.table.ownedKeys .empty s hread
  obtain ⟨vs, hvs, -⟩ := Values.ofSnapshot?_shown ht (f.stored (hive s))
  unfold load
  rw [runOn_bind_some hresult]
  change Values.ofSnapshot? f.table (Snapshot.collect _ _ _ _) = _ at hvs
  simp only [hvs]
  exact (clean_append _ _).2 ⟨hread, (clean_told _ _).2 clean_nil⟩

theorem loaded_runOn (hst : st.Backed hive) (ht : t.Coherent) (hc : Clean ((loaded t path).runOn st s).1.steps) :
    ∃ vs, Values.ofSnapshot? t ((new t path).stored (hive s)) = some vs ∧
      ((loaded t path).runOn st s).1.result = some { new t path with values := vs } := by
  rw [loaded_eq] at hc ⊢
  obtain ⟨vs, hvs, hresult, -⟩ := load_runOn hst ht (clean_of_bind hc)
  refine ⟨vs, hvs, ?_⟩
  rw [runOn_bind_some hresult]
  rfl

theorem clean_loaded {fit : σ → Prop} (hst : st.Faultless hive fit) (hs : fit s) (ht : t.Coherent)
    (hr : ∀ k ∈ t.ownedKeys, (hive s).Readable path k) : Clean ((loaded t path).runOn st s).1.steps := by
  have hload : Clean (((new t path).load).runOn st s).1.steps := clean_load hst hs ht hr
  obtain ⟨vs, -, hresult, -⟩ := load_runOn hst.toBacked ht hload
  rw [loaded_eq, runOn_bind_some hresult]
  exact (clean_append _ _).2 ⟨hload, clean_nil⟩

end

end Form

end XrPanel
