import XrPanel.Proofs.FormRanges
import XrPanel.Proofs.PersistedChange

namespace XrPanel

open Script

variable {σ : Type} {t : FormTable} {path : String} {f : Form} {b : Binding} {P : Values → Prop}

def FormTable.Ordered (t : FormTable) : Prop := ∀ b ∈ t.bindings, b.control.Ordered

instance (t : FormTable) : Decidable t.Ordered := inferInstanceAs (Decidable (∀ b ∈ t.bindings, _))

theorem FormTable.Coherent.ordered (ht : t.Coherent) : t.Ordered := fun b hb =>
  Control.ordered_of_takes (ht.defaults b hb)

theorem Panel.ordered (p : Panel) : p.table.Ordered := p.coherent.ordered

namespace Values

theorem ofSnapshot?_of_ordered (ht : t.Ordered) (s : Snapshot) : ∃ vs, ofSnapshot? t s = some vs := by
  obtain ⟨vs, hvs, -⟩ : ∃ vs, ofSnapshot? t s = some vs ∧ True :=
    ofSnapshot?_keeps trivial (fun b hb vs _ => loadBinding?_keeps (ht b hb) (fun _ _ _ _ => trivial) trivial)
      (fun _ _ _ _ => trivial) fun _ _ _ _ => trivial
  exact ⟨vs, hvs⟩

theorem lasting_of_ordered (ht : t.Ordered) : Lasting t fun _ => True where
  defaults := trivial
  stored s := (ofSnapshot?_of_ordered ht s).imp fun _ h => ⟨h, trivial⟩
  clamps hb v := Control.clamp?_of_ordered (ht _ hb) v
  set _ _ _ _ := trivial
  uncheck _ _ := trivial
  check _ _ := trivial
  restored {g c vs} _ _ hc raw _ := by
    unfold Form.restored?
    split
    case h_1 n _ =>
      obtain ⟨w, hw⟩ := Control.clamp?_of_ordered (ht c (FormTable.mem_of_known hc))
        (Measure.fromStored n c.control.scale)
      exact ⟨w, hw, trivial⟩
    case h_2 => exact ⟨_, rfl, trivial⟩

end Values

namespace Form

theorem reset_removes (ht : f.table.Ordered) (keys : List String) (e : Event) :
    (event e >>= fun _ => deleteKeys f.path keys >>= fun _ => f.load).Ensures fun l r =>
      (∀ x ∈ l, x.Asks (Request.Removes f.path keys)) ∧ ∃ x, r.result = some x := by
  change (deleteKeys f.path keys >>= fun _ => f.load).Ensures _
  rw [ensures_bind]
  have hload := load_quiet (Values.lasting_of_ordered ht)
  refine (deleteKeys_ensures _ _).mono fun l _ hl => hload.mono fun m r hm => ⟨?_, hm.settles⟩
  have hdeletes : ∀ x ∈ l, x.Asks (Request.Removes f.path keys) := by
    intro x hx
    rcases hl x hx with ⟨e, rfl⟩ | ⟨k, hk, e, rfl⟩
    · trivial
    · exact ⟨rfl, hk⟩
  have hreads : ∀ x ∈ m, x.Asks (Request.Removes f.path keys) :=
    fun x hx => Step.Asks.imp (fun _ => Request.removes_of_quiet) (hm.steps x hx)
  exact List.forall_mem_cons.2 ⟨trivial, List.forall_mem_append.2 ⟨hdeletes, hreads⟩⟩

section

variable {st : Store (StateM σ)} {hive : σ → Hive} (hst : st.Follows hive) {s : σ}

include hst

theorem Touches.frame {id : String} {p : Script (Reply Change)} (hp : p.Ensures (Touches P f id)) (s : σ) :
    ∃ r, (p.runOn st s).1.result = some r ∧
      (∀ b, f.table.binding? id = some b →
        Hive.Frame f.path (f.table.changeKeys b) (hive s) (hive (p.runOn st s).2)) ∧
      (∀ e, r.result = some (.error e) → hive (p.runOn st s).2 = hive s) := by
  obtain ⟨r, hr, hout⟩ := hp.runOn st s
  refine ⟨r, hr, ?_⟩
  generalize hl : (p.runOn st s).1.steps = l at hout
  cases hout with
  | refused e =>
    have hsame : hive (p.runOn st s).2 = hive s := hst.unchanged p s (by simp [hl])
    refine ⟨fun b _ => ?_, fun _ _ => hsame⟩
    rw [hsame]
    exact .refl _ _ _
  | changed hid _ hsteps =>
    refine ⟨fun b hb => ?_, fun e he => by cases he⟩
    obtain rfl := Option.some.inj (hid.symm.trans hb)
    exact hst.frame p s (hl ▸ hsteps)

theorem reset_frame (ht : f.table.Ordered) (keys : List String) (e : Event) (s : σ) :
    let p := event e >>= fun _ => deleteKeys f.path keys >>= fun _ => f.load
    Hive.Frame f.path keys (hive s) (hive (p.runOn st s).2) ∧ Hive.Pruned (hive s) (hive (p.runOn st s).2) := by
  intro p
  obtain ⟨r, -, hsteps, -⟩ := (reset_removes ht keys e).runOn st s
  exact hst.removed p s hsteps

theorem load_unchanged (ht : f.table.Ordered) (s : σ) : hive (f.load.runOn st s).2 = hive s := by
  obtain ⟨r, -, hload⟩ := (load_quiet (Values.lasting_of_ordered ht)).runOn st s
  exact hst.unchanged f.load s hload.steps

theorem loaded_unchanged (ht : t.Ordered) (path : String) (s : σ) : hive ((loaded t path).runOn st s).2 = hive s := by
  have hquiet := Invariant.settled (load_quiet (f := new t path) (Values.lasting_of_ordered ht))
  rw [loaded_eq]
  obtain ⟨f, -, hsteps, -⟩ := hquiet.runOn st s
  exact hst.unchanged _ s hsteps

/-- However requests fail, a form whose sliders have a range leaves all of a store as it was but the entries of its
own names under its path, and makes no other path. A change leaves all but the entries of its control, and a
restored group only loses entries of its own. To open and to load a form, and what is refused, leave the store as it
is; what a form shows is read off the form without a request. -/
theorem form_leaves_others (ht : t.Ordered) (s : σ) (path : String) (as : List Action) :
    hive ((loaded t path).runOn st s).2 = hive s ∧
    let run := (loaded t path >>= performAll as).runOn st s
    ∃ f, run.1.result = some f ∧ f.table = t ∧ f.path = path ∧
      Hive.Frame path t.ownedKeys (hive s) (hive run.2) ∧
      hive (f.load.runOn st run.2).2 = hive run.2 ∧
      (∀ id change, (∃ v, change = f.set id v) ∨ (∃ input, change = f.setText id input) →
        let done := change.runOn st run.2
        ∃ r, done.1.result = some r ∧
          (∀ b, t.binding? id = some b → Hive.Frame path (t.changeKeys b) (hive run.2) (hive done.2)) ∧
          ∀ e, r.result = some (.error e) → hive done.2 = hive run.2) ∧
      ∀ group,
        let done := (f.restoreGroup group).runOn st run.2
        Hive.Frame path (t.groupKeys group) (hive run.2) (hive done.2) ∧ Hive.Pruned (hive run.2) (hive done.2) ∧
          (group ∉ t.groups → hive done.2 = hive run.2) := by
  refine ⟨loaded_unchanged hst ht path s, ?_⟩
  intro run
  have hP := Values.lasting_of_ordered ht
  obtain ⟨f, hresult, hsteps, hf⟩ := ((invariant_over hP path).reached (over_new hP path) as).runOn st s
  have hframe : Hive.Frame path t.ownedKeys (hive s) (hive run.2) := hst.frame _ s hsteps
  obtain ⟨rfl, rfl, -⟩ := hf
  refine ⟨f, hresult, rfl, rfl, hframe, load_unchanged hst ht run.2, fun id change hchange => ?_, fun group => ?_⟩
  · have htouches : change.Ensures (Touches (fun _ => True) f id) := by
      rcases hchange with ⟨v, rfl⟩ | ⟨input, rfl⟩
      · exact set_touches hP trivial id v
      · exact setText_touches hP trivial id input
    exact Touches.frame hst htouches run.2
  · by_cases hg : group ∈ f.table.groups
    · obtain ⟨hreset, hpruned⟩ := reset_frame hst ht (f.table.groupKeys group) _ run.2
      rw [restoreGroup, if_pos hg]
      exact ⟨hreset, hpruned, fun h => absurd hg h⟩
    · rw [restoreGroup, if_neg hg]
      exact ⟨.refl _ _ _, .refl _, fun _ => rfl⟩

end

theorem faultyStore_follows : faultyStore.Follows FaultyHive.hive := by
  rintro r ⟨hive, _ | ⟨_ | e, es⟩⟩
  · exact .inr rfl
  · exact .inr rfl
  · exact .inl rfl

def danglingGate : FormTable where
  name := "dangling"
  title := "Dangling"
  bindings := [⟨"a", some "A", "A", "g", .slider { min := 0, max := 9, default := 5 }⟩]
  gates := [{ toggle := "c", governs := ["a", "b"], inverted := true }]
  exclusives := []

theorem form_leaves_others_dangling_gate :
    let start : FaultyHive := ⟨Hive.set .empty "Q" "A" (.dword 3), [none, none, some (.accessDenied "P")]⟩
    let run := (loaded danglingGate "P" >>= performAll [.set "a" 7, .restoreGroup "g"]).runOn faultyStore start
    danglingGate.Ordered ∧ danglingGate.validate? = some (some (.unknownToggle "c")) ∧
    ("Q", "A", .dword 3) ∈ run.2.hive.entries ∧
    ∀ p ∈ SortedMap.names run.2.hive, p ∈ SortedMap.names start.hive ∨ p = "P" := by
  have ht : danglingGate.Ordered := by decide
  refine ⟨ht, by decide +kernel, ?_⟩
  obtain ⟨-, f, -, -, -, hframe, -⟩ := form_leaves_others faultyStore_follows ht _ "P" _
  refine ⟨(hframe.entries ?_ _).2 ?_, fun p hp => hframe.made hp⟩
  · rintro ⟨hp, -⟩
    exact absurd hp (by decide +kernel)
  · decide +kernel

end Form

end XrPanel
