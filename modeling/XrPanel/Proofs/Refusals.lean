import XrPanel.Proofs.FailedWrites
import XrPanel.Proofs.FormLoading

namespace XrPanel

open Script

variable {σ : Type} {st : Store (StateM σ)} {s : σ} {t : FormTable} {f : Form} {b : Binding} {id input group : String}
variable {v : Int32} {e : FormError}

namespace Form

def Shut (f : Form) (g : Gate) : Prop := f.value g.toggle = 0 ↔ g.inverted = false

theorem isOpen_eq_false {g : Gate} : g.isOpen (f.value g.toggle) = false ↔ f.Shut g := by
  unfold Shut Gate.isOpen
  by_cases hv : f.value g.toggle = 0 <;> cases g.inverted <;> simp [hv]

theorem isEnabled_eq_false :
    f.isEnabled id = false ↔ f.interactive = false ∨ ∃ g ∈ f.table.gates, id ∈ g.governs ∧ f.Shut g := by
  simp only [isEnabled, Bool.and_eq_false_iff, List.all_eq_false, List.mem_filter, decide_eq_true_eq,
    Bool.not_eq_true, isOpen_eq_false, and_assoc]

inductive Refuses (f : Form) (id : String) : FormError → Prop
  | unknown (h : ∀ b ∈ f.table.bindings, b.id ≠ id) : Refuses f id (.unknownControl f.table.name id)
  | off (hb : ∃ b ∈ f.table.bindings, b.id = id) (h : f.interactive = false) : Refuses f id (.disabled id)
  | shut {g : Gate} (hb : ∃ b ∈ f.table.bindings, b.id = id) (hg : g ∈ f.table.gates) (hid : id ∈ g.governs)
    (h : f.Shut g) : Refuses f id (.disabled id)

theorem refuses_of_unknown (hb : f.table.binding? id = none) :
    f.Refuses id e ↔ e = .unknownControl f.table.name id := by
  have hnone := FormTable.binding?_eq_none.1 hb
  constructor
  · rintro (_ | ⟨⟨b, hb, hid⟩, -⟩ | ⟨⟨b, hb, hid⟩, -⟩)
    · rfl
    · exact absurd hid (hnone b hb)
    · exact absurd hid (hnone b hb)
  · rintro rfl
    exact .unknown hnone

theorem refuses_of_known (hb : f.table.binding? id = some b) :
    f.Refuses id e ↔ e = .disabled id ∧ f.isEnabled id = false := by
  have hknown : ∃ b ∈ f.table.bindings, b.id = id := ⟨b, FormTable.mem_of_binding? hb, FormTable.id_of_binding? hb⟩
  rw [isEnabled_eq_false]
  constructor
  · rintro (hnone | ⟨-, hoff⟩ | ⟨-, hg, hid, hshut⟩)
    · obtain ⟨c, hc, hid⟩ := hknown
      exact absurd hid (hnone c hc)
    · exact ⟨rfl, .inl hoff⟩
    · exact ⟨rfl, .inr ⟨_, hg, hid, hshut⟩⟩
  · rintro ⟨rfl, hoff | ⟨g, hg, hid, hshut⟩⟩
    · exact .off hknown hoff
    · exact .shut hknown hg hid hshut

theorem binding_of_some (hb : f.table.binding? id = some b) : f.binding id = .ok b := by rw [binding, hb]

theorem binding_of_none (hb : f.table.binding? id = none) :
    f.binding id = .error (.unknownControl f.table.name id) := by
  rw [binding, hb]

theorem set_of_refuses (h : f.Refuses id e) (v : Int32) : f.set id v = pure ⟨f, some (.error e)⟩ := by
  cases hb : f.table.binding? id with
  | none =>
    obtain rfl := (refuses_of_unknown hb).1 h
    rw [set, binding_of_none hb]
  | some b =>
    obtain ⟨rfl, hoff⟩ := (refuses_of_known hb).1 h
    obtain rfl := FormTable.id_of_binding? hb
    rw [set, binding_of_some hb]
    exact if_neg (by simp [hoff])

theorem set_of_enabled (hb : f.table.binding? id = some b) (hon : f.isEnabled id = true) (v : Int32) :
    f.set id v = match b.clamp? v with
      | none => pure ⟨f, none⟩
      | some w => f.plan b w >>= f.conclude b := by
  obtain rfl := FormTable.id_of_binding? hb
  rw [set, binding_of_some hb]
  change (if f.isEnabled b.id = true then _ else _) = _
  rw [if_pos hon]
  cases b.clamp? v with
  | none => rfl
  | some w => exact f.apply_eq b w

theorem set_of_accepts (h : ∀ e, ¬ f.Refuses id e) (v : Int32) :
    ∃ b, f.set id v = match b.clamp? v with
      | none => pure ⟨f, none⟩
      | some w => f.plan b w >>= f.conclude b := by
  cases hb : f.table.binding? id with
  | none => exact absurd ((refuses_of_unknown hb).2 rfl) (h _)
  | some b =>
    have henabled : f.isEnabled id = true := by
      by_contra hoff
      exact h _ ((refuses_of_known hb).2 ⟨rfl, by simpa using hoff⟩)
    exact ⟨b, set_of_enabled hb henabled v⟩

theorem conclude_not_refused (f : Form) (b : Binding) (p : Values × ReadBack) :
    (f.conclude b p).Ensures fun _ r => ∀ e, r.result ≠ some (.error e) := by
  obtain ⟨vs, ws | _ | _⟩ := p
  · refine (f.conclude_carried b vs ws).mono ?_
    rintro l r ⟨ok, -, rfl⟩ e h
    cases h
  · rintro e h
    cases h
  · rintro e h
    cases h

theorem set_not_refused (h : ∀ e, ¬ f.Refuses id e) (v : Int32) :
    (f.set id v).Ensures fun _ r => ∀ e, r.result ≠ some (.error e) := by
  obtain ⟨b, hset⟩ := set_of_accepts h v
  rw [hset]
  cases b.clamp? v with
  | none =>
    rintro e h
    cases h
  | some w =>
    dsimp only
    rw [ensures_bind]
    exact (f.plan_reads b w).mono fun _ p _ => f.conclude_not_refused b p

theorem set_accepted (ht : f.table.Ordered) (h : ∀ e, ¬ f.Refuses id e) (v : Int32) :
    (f.set id v).Ensures fun _ r => ∃ g c, r = ⟨g, some (.ok c)⟩ := by
  refine ((set_touches (Values.lasting_of_ordered ht) trivial id v).and (set_not_refused h v)).mono ?_
  rintro l r ⟨htouches, hr⟩
  cases htouches with
  | refused e => exact absurd rfl (hr e)
  | changed _ _ _ => exact ⟨_, _, rfl⟩

theorem setText_of_none (hb : f.table.binding? id = none) (input : String) :
    f.setText id input = pure ⟨f, some (.error (.unknownControl f.table.name id))⟩ := by
  rw [setText, binding_of_none hb]

theorem setText_of_some (hb : f.table.binding? id = some b) (input : String) :
    f.setText id input = match b.control.parse input with
      | .ok v => f.set id v
      | .error expected => pure ⟨f, some (.error (.invalidValue id input expected))⟩ := by
  obtain rfl := FormTable.id_of_binding? hb
  cases hx : b.control.parse input <;> simp [setText, binding_of_some hb, hx]

theorem unknown_of_refused (ht : f.table.Ordered) {g : Form} {form group' : String}
    (hr : ((f.restoreGroup group).runOn st s).1.result = some ⟨g, some (.error (.unknownGroup form group'))⟩) :
    ∀ b ∈ f.table.bindings, b.group ≠ group := by
  intro b hb hgroup
  rw [restoreGroup_of_known (FormTable.mem_groups.2 ⟨b, hb, hgroup⟩)] at hr
  -- A known group answers what the load at the end answers, and a load fails only with an error of the store.
  obtain ⟨hresult, -⟩ := reset_runOn st s f .info logTarget _ (f.table.groupKeys group)
  obtain ⟨r, hload, hloads⟩ := load_answered ht st (st.pruned f.path (f.table.groupKeys group) s)
  obtain rfl := Option.some.inj (hload.symm.trans (hresult.symm.trans hr))
  generalize Transcript.notices _ = ns at hloads
  cases hloads

/-- A control is not set for the reasons there are and for no other one, a text that cannot be read is refused before
the control is looked at, and a group is not restored if no control is in it. What is refused leaves the form as it is,
asks nothing of the store and tells nobody; all other changes of a control are made, though they may not be written. -/
theorem refusals_have_no_effect (ht : f.table.Ordered) (st : Store (StateM σ)) (s : σ) :
    (∀ id v,
      (∀ e, (∃ g, ((f.set id v).runOn st s).1.result = some ⟨g, some (.error e)⟩) ↔ f.Refuses id e) ∧
      (∀ e, f.Refuses id e → (f.set id v).runOn st s = (⟨some ⟨f, some (.error e)⟩, []⟩, s)) ∧
      ((∀ e, ¬ f.Refuses id e) → ∃ g c, ((f.set id v).runOn st s).1.result = some ⟨g, some (.ok c)⟩)) ∧
    (∀ id input,
      ((∀ b ∈ f.table.bindings, b.id ≠ id) →
        (f.setText id input).runOn st s = (⟨some ⟨f, some (.error (.unknownControl f.table.name id))⟩, []⟩, s)) ∧
      ∀ b, f.table.binding? id = some b →
        (∀ expected, b.control.parse input = .error expected →
          (f.setText id input).runOn st s = (⟨some ⟨f, some (.error (.invalidValue id input expected))⟩, []⟩, s)) ∧
        ∀ v, b.control.parse input = .ok v → (f.setText id input).runOn st s = (f.set id v).runOn st s) ∧
    ∀ group,
      ((∃ g form group', ((f.restoreGroup group).runOn st s).1.result =
          some ⟨g, some (.error (.unknownGroup form group'))⟩) ↔ ∀ b ∈ f.table.bindings, b.group ≠ group) ∧
      ((∀ b ∈ f.table.bindings, b.group ≠ group) → (f.restoreGroup group).runOn st s =
        (⟨some ⟨f, some (.error (.unknownGroup f.table.name group))⟩, []⟩, s)) := by
  have hrefused : ∀ id v e, f.Refuses id e → (f.set id v).runOn st s = (⟨some ⟨f, some (.error e)⟩, []⟩, s) := by
    intro id v e h
    rw [set_of_refuses h]
    rfl
  have haccepted : ∀ id v, (∀ e, ¬ f.Refuses id e) →
      ∃ g c, ((f.set id v).runOn st s).1.result = some ⟨g, some (.ok c)⟩ := by
    intro id v h
    obtain ⟨r, hr, g, c, rfl⟩ := (set_accepted ht h v).runOn st s
    exact ⟨g, c, hr⟩
  have hgroup : ∀ group, (∀ b ∈ f.table.bindings, b.group ≠ group) → (f.restoreGroup group).runOn st s =
      (⟨some ⟨f, some (.error (.unknownGroup f.table.name group))⟩, []⟩, s) := by
    intro group h
    rw [restoreGroup_of_unknown h]
    rfl
  refine ⟨fun id v => ⟨fun e => ⟨?_, fun h => ⟨f, by rw [hrefused id v e h]⟩⟩, hrefused id v, haccepted id v⟩,
    fun id input => ⟨fun h => ?_, fun b hb => ⟨fun expected hx => ?_, fun v hv => ?_⟩⟩,
    fun group => ⟨⟨?_, fun h => ⟨f, _, _, by rw [hgroup group h]⟩⟩, hgroup group⟩⟩
  · rintro ⟨g, hg⟩
    by_contra hnot
    by_cases hother : ∃ e', f.Refuses id e'
    · obtain ⟨e', he'⟩ := hother
      rw [hrefused id v e' he'] at hg
      cases hg
      exact hnot he'
    · obtain ⟨g', c, hok⟩ := haccepted id v (not_exists.1 hother)
      cases hok.symm.trans hg
  · rw [setText_of_none (FormTable.binding?_eq_none.2 h)]
    rfl
  · rw [setText_of_some hb, hx]
    rfl
  · rw [setText_of_some hb, hv]
  · rintro ⟨g, form, group', hg⟩
    exact unknown_of_refused ht hg

theorem refusals_have_no_effect_guardian :
    let path := "SOFTWARE\\PimaxXR"
    let f : Form := { new Pimax.companion path with values := (new Pimax.companion path).values.set "guardian" 0 }
    let denied : Memory := { denyAll := true }
    Pimax.companion.Ordered ∧
    (f.set "guardian_radius" 200).runOn memoryStore denied =
      (⟨some ⟨f, some (.error (.disabled "guardian_radius"))⟩, []⟩, denied) ∧
    (f.restoreGroup "Guardian").runOn memoryStore denied =
      (⟨some ⟨f, some (.error (.unknownGroup "companion" "Guardian"))⟩, []⟩, denied) ∧
    ∃ g c, ((f.set "guardian" 1).runOn memoryStore denied).1.result = some ⟨g, some (.ok c)⟩ := by
  intro path f denied
  have ht : Pimax.companion.Ordered := by decide
  obtain ⟨hset, -, hgroup⟩ := refusals_have_no_effect (f := f) ht memoryStore denied
  have hradius : f.Refuses "guardian_radius" (.disabled "guardian_radius") := by
    refine .shut (g := ⟨"guardian", ["guardian_radius", "guardian_threshold"], false, none⟩) ?_ ?_ ?_ ?_
    · decide
    · decide
    · decide
    · exact iff_of_true (by decide +kernel) rfl
  have hguardian : ∀ e, ¬ f.Refuses "guardian" e := by
    intro e h
    have hknown : f.table.binding? "guardian" =
        some ⟨"guardian", some "guardian", "Enable guardian", "guardian", .checkbox true⟩ := rfl
    obtain ⟨-, hoff⟩ := (refuses_of_known hknown).1 h
    exact absurd hoff (by decide +kernel)
  exact ⟨ht, (hset _ 200).2.1 _ hradius, (hgroup _).2 (by decide), (hset _ 1).2.2 hguardian⟩

end Form

end XrPanel
