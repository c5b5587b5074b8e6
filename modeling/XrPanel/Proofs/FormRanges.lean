import XrPanel.Proofs.FormChanges

namespace XrPanel

open Script

variable {t : FormTable} {path : String} {f : Form} {b : Binding} {v : Int32} {vs : Values} {s : Snapshot}

namespace Values

theorem foldlM_keeps {α : Type} {P : Values → Prop} {step : Values → α → Option Values} {xs : List α}
    (hstep : ∀ x ∈ xs, ∀ vs, P vs → ∃ vs', step vs x = some vs' ∧ P vs') (h : P vs) :
    ∃ vs', xs.foldlM step vs = some vs' ∧ P vs' := by
  induction xs generalizing vs with
  | nil => exact ⟨vs, rfl, h⟩
  | cons x xs ih =>
    obtain ⟨hx, hxs⟩ := List.forall_mem_cons.1 hstep
    obtain ⟨vs₁, hvs₁, h₁⟩ := hx vs h
    rw [List.foldlM_cons, hvs₁]
    exact ih hxs h₁

section

variable {P : Values → Prop}

theorem loadBinding?_keeps (hb : b.control.Ordered)
    (hset : ∀ raw w, b.key.bind s.raw? = some raw → b.fromStored? raw = some w → P (vs.set b.id w)) (h : P vs) :
    ∃ vs', loadBinding? s vs b = some vs' ∧ P vs' := by
  unfold loadBinding?
  cases hraw : b.key.bind s.raw? with
  | none => exact ⟨vs, rfl, h⟩
  | some raw =>
    obtain ⟨w, hw⟩ := Control.clamp?_of_ordered hb (Measure.fromStored raw b.control.scale)
    have hstored : b.fromStored? raw = some w := hw
    exact ⟨vs.set b.id w, by simp [hstored], hset raw w hraw hstored⟩

theorem loadGate_keeps {g : Gate} (hset : g.sentinel.isSome → ∀ v, v = 0 ∨ v = 1 → P (vs.set g.toggle v))
    (hreset : ∀ vs, P vs → P (vs.reset (t.known g.governs))) (h : P vs) : P (loadGate t s vs g) := by
  by_cases hs : g.sentinel.isSome
  · rw [loadGate_of_isSome hs]
    split
    · exact hset hs 1 (.inr rfl)
    · exact hreset _ (hset hs 0 (.inl rfl))
  · rw [loadGate_of_none (by simpa using hs)]
    exact h

theorem ofSnapshot?_keeps (hdefaults : P (defaults t))
    (hbinding : ∀ b ∈ t.bindings, ∀ vs, P vs → ∃ vs', loadBinding? s vs b = some vs' ∧ P vs')
    (hgate : ∀ g ∈ t.gates, ∀ vs, P vs → P (loadGate t s vs g))
    (hexclusive : ∀ e ∈ t.exclusives, ∀ vs, P vs → P (loadExclusive t s vs e)) :
    ∃ vs, ofSnapshot? t s = some vs ∧ P vs := by
  obtain ⟨vs, hvs, hloaded⟩ := foldlM_keeps hbinding hdefaults
  have hgates : P (t.gates.foldl (loadGate t s) vs) :=
    List.foldlRecOn t.gates _ hloaded fun vs h g hg => hgate g hg vs h
  have hexclusives : P (t.exclusives.foldl (loadExclusive t s) (t.gates.foldl (loadGate t s) vs)) :=
    List.foldlRecOn t.exclusives _ hgates fun vs h e he => hexclusive e he vs h
  exact ⟨_, by rw [ofSnapshot?, hvs]; rfl, hexclusives⟩

end

section

variable (ht : t.Sound)

include ht

theorem Fit.set_of_sound (h : vs.Fit t) (hb : b ∈ t.bindings) (hv : b.control.Takes v) : (vs.set b.id v).Fit t :=
  h.set_of fun _ hc hid => ht.eq_of_id hb hc hid.symm ▸ hv

theorem takes_reset {bs : List Binding} (hbs : ∀ c ∈ bs, c ∈ t.bindings) (hb : b ∈ t.bindings)
    (h : b.control.Takes (vs.value b.id) ∨ b ∈ bs) : b.control.Takes ((vs.reset bs).value b.id) := by
  rw [value_reset ht.ids hbs hb]
  split
  case isTrue => exact ht.defaults b hb
  case isFalse hmem => exact h.resolve_right hmem

theorem Fit.reset {ids : List String} (h : vs.Fit t) : (vs.reset (t.known ids)).Fit t := fun _ hc =>
  takes_reset ht (fun _ hmem => FormTable.mem_of_known hmem) hc (.inl (h _ hc))

theorem fit_defaults : (defaults t).Fit t := fun _ hc => takes_reset ht (fun _ hmem => hmem) hc (.inr hc)

theorem Fit.clamp {w : Int32} (h : vs.Fit t) (hb : b ∈ t.bindings) (hw : b.clamp? v = some w) : (vs.set b.id w).Fit t :=
  h.set_of_sound ht hb (Control.takes_iff.2 (Control.covers_of_clamp? hw))

theorem Fit.loadGate {g : Gate} (hg : g ∈ t.gates) (h : vs.Fit t) : (loadGate t s vs g).Fit t :=
  loadGate_keeps (fun hs _ hv => h.set_of fun _ hc hid => ht.toggle_takes hg hs hv hc hid) (fun _ => Fit.reset ht) h

theorem Fit.loadExclusive {e : Exclusive} (he : e ∈ t.exclusives) (h : vs.Fit t) : (loadExclusive t s vs e).Fit t := by
  have hmarked : (e.members.foldl (fun vs m => vs.set m.1 (if e.code s = m.2 then 1 else 0)) vs).Fit t := by
    refine h.mark (w := fun m => if e.code s = m.2 then 1 else 0) fun m hm c hc hid => ?_
    apply ht.member_takes he hm ?_ hc hid
    by_cases hcode : e.code s = m.2 <;> simp [hcode]
  rw [loadExclusive_eq]
  split
  · exact Fit.reset ht hmarked
  · exact hmarked

theorem ofSnapshot?_fit (s : Snapshot) : ∃ vs, ofSnapshot? t s = some vs ∧ vs.Fit t := by
  refine ofSnapshot?_keeps (fit_defaults ht) (fun b hb vs h => ?_) (fun _ hg _ => Fit.loadGate ht hg)
    fun _ he _ => Fit.loadExclusive ht he
  exact loadBinding?_keeps (Control.ordered_of_takes (ht.defaults b hb)) (fun _ _ _ hw => h.clamp ht hb hw) h

theorem fit_lasting : Lasting t (Fit t) where
  defaults := fit_defaults ht
  stored s := ofSnapshot?_fit ht s
  clamps hb v := Control.clamp?_of_ordered (Control.ordered_of_takes (ht.defaults _ hb)) v
  set hb _ hw h := h.clamp ht hb hw
  uncheck {e b vs} he h := h.set_of (ht.exclusive_takes he (.inl rfl))
  check {e b vs} he h := by
    have hmem := FormTable.mem_of_exclusiveOf? he
    have hcleared : (e.members.foldl (fun vs m => vs.set m.1 0) vs).Fit t :=
      h.mark fun m hm c hc hid => ht.member_takes hmem hm (.inl rfl) hc hid
    exact hcleared.set_of (ht.exclusive_takes he (.inr rfl))
  restored {g c vs} _ _ hc raw h := by
    have hmem := FormTable.mem_of_known hc
    obtain ⟨w, hw, htakes⟩ := Form.restored?_takes (g := g) (h c hmem) raw
    exact ⟨w, hw, h.set_of_sound ht hmem htakes⟩

end

end Values

namespace Form

theorem isOf_new (ht : t.Sound) (path : String) : IsOf t path (new t path) := ⟨rfl, rfl, Values.fit_defaults ht⟩

theorem performAll_isOf (ht : t.Coherent) (hf : f.IsOf t path) (as : List Action) :
    (performAll as f).Ensures fun _ f' => IsOf t path f' := by
  have hover : Over t path (Values.Fit t) f := ⟨hf.table, hf.path, hf.fit⟩
  refine ((invariant_over (Values.fit_lasting ht.sound) path).performAll hover as).mono fun _ f' hl => ?_
  exact ⟨hl.2.table, hl.2.path, hl.2.values⟩

theorem loaded_isOf (ht : t.Coherent) (path : String) : (loaded t path).Ensures fun _ f => IsOf t path f := by
  have hP := Values.fit_lasting ht.sound
  refine ((invariant_over hP path).loaded (over_new hP path)).mono fun _ f hl => ?_
  exact ⟨hl.2.table, hl.2.path, hl.2.values⟩

variable {σ : Type}

/-- Whatever a store answers, a form whose table is valid and has checkboxes for toggles and members is opened and
worked with without a failed assertion, and all that it shows is in range: clamping leaves it as it is. -/
theorem shown_values_in_range (hv : t.validate? = some none)
    (htoggles : ∀ g ∈ t.gates, g.sentinel.isSome → ∀ b ∈ t.bindings, b.id = g.toggle → b.control.IsCheckbox)
    (hmembers : ∀ e ∈ t.exclusives, ∀ m ∈ e.members, ∀ b ∈ t.bindings, b.id = m.1 → b.control.IsCheckbox)
    (st : Store (StateM σ)) (s : σ) (path : String) (as : List Action) :
    let run := (loaded t path >>= performAll as).runOn st s
    ∃ f, run.1.result = some f ∧ f.table = t ∧
      ∀ b ∈ t.bindings, b.clamp? (f.value b.id) = some (f.value b.id) ∧ b.control.InRange (f.value b.id) := by
  intro run
  have ht : t.Sound := FormTable.sound_of_validate? hv htoggles hmembers
  have hP : Values.Lasting t (Values.Fit t) := Values.fit_lasting ht
  obtain ⟨f, hresult, -, hf⟩ := ((invariant_over hP path).reached (over_new hP path) as).runOn st s
  refine ⟨f, hresult, hf.table, fun b hb => ?_⟩
  have htakes : b.control.Takes (f.value b.id) := hf.values b hb
  exact ⟨htakes, Control.inRange_of_takes htakes⟩

theorem shown_values_in_range_experimental :
    let start : Hive := .write .empty "P" [("frame_time_filter_length", -1), (Pimax.multiplierKey, 77)]
    let actions : List Action := [.setText "filter_length" "99999", .set "force_third" 7, .restoreDefaults]
    let run := (loaded Pimax.experimental "P" >>= performAll actions).runOn hiveStore start
    Pimax.experimental.validate? = some none ∧ ∃ f, run.1.result = some f ∧
      ∀ b ∈ Pimax.experimental.bindings, b.control.InRange (f.value b.id) := by
  have hv : Pimax.experimental.validate? = some none := by decide +kernel
  refine ⟨hv, ?_⟩
  obtain ⟨f, hresult, -, hshown⟩ := shown_values_in_range hv (by decide) (by decide +kernel) hiveStore _ "P" _
  exact ⟨f, hresult, fun b hb => (hshown b hb).2⟩

end Form

end XrPanel
