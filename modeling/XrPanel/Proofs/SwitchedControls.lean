import XrPanel.Proofs.FailureNotices
import XrPanel.Proofs.FormMirror
import XrPanel.Proofs.HeldValues

namespace XrPanel

open Script Text

variable {σ : Type} {st : Store (StateM σ)} {hive : σ → Hive} {s s' : σ} {f f' : Form} {b : Binding} {id : String}
variable {v w : Int32} {vs : Values} {ws : Writes} {g : Gate} {e : Exclusive} {P : Values → Prop}

namespace FormTable

structure Apart (t : FormTable) (e : Exclusive) : Prop where
  toggles : ∀ m ∈ e.members, t.sentinelGate? m.1 = none
  others : ∀ e' ∈ t.exclusives, ∀ m ∈ e.members, ∀ n ∈ e'.members, m.1 = n.1 → e' = e

theorem Apart.exclusiveOf?_member {t : FormTable} (h : t.Apart e) (he : e ∈ t.exclusives) {m : String × Int32}
    (hm : m ∈ e.members) : t.exclusiveOf? m.1 = some e := by
  cases hq : t.exclusiveOf? m.1 with
  | none => exact absurd ⟨e, he, m, hm, rfl⟩ (exclusiveOf?_eq_none.1 hq)
  | some e' =>
    obtain ⟨he', n, hn, hid⟩ := exclusiveOf?_eq_some hq
    rw [h.others e' he' m hm n hn hid.symm]

end FormTable

theorem Values.find?_uncheckAll {ms : List (String × Int32)} (hid : ∀ m ∈ ms, m.1 ≠ id) :
    (ms.foldl (fun vs m => vs.set m.1 0) vs).find? id = vs.find? id := by
  induction ms generalizing vs with
  | nil => rfl
  | cons m ms ih =>
    obtain ⟨hm, hms⟩ := List.forall_mem_cons.1 hid
    rw [List.foldl_cons, ih hms, find?_set_of_ne hm]

namespace Form

def Persists (st : Store (StateM σ)) (f : Form) (s : σ) (id : String) (v : Int32) (f' : Form) (s' : σ) : Prop :=
  ∃ c : Change, ((f.set id v).runOn st s).1.result = some ⟨f', some (.ok c)⟩ ∧ c.persisted = true ∧
    ((f.set id v).runOn st s).2 = s'

theorem Persists.clean (ht : f.table.Ordered) (h : Persists st f s id v f' s') :
    Clean ((f.set id v).runOn st s).1.steps := by
  obtain ⟨c, hresult, hpersisted, -⟩ := h
  rcases set_settles ht id v with ⟨e, hset⟩ | hmade
  · rw [hset] at hresult
    cases hresult
  · obtain ⟨r, hr, g, c', rfl, hreported⟩ := hmade.runOn st s
    cases hr.symm.trans hresult
    exact hreported.clean_iff.1 hpersisted

theorem Persists.lasts (hP : Values.Lasting f.table P) (hf : P f.values) (h : Persists st f s id v f' s') :
    ∃ vs, f' = { f with values := vs } ∧ P vs := by
  obtain ⟨c, hresult, -, -⟩ := h
  obtain ⟨r, hr, htouches⟩ := (set_touches hP hf id v).runOn st s
  obtain rfl := Option.some.inj (hr.symm.trans hresult)
  generalize ((f.set id v).runOn st s).1.steps = l at htouches
  cases htouches with
  | changed hid hvs hl => exact ⟨_, rfl, hvs⟩

theorem Persists.planned (hb : f.table.binding? id = some b) (h : Persists st f s id v f' s') :
    ∃ w, b.clamp? v = some w ∧ f.set id v = f.plan b w >>= f.conclude b := by
  obtain ⟨c, hresult, -, -⟩ := h
  cases hon : f.isEnabled id with
  | false =>
    rw [set_of_refuses ((refuses_of_known hb).2 ⟨rfl, hon⟩)] at hresult
    cases hresult
  | true =>
    have hset := set_of_enabled hb hon v
    cases hw : b.clamp? v with
    | none =>
      rw [hset, hw] at hresult
      cases hresult
    | some w =>
      rw [hw] at hset
      exact ⟨w, rfl, hset⟩

theorem conclude_runOn (hst : st.Backed hive) (hc : Clean ((f.conclude b (vs, .entries ws)).runOn st s).1.steps) :
    (∃ r, ((f.conclude b (vs, .entries ws)).runOn st s).1.result = some ⟨{ f with values := vs }, r⟩) ∧
      hive ((f.conclude b (vs, .entries ws)).runOn st s).2 = (hive s).write f.path ws := by
  unfold conclude at hc ⊢
  obtain ⟨ok, hok, -, heffects⟩ := (writeAll_ensures f.path ws).runOn st s
  have hwritten : Clean ((writeAll f.path ws).runOn st s).1.steps := clean_of_bind hc
  rw [runOn_bind_some hok]
  refine ⟨⟨_, rfl⟩, ?_⟩
  change hive ((writeAll f.path ws).runOn st s).2 = _
  rw [hst.hive_runOn _ hwritten, heffects hwritten]

theorem Persists.of_plan (hst : st.Backed hive) (hv : f.table.validate? = some none) (hb : b ∈ f.table.bindings)
    (hw : b.clamp? v = some w)
    (hplan : Clean ((f.plan b w).runOn st s).1.steps → ((f.plan b w).runOn st s).1.result = some (vs, .entries ws))
    (h : Persists st f s b.id v f' s') :
    f' = { f with values := vs } ∧ hive s' = (hive ((f.plan b w).runOn st s).2).write f.path ws := by
  have hclean := h.clean (FormTable.ordered_of_validate? hv)
  obtain ⟨w', hw', hset⟩ := h.planned (FormTable.binding?_of_ids (FormTable.ids_of_validate? hv) hb)
  obtain rfl : w' = w := Option.some.inj (hw'.symm.trans hw)
  obtain ⟨c, hresult, -, rfl⟩ := h
  rw [hset] at hclean hresult ⊢
  -- the plan may have asked for entries; nothing failed of the whole, so nothing failed of the plan
  have hplanned := hplan (clean_of_bind hclean)
  rw [runOn_bind_some hplanned] at hclean hresult ⊢
  obtain ⟨⟨r, hr⟩, hleft⟩ := conclude_runOn hst ((clean_append _ _).1 hclean).2
  cases hr.symm.trans hresult
  exact ⟨rfl, hleft⟩

theorem Persists.mirrors (hst : st.Backed hive) {t : FormTable} {path : String} (ht : t.Coherent)
    (hf : f.Mirrors t path (hive s)) (h : Persists st f s id v f' s') : f'.Mirrors t path (hive s') := by
  have hclean := h.clean (hf.coherent ht).ordered
  obtain ⟨c, hresult, -, rfl⟩ := h
  obtain ⟨r, hr, hout⟩ := (hf.set_ensures ht id v).runOn st s
  obtain rfl := Option.some.inj (hr.symm.trans hresult)
  rw [hst.hive_runOn _ hclean]
  exact (hout.mirrors ht hf hclean).1

inductive Sets (st : Store (StateM σ)) : Form → σ → List (String × Int32) → Form → σ → Prop
  | nil (f : Form) (s : σ) : Sets st f s [] f s
  | cons {f f₁ f' : Form} {s s₁ s' : σ} {id : String} {v : Int32} {sets : List (String × Int32)}
    (hset : Persists st f s id v f₁ s₁) (hrest : Sets st f₁ s₁ sets f' s') : Sets st f s ((id, v) :: sets) f' s'

theorem Sets.mirrors (hst : st.Backed hive) {t : FormTable} {path : String} (ht : t.Coherent)
    {sets : List (String × Int32)} (h : Sets st f s sets f' s') (hf : f.Mirrors t path (hive s)) :
    f'.Mirrors t path (hive s') := by
  induction h with
  | nil f s => exact hf
  | cons hset hrest ih => exact ih (hset.mirrors hst ht hf)

theorem readBack_disengaged (hst : st.Backed hive) {path : String} {bs : List Binding}
    (hkeys : ∀ c ∈ bs, ∃ key, c.key = some key ∧
      ∀ raw, (hive s).getDword path key = .ok raw → raw.filter g.engagedBy = none)
    (hvs : ∀ c ∈ bs, vs.find? c.id = some (vs.value c.id))
    (hc : Clean ((readBack path g bs vs).runOn st s).1.steps) :
    ((readBack path g bs vs).runOn st s).1.result = some (vs, .entries (storedValues vs bs)) := by
  induction bs generalizing s with
  | nil => rfl
  | cons c bs ih =>
    obtain ⟨⟨key, hkey, hraw⟩, hkeys⟩ := List.forall_mem_cons.1 hkeys
    obtain ⟨hvalue, hvs⟩ := List.forall_mem_cons.1 hvs
    rw [readBack, hkey] at hc ⊢
    dsimp only at hc ⊢
    rw [runOn_request] at hc ⊢
    dsimp only [Transcript.cons] at hc ⊢
    obtain ⟨hok, hrest⟩ := (clean_asked _ _ _).1 hc
    obtain ⟨raw, ha⟩ := failure?_eq_none.1 hok
    have hread : hive (st (.getDword path key) s).2 = hive s := hst.after ha
    have hrestored : restored? g c vs raw = some (vs.value c.id) := by
      rw [restored?, hraw raw (hst.answer ha)]
    rw [ha] at hrest ⊢
    dsimp only at hrest ⊢
    rw [hrestored] at hrest ⊢
    dsimp only at hrest ⊢
    rw [Values.set_eq_self hvalue] at hrest ⊢
    have htail := ih (by rwa [hread]) hvs (clean_of_bind hrest)
    rw [runOn_bind_some htail]
    rw [storedValues_cons hkey]
    rfl

theorem plan_release (hg : f.table.sentinelGate? b.id = some g) :
    f.plan b 0 = pure (f.values.set g.toggle 0, .entries (sentinelValues g (f.table.known g.governs))) := by
  rw [plan, hg]
  rfl

theorem plan_engage (hg : f.table.sentinelGate? b.id = some g) :
    f.plan b 1 = readBack f.path g (f.table.known g.governs) (f.values.set g.toggle 1) := by
  rw [plan, hg]
  rfl

theorem engagedBy_sentinel {n : Int32} (hn : g.sentinel = some n) : g.engagedBy n = false := by
  simp [Gate.engagedBy, hn]

theorem mem_sentinelValues {bs : List Binding} {x : String × Int32} {n : Int32} (hn : g.sentinel = some n) :
    x ∈ sentinelValues g bs ↔ (∃ c ∈ bs, c.key = some x.1) ∧ x.2 = n := by
  obtain ⟨key, m⟩ := x
  simp [sentinelValues, hn, eq_comm]

section

variable (hst : st.Backed hive) (hv : f.table.validate? = some none) (hb : b ∈ f.table.bindings)
  (hbox : b.control.IsCheckbox) (hg : f.table.sentinelGate? b.id = some g)

include hst hv hb hbox hg

theorem switched_off (h : Persists st f s b.id 0 f' s') :
    f' = { f with values := f.values.set b.id 0 } ∧ ∃ n, g.sentinel = some n ∧
      ∀ id ∈ g.governs, ∃ c ∈ f.table.bindings, c.id = id ∧ ∃ key, c.key = some key ∧
        (hive s').getDword f.path key = .ok (some n) := by
  obtain ⟨hmem, htoggle, hs⟩ := FormTable.sentinelGate?_eq_some hg
  have hclamp : b.clamp? 0 = some 0 := (Control.takes_checkbox hbox).2 (.inl rfl)
  obtain ⟨hleft, hwritten⟩ := h.of_plan hst hv hb hclamp fun _ => by
    rw [plan_release hg]
    rfl
  rw [plan_release hg] at hwritten
  rw [htoggle] at hleft
  obtain ⟨n, hn⟩ := Option.isSome_iff_exists.1 hs
  refine ⟨hleft, n, hn, fun id hid => ?_⟩
  obtain ⟨c, hc, rfl, hkeyed⟩ := ((FormTable.wellFormed_of_validate? hv).sentinels g hmem hs).2 id hid
  obtain ⟨key, hkey⟩ := Option.isSome_iff_exists.1 hkeyed
  have hknown : c ∈ f.table.known g.governs :=
    List.mem_filterMap.2 ⟨c.id, hid, FormTable.binding?_of_ids (FormTable.ids_of_validate? hv) hc⟩
  have hentry : (hive s').get? f.path key = some (.dword n) := by
    rw [hwritten]
    refine Hive.get?_write_of_mem (fun w hw _ => ((mem_sentinelValues hn).1 hw).2) ⟨(key, n), ?_, SameName.refl key⟩
    exact (mem_sentinelValues hn).2 ⟨⟨c, hknown, hkey⟩, rfl⟩
  exact ⟨c, hc, rfl, key, hkey, by rw [Hive.getDword, hentry]⟩

theorem switched_on (hheld : f.values.Held f.table) {n : Int32} (hn : g.sentinel = some n)
    (hkeys : ∀ id ∈ g.governs, ∃ c ∈ f.table.bindings, c.id = id ∧ ∃ key, c.key = some key ∧
      (hive s).getDword f.path key = .ok (some n)) (h : Persists st f s b.id 1 f' s') :
    f' = { f with values := f.values.set b.id 1 } := by
  obtain ⟨-, htoggle, -⟩ := FormTable.sentinelGate?_eq_some hg
  have hclamp : b.clamp? 1 = some 1 := (Control.takes_checkbox hbox).2 (.inr rfl)
  have hset : (f.values.set g.toggle 1).Held f.table := hheld.set fun _ _ _ _ => .inr rfl
  have hdisengaged : ∀ c ∈ f.table.known g.governs, ∃ key, c.key = some key ∧
      ∀ raw, (hive s).getDword f.path key = .ok raw → raw.filter g.engagedBy = none := by
    intro c hc
    obtain ⟨id, hid, hfind⟩ := List.mem_filterMap.1 hc
    obtain ⟨c', hc', rfl, key, hkey, hread⟩ := hkeys id hid
    have hfound := FormTable.binding?_of_ids (FormTable.ids_of_validate? hv) hc'
    obtain rfl : c' = c := Option.some.inj (hfound.symm.trans hfind)
    refine ⟨key, hkey, fun raw hraw => ?_⟩
    obtain rfl : some n = raw := Except.ok.inj (hread.symm.trans hraw)
    exact Option.filter_some_neg (by simp [engagedBy_sentinel hn])
  have hplan : Clean ((f.plan b 1).runOn st s).1.steps → ((f.plan b 1).runOn st s).1.result =
      some (f.values.set g.toggle 1, .entries (storedValues (f.values.set g.toggle 1) (f.table.known g.governs))) := by
    rw [plan_engage hg]
    exact readBack_disengaged hst hdisengaged fun c hc => (hset c (FormTable.mem_of_known hc)).value_eq
  rw [(h.of_plan hst hv hb hclamp hplan).1, htoggle]

theorem switched_off_on (hheld : f.values.Held f.table) (hon : f.value b.id ≠ 0) {off : Form} {s₁ : σ}
    (hoff : Persists st f s b.id 0 off s₁) (hback : Persists st off s₁ b.id 1 f' s') : f' = f := by
  obtain ⟨rfl, n, hn, hkeys⟩ := switched_off hst hv hb hbox hg hoff
  have hleft := switched_on (f := { f with values := f.values.set b.id 0 }) hst hv hb hbox hg
    (hheld.set fun _ _ _ _ => .inl rfl) hn hkeys hback
  -- a checkbox that is not 0 holds 1, which is what it is set back to
  have hone : f.values.find? b.id = some 1 := by
    rw [(hheld b hb).value_eq, ((hheld b hb).checkbox hbox).resolve_left hon]
  rw [hleft]
  exact congrArg (fun vs => { f with values := vs }) (Values.set_back hone 0)

end

theorem plan_member (hg : f.table.sentinelGate? b.id = none) (he : f.table.exclusiveOf? b.id = some e) (v : Int32) :
    ∃ vs ws, f.plan b v = pure (vs, .entries ws) ∧
      ∀ id, (∀ m ∈ e.members, m.1 ≠ id) → vs.find? id = f.values.find? id := by
  obtain ⟨-, k, hk, hid⟩ := FormTable.exclusiveOf?_eq_some he
  unfold plan
  rw [hg, he]
  dsimp only
  split
  case isTrue =>
    refine ⟨_, _, rfl, fun id hother => ?_⟩
    rw [Values.find?_set_of_ne fun h => hother k hk (hid.trans h)]
  case isFalse =>
    refine ⟨_, _, rfl, fun id hother => ?_⟩
    rw [Values.find?_set_of_ne fun h => hother k hk (hid.trans h), Values.find?_uncheckAll hother]

section

variable (hst : st.Backed hive)

include hst

theorem Persists.member (hv : f.table.validate? = some none) (he : e ∈ f.table.exclusives) (hapart : f.table.Apart e)
    {m : String × Int32} (hm : m ∈ e.members) (h : Persists st f s m.1 v f' s') :
    ∃ vs, f' = { f with values := vs } ∧ ∀ id, (∀ m ∈ e.members, m.1 ≠ id) → vs.find? id = f.values.find? id := by
  obtain ⟨b, hb, hid, -⟩ := (FormTable.wellFormed_of_validate? hv).members e he m hm
  have hgroup := hapart.exclusiveOf?_member he hm
  have hnone := hapart.toggles m hm
  rw [← hid] at h hgroup hnone
  obtain ⟨w, hw, -⟩ := h.planned (FormTable.binding?_of_ids (FormTable.ids_of_validate? hv) hb)
  obtain ⟨vs, ws, hplan, hothers⟩ := plan_member hnone hgroup w
  have hmade : ((f.plan b w).runOn st s).1.result = some (vs, .entries ws) := by
    rw [hplan]
    rfl
  exact ⟨vs, (h.of_plan hst hv hb hw fun _ => hmade).1, hothers⟩

theorem Sets.members {sets : List (String × Int32)} (h : Sets st f s sets f' s') (hv : f.table.validate? = some none)
    (he : e ∈ f.table.exclusives) (hapart : f.table.Apart e) (hheld : f.values.Held f.table)
    (hsets : ∀ x ∈ sets, ∃ m ∈ e.members, m.1 = x.1) :
    ∃ vs, f' = { f with values := vs } ∧ vs.Held f.table ∧
      ∀ id, (∀ m ∈ e.members, m.1 ≠ id) → vs.find? id = f.values.find? id := by
  induction h with
  | nil f s => exact ⟨f.values, rfl, hheld, fun _ _ => rfl⟩
  | cons hset hrest ih =>
    obtain ⟨⟨m, hm, rfl⟩, hmore⟩ := List.forall_mem_cons.1 hsets
    obtain ⟨vs, rfl, hothers⟩ := hset.member hst hv he hapart hm
    obtain ⟨vs', heq, hheld'⟩ := hset.lasts (Values.held_lasting hv) hheld
    obtain rfl : vs = vs' := congrArg Form.values heq
    obtain ⟨vs', rfl, hheld'', hothers'⟩ := ih hv he hapart hheld' hmore
    exact ⟨vs', rfl, hheld'', fun id hid => (hothers' id hid).trans (hothers id hid)⟩

theorem Sets.unchecked {sets : List (String × Int32)} (h : Sets st f s sets f' s') (hv : f.table.validate? = some none)
    (he : e ∈ f.table.exclusives) (hapart : f.table.Apart e) (hheld : f.values.Held f.table)
    (hsets : ∀ x ∈ sets, ∃ m ∈ e.members, m.1 = x.1) (hstart : ∀ m ∈ e.members, f.value m.1 = 0)
    (hend : ∀ m ∈ e.members, f'.value m.1 = 0) : f' = f := by
  obtain ⟨vs, rfl, hheld', hothers⟩ := h.members hst hv he hapart hheld hsets
  refine congrArg (fun vs => { f with values := vs }) (SortedMap.ext_find? fun id => ?_)
  by_cases hmember : ∃ m ∈ e.members, m.1 = id
  · obtain ⟨m, hm, rfl⟩ := hmember
    obtain ⟨b, hb, hid, -⟩ := (FormTable.wellFormed_of_validate? hv).members e he m hm
    have hzero : vs.value b.id = 0 := hid ▸ hend m hm
    have hwas : f.values.value b.id = 0 := hid ▸ hstart m hm
    rw [← hid, (hheld' b hb).value_eq, (hheld b hb).value_eq, hzero, hwas]
  · exact hothers id fun m hm hid => hmember ⟨m, hm, hid⟩

end

/-- Changes that are taken back: an override that is on is switched off and on again, or members of a group of which
none is checked are set until none is checked again. -/
inductive Cycle (st : Store (StateM σ)) (f : Form) (s : σ) (f' : Form) (s' : σ) : Prop
  | override {b : Binding} {g : Gate} {off : Form} {s₁ : σ} (hb : b ∈ f.table.bindings)
    (hg : f.table.sentinelGate? b.id = some g) (hbox : b.control.IsCheckbox) (hon : f.value b.id ≠ 0)
    (hoff : Persists st f s b.id 0 off s₁) (hback : Persists st off s₁ b.id 1 f' s')
  | group {e : Exclusive} {sets : List (String × Int32)} (he : e ∈ f.table.exclusives) (hapart : f.table.Apart e)
    (hstart : ∀ m ∈ e.members, f.value m.1 = 0) (hmembers : ∀ x ∈ sets, ∃ m ∈ e.members, m.1 = x.1)
    (hsets : Sets st f s sets f' s') (hend : ∀ m ∈ e.members, f'.value m.1 = 0)

theorem Cycle.restores (hst : st.Backed hive) (hv : f.table.validate? = some none) (hheld : f.values.Held f.table)
    (h : Cycle st f s f' s') : f' = f := by
  cases h with
  | override hb hg hbox hon hoff hback => exact switched_off_on hst hv hb hbox hg hheld hon hoff hback
  | group he hapart hstart hmembers hsets hend => exact hsets.unchecked hst hv he hapart hheld hmembers hstart hend

theorem Cycle.mirrors (hst : st.Backed hive) {t : FormTable} {path : String} (ht : t.Coherent)
    (hf : f.Mirrors t path (hive s)) (h : Cycle st f s f' s') : f'.Mirrors t path (hive s') := by
  cases h with
  | override _ _ _ _ hoff hback => exact hback.mirrors hst ht (hoff.mirrors hst ht hf)
  | group _ _ _ _ hsets _ => exact hsets.mirrors hst ht hf

theorem Cycle.not_exempt {p : Panel} (hf : f.table = p.table) (h : Cycle st f s f' s') (id : String) :
    ¬ f.Exempt id := by
  have ht : f.table.Coherent := hf ▸ p.coherent
  have hkinds : (∀ g ∈ f.table.gates, g.sentinel = none) ∨ f.table.exclusives = [] := by
    rw [hf]
    cases p <;> decide
  cases h with
  | @override b g _ _ hb hg _ hon _ _ =>
    obtain ⟨hmem, htoggle, hs⟩ := FormTable.sentinelGate?_eq_some hg
    have hnone := hkinds.resolve_left fun h => by simp [h g hmem] at hs
    rintro (⟨g', hg', hs', -, hoff⟩ | ⟨e, he, -⟩)
    · rw [ht.eq_of_sentinel hg' hmem hs' hs, htoggle] at hoff
      exact hon hoff
    · rw [hnone] at he
      cases he
  | @group e _ he _ hstart _ _ _ =>
    have hplain := hkinds.resolve_right fun h => by simp [h] at he
    rintro (⟨g, hg, hs, -⟩ | ⟨e', he', -, m, hm, hchecked⟩)
    · simp [hplain g hg] at hs
    · rw [ht.exclusives_eq he, List.mem_singleton] at he'
      exact hchecked (hstart m (he' ▸ hm))

/-- Switching off and on again loses nothing. While an override is off, all that it governs holds the sentinel; what
it governs, and what a group shadows, comes back from the form. No other writer comes in between: the runs follow
each other. On the panels that are shipped a form that is opened afterwards shows what the live one showed before. -/
theorem switching_loses_nothing {t : FormTable} (hst : st.Backed hive) (hv : t.validate? = some none) (s : σ)
    (path : String) (as : List Action) :
    let run := (loaded t path >>= performAll as).runOn st s
    ∃ live, run.1.result = some live ∧
      (∀ b ∈ t.bindings, ∀ g off s₁, t.sentinelGate? b.id = some g → b.control.IsCheckbox →
        Persists st live run.2 b.id 0 off s₁ → ∃ n, g.sentinel = some n ∧ ∀ id ∈ g.governs,
          ∃ c ∈ t.bindings, c.id = id ∧ ∃ key, c.key = some key ∧ (hive s₁).getDword path key = .ok (some n)) ∧
      ∀ back s', Cycle st live run.2 back s' → back = live ∧
        ∀ p d, t = Panel.table p → path = p.path d → Clean run.1.steps →
          let again := (p.openForm d).runOn st s'
          let contents := (p.openForm d).runOn hiveStore (hive s')
          ∃ fresh, Clean contents.1.steps ∧ contents.1.result = some fresh ∧
            (Clean again.1.steps → again.1.result = some fresh) ∧
            (∀ b ∈ t.bindings, fresh.value b.id = live.value b.id) ∧
            ∀ id, (fresh.setInteractive live.interactive).isEnabled id = live.isEnabled id := by
  intro run
  have hP := Values.held_lasting hv
  obtain ⟨live, hlive, -, rfl, rfl, hheld⟩ := ((invariant_over hP path).reached (over_new hP path) as).runOn st s
  refine ⟨live, hlive, fun b hb g off s₁ hg hbox hoff => (switched_off hst hv hb hbox hg hoff).2,
    fun back s' hcycle => ?_⟩
  have hback : back = live := hcycle.restores hst hv hheld
  refine ⟨hback, fun p d htable hpath hc => ?_⟩
  have ht : p.table.Coherent := p.coherent
  have hreached : ∃ f, run.1.result = some f ∧ f.Mirrors live.table live.path (hive run.2) :=
    loaded_performAll_mirrors hst (htable ▸ ht) live.path as hc
  change run.1.result = some live at hlive
  clear_value run
  obtain ⟨live', hlive', hmirrors⟩ := hreached
  obtain rfl : live' = live := Option.some.inj (hlive'.symm.trans hlive)
  rw [htable, hpath] at hmirrors
  have hleft : live'.Mirrors p.table (p.path d) (hive s') := hback ▸ hcycle.mirrors hst ht hmirrors
  obtain ⟨fresh, hcontents, hfresh, hagain, hmirrors'⟩ := hleft.reopened hst
  exact ⟨fresh, hcontents, hfresh, hagain,
    fun b hb => hleft.value_of_not_exempt ht hmirrors' (htable ▸ hb) (hcycle.not_exempt htable b.id),
    hleft.isEnabled_eq ht hmirrors'⟩

theorem switching_loses_nothing_rates :
    let run := (Panel.experimental.openForm .bundled >>= performAll [.set "timing_bias" (-15)]).runOn memoryStore {}
    ∃ live s', run.1.result = some live ∧
      Sets memoryStore live run.2 [("force_half", 1), ("force_third", 1), ("force_third", 0)] live s' ∧
      ∃ fresh, ((Panel.experimental.openForm .bundled).runOn hiveStore s'.hive).1.result = some fresh ∧
        fresh.value "timing_bias" = -15 := by
  intro run
  let biased : Form := { new Pimax.experimental "SOFTWARE\\PimaxXR" with
    values := (Values.defaults Pimax.experimental).set "timing_bias" (-15) }
  let half : Form := { biased with
    values := ((biased.values.set "force_half" 0).set "force_third" 0).set "force_half" 1 }
  let third : Form := { biased with
    values := ((half.values.set "force_half" 0).set "force_third" 0).set "force_third" 1 }
  let back : Form := { biased with values := third.values.set "force_third" 0 }
  let s₁ := ((biased.set "force_half" 1).runOn memoryStore run.2).2
  let s₂ := ((half.set "force_third" 1).runOn memoryStore s₁).2
  let s₃ := ((third.set "force_third" 0).runOn memoryStore s₂).2
  have hv : Pimax.experimental.validate? = some none := by decide +kernel
  have hclean : Clean run.1.steps := by decide +kernel
  have hrun : run.1.result = some biased := by decide +kernel
  have hhalf : Persists memoryStore biased run.2 "force_half" 1 half s₁ :=
    ⟨⟨"force_half", 1, true⟩, rfl, rfl, rfl⟩
  have hthird : Persists memoryStore half s₁ "force_third" 1 third s₂ :=
    ⟨⟨"force_third", 1, true⟩, rfl, rfl, rfl⟩
  have hback : Persists memoryStore third s₂ "force_third" 0 back s₃ :=
    ⟨⟨"force_third", 0, true⟩, rfl, rfl, rfl⟩
  have hsets : Sets memoryStore biased run.2 [("force_half", 1), ("force_third", 1), ("force_third", 0)] back s₃ :=
    .cons hhalf (.cons hthird (.cons hback (.nil _ _)))
  have hcycle : Cycle memoryStore biased run.2 back s₃ :=
    .group List.mem_cons_self ⟨by decide +kernel, by decide⟩ (by decide +kernel) (by decide) hsets (by decide +kernel)
  obtain ⟨live, hlive, -, hrestores⟩ := switching_loses_nothing memoryStore_backed hv {} "SOFTWARE\\PimaxXR" _
  obtain rfl : live = biased := Option.some.inj (hlive.symm.trans hrun)
  obtain ⟨hsame, hpanel⟩ := hrestores back s₃ hcycle
  obtain ⟨fresh, -, hfresh, -, hvalues, -⟩ := hpanel .experimental .bundled rfl rfl hclean
  rw [hsame] at hsets
  obtain ⟨b, hb, hid⟩ : ∃ b ∈ Pimax.experimental.bindings, b.id = "timing_bias" := by decide +kernel
  have hbias := hvalues b hb
  rw [hid] at hbias
  exact ⟨biased, s₃, hrun, hsets, fresh, hfresh, hbias⟩

end Form

end XrPanel
