import XrPanel.Form.Basic
import XrPanel.Proofs.ShownValues
import XrPanel.Proofs.StoredNumbers
import XrPanel.Proofs.TableRanges

namespace XrPanel

open Script

variable {t : FormTable} {f : Form} {b : Binding} {v : Int32}

def Values.Fit (t : FormTable) (vs : Values) : Prop := ∀ b ∈ t.bindings, b.control.Takes (vs.value b.id)

theorem Values.Fit.set_of {vs : Values} {id : String} (h : vs.Fit t)
    (hv : ∀ c ∈ t.bindings, c.id = id → c.control.Takes v) : (vs.set id v).Fit t := by
  intro c hc
  rw [value_set]
  split
  case isTrue hid => exact hv c hc hid.symm
  case isFalse => exact h c hc

theorem Values.Fit.set {vs : Values} (ht : t.Coherent) (h : vs.Fit t) (hb : b ∈ t.bindings) (hv : b.control.Takes v) :
    (vs.set b.id v).Fit t :=
  h.set_of fun _ hc hid => ht.eq_of_id hb hc hid.symm ▸ hv

theorem Values.value_uncheckAll (ms : List (String × Int32)) (vs : Values) (id : String) :
    (ms.foldl (fun vs m => vs.set m.1 0) vs).value id = if ∃ m ∈ ms, m.1 = id then 0 else vs.value id := by
  induction ms generalizing vs with
  | nil => simp
  | cons m ms ih =>
    rw [List.foldl_cons, ih, value_set]
    by_cases hm : m.1 = id
    · simp [hm]
    · rw [if_neg hm]
      exact if_congr (by simp [hm]) rfl rfl

theorem Values.Fit.mark {vs : Values} {ms : List (String × Int32)} {w : String × Int32 → Int32} (h : vs.Fit t)
    (hw : ∀ m ∈ ms, ∀ c ∈ t.bindings, c.id = m.1 → c.control.Takes (w m)) :
    (ms.foldl (fun vs m => vs.set m.1 (w m)) vs).Fit t :=
  List.foldlRecOn ms _ h fun _ hvs m hm => hvs.set_of (hw m hm)

namespace Form

theorem writeEach_ensures (path : String) (ws : Writes) :
    (writeEach path ws).Ensures fun l ok =>
      (ok = true ↔ Clean l) ∧ (Clean l → ∀ h, effects l h = h.setEach path ws) := by
  induction ws with
  | nil => exact ⟨by simp, fun _ _ => rfl⟩
  | cons w ws ih =>
    rw [writeEach, ensures_bind, ensures_request]
    rintro (e | x)
    · refine ⟨by simp [failure?], fun hc => ?_⟩
      simp [failure?] at hc
    · rw [ensures_bind]
      refine ih.mono fun l ok hl => ⟨?_, fun hc h => ?_⟩
      · simpa [failure?] using hl.1
      · have hclean : Clean l := by simpa [failure?] using hc
        exact hl.2 hclean _

theorem writeAll_ensures (path : String) (ws : Writes) :
    (writeAll path ws).Ensures fun l ok => (ok = true ↔ Clean l) ∧ (Clean l → ∀ h, effects l h = h.write path ws) := by
  unfold writeAll Hive.write
  split
  case isTrue => exact ⟨by simp, fun _ _ => rfl⟩
  case isFalse =>
    rw [ensures_bind, ensures_request]
    rintro (e | x)
    · refine ⟨by simp [failure?], fun hc => ?_⟩
      simp [failure?] at hc
    · refine (writeEach_ensures path ws).mono fun l ok hl => ⟨?_, fun hc h => ?_⟩
      · simpa [failure?] using hl.1
      · have hclean : Clean l := by simpa [failure?] using hc
        exact hl.2 hclean _

theorem storedValues_cons {vs : Values} {bs : List Binding} {key : String} (hkey : b.key = some key) :
    storedValues vs (b :: bs) = (key, b.toStored (vs.value b.id)) :: storedValues vs bs :=
  List.filterMap_cons_some (by rw [hkey]; rfl)

theorem storedValues_cons_keyless {vs : Values} {bs : List Binding} (hkey : b.key = none) :
    storedValues vs (b :: bs) = storedValues vs bs :=
  List.filterMap_cons_none (by rw [hkey]; rfl)

theorem mem_storedValues {vs : Values} {bs : List Binding} {w : String × Int32} :
    w ∈ storedValues vs bs ↔ ∃ b ∈ bs, b.key = some w.1 ∧ w.2 = b.toStored (vs.value b.id) := by
  obtain ⟨key, n⟩ := w
  simp only [storedValues, List.mem_filterMap, Option.map_eq_some_iff, Prod.mk.injEq]
  constructor
  · rintro ⟨b, hb, key, hkey, rfl, rfl⟩
    exact ⟨b, hb, hkey, rfl⟩
  · rintro ⟨b, hb, hkey, rfl⟩
    exact ⟨b, hb, key, hkey, rfl, rfl⟩

def sentinelValues (g : Gate) (bs : List Binding) : Writes :=
  (bs.filterMap (·.key)).map fun key => (key, g.sentinel.getD (-1))

/-- How reading back has gone: only the controls that were read back have new values, which they take, and
unless an entry could not be read these values are the ones to write. -/
structure HasReadBack (bs : List Binding) (vs : Values) (l : List Step) (r : Values × ReadBack) : Prop where
  others : ∀ id, (∀ b ∈ bs, b.id ≠ id) → r.1.value id = vs.value id
  takes : ∀ b ∈ bs, b.control.Takes (r.1.value b.id)
  effects_eq : ∀ h, effects l h = h
  ending : Clean l ∧ r.2 = .entries (storedValues r.1 bs) ∨ ¬ Clean l ∧ r.2 = .unreadable

theorem restored?_takes {g : Gate} {vs : Values} (htakes : b.control.Takes (vs.value b.id))
    (raw : Option Int32) : ∃ w, restored? g b vs raw = some w ∧ b.control.Takes w := by
  unfold restored?
  split
  case h_1 n _ => exact Control.clamp?_takes htakes (Measure.fromStored n b.control.scale)
  case h_2 => exact ⟨_, rfl, htakes⟩

theorem HasReadBack.skip {bs : List Binding} {vs : Values} {l : List Step} {r : Values × ReadBack}
    (hr : HasReadBack bs vs l r) (hb : ∀ c ∈ bs, b.id ≠ c.id) (hkey : b.key = none)
    (htakes : b.control.Takes (vs.value b.id)) : HasReadBack (b :: bs) vs l r := by
  have hstays : r.1.value b.id = vs.value b.id := hr.others b.id fun c hc => Ne.symm (hb c hc)
  refine ⟨fun id hid => hr.others id (List.forall_mem_cons.1 hid).2, ?_, hr.effects_eq, ?_⟩
  · exact List.forall_mem_cons.2 ⟨hstays ▸ htakes, hr.takes⟩
  · rw [storedValues_cons_keyless hkey]
    exact hr.ending

theorem HasReadBack.cons {bs : List Binding} {vs : Values} {l : List Step} {r : Values × ReadBack} {path key : String}
    (hr : HasReadBack bs (vs.set b.id v) l r) (hb : ∀ c ∈ bs, b.id ≠ c.id) (hkey : b.key = some key)
    (hv : b.control.Takes v) :
    HasReadBack (b :: bs) vs (.asked (.getDword path key) none :: l) (r.1, r.2.cons (key, b.toStored v)) := by
  have hset : r.1.value b.id = v := by
    rw [hr.others b.id fun c hc => Ne.symm (hb c hc), Values.value_set, if_pos rfl]
  refine ⟨fun id hid => ?_, List.forall_mem_cons.2 ⟨hset.symm ▸ hv, hr.takes⟩, hr.effects_eq, ?_⟩
  · obtain ⟨hne, hid⟩ := List.forall_mem_cons.1 hid
    rw [hr.others id hid, Values.value_set_of_ne hne]
  · rcases hr.ending with ⟨hc, he⟩ | ⟨hc, he⟩
    · refine .inl ⟨by simpa using hc, ?_⟩
      rw [he, storedValues_cons hkey, hset]
      rfl
    · refine .inr ⟨by simpa using hc, ?_⟩
      rw [he]
      rfl

theorem readBack_ensures (path : String) (g : Gate) {bs : List Binding} {vs : Values}
    (hids : bs.Pairwise fun b c => b.id ≠ c.id)
    (htakes : ∀ b ∈ bs, b.control.Takes (vs.value b.id)) :
    (readBack path g bs vs).Ensures (HasReadBack bs vs) := by
  induction bs generalizing vs with
  | nil => exact ⟨fun _ _ => rfl, by simp, fun _ => rfl, .inl ⟨clean_nil, rfl⟩⟩
  | cons b bs ih =>
    obtain ⟨hb, hids⟩ := List.pairwise_cons.1 hids
    obtain ⟨htake, htakes⟩ := List.forall_mem_cons.1 htakes
    rw [readBack]
    cases hkey : b.key with
    | none => exact (ih hids htakes).mono fun l r hr => hr.skip hb hkey htake
    | some key =>
      change (request _ >>= _).Ensures _
      rw [ensures_bind, ensures_request]
      rintro (e | raw)
      · refine ⟨fun _ _ => rfl, List.forall_mem_cons.2 ⟨htake, htakes⟩, fun _ => rfl, .inr ⟨?_, rfl⟩⟩
        simp [failure?]
      · obtain ⟨w, hw, hwtakes⟩ := restored?_takes (g := g) htake raw
        dsimp only
        rw [hw]
        change (readBack path g bs (vs.set b.id w) >>= _).Ensures _
        rw [ensures_bind]
        -- the rest starts from values in which only this control has changed
        have htakes' : ∀ c ∈ bs, c.control.Takes ((vs.set b.id w).value c.id) := by
          intro c hc
          rw [Values.value_set_of_ne (hb c hc)]
          exact htakes c hc
        refine (ih hids htakes').mono fun l r hr => ?_
        change HasReadBack (b :: bs) vs ([Step.asked _ none] ++ (l ++ [])) (r.1, r.2.cons (key, b.toStored w))
        rw [List.append_nil]
        exact hr.cons hb hkey hwtakes

structure ReadsBack (P : Values → Prop) (path : String) (bs : List Binding) (l : List Step) (r : Values × ReadBack) :
    Prop where
  reads : ∀ x ∈ l, x.Asks (Request.Reads path (bs.filterMap (·.key)))
  values : P r.1
  ending : r.2 = .unreadable ∨ ∃ ws, r.2 = .entries ws ∧ ∀ w ∈ ws, w.1 ∈ bs.filterMap (·.key)

theorem readBack_readsBack (path : String) (g : Gate) {P : Values → Prop} {bs : List Binding} {vs : Values}
    (hstep : ∀ b ∈ bs, ∀ vs raw, P vs → ∃ w, restored? g b vs raw = some w ∧ P (vs.set b.id w)) (hvs : P vs) :
    (readBack path g bs vs).Ensures (ReadsBack P path bs) := by
  induction bs generalizing vs with
  | nil => exact ⟨by simp, hvs, .inr ⟨[], rfl, by simp⟩⟩
  | cons b bs ih =>
    obtain ⟨hb, hbs⟩ := List.forall_mem_cons.1 hstep
    rw [readBack]
    cases hkey : b.key with
    | none =>
      refine (ih hbs hvs).mono fun l r hr => ?_
      have hkeys : (b :: bs).filterMap (·.key) = bs.filterMap (·.key) := List.filterMap_cons_none hkey
      exact ⟨hkeys ▸ hr.reads, hr.values, hkeys ▸ hr.ending⟩
    | some key =>
      have hkeys : (b :: bs).filterMap (·.key) = key :: bs.filterMap (·.key) := List.filterMap_cons_some hkey
      have hhead : ∀ e, (Step.asked (.getDword path key) e).Asks (Request.Reads path ((b :: bs).filterMap (·.key))) :=
        fun e => ⟨rfl, hkeys ▸ List.mem_cons_self⟩
      change (request _ >>= _).Ensures _
      rw [ensures_bind, ensures_request]
      rintro (e | raw)
      · exact ⟨List.forall_mem_cons.2 ⟨hhead _, by simp [Step.Asks]⟩, hvs, .inl rfl⟩
      · obtain ⟨w, hw, hset⟩ := hb vs raw hvs
        dsimp only
        rw [hw]
        change (readBack path g bs (vs.set b.id w) >>= _).Ensures _
        rw [ensures_bind]
        refine (ih hbs hset).mono fun l r hr => ⟨?_, hr.values, ?_⟩
        · have hrest : ∀ x ∈ l, x.Asks (Request.Reads path ((b :: bs).filterMap (·.key))) := fun x hx =>
            (hr.reads x hx).imp fun _ h => h.mono fun k hk => hkeys ▸ List.mem_cons_of_mem _ hk
          change ∀ x ∈ [Step.asked _ none] ++ (l ++ []), _
          rw [List.append_nil]
          exact List.forall_mem_cons.2 ⟨hhead _, hrest⟩
        · change r.2.cons (key, b.toStored w) = _ ∨ ∃ ws, r.2.cons (key, b.toStored w) = .entries ws ∧ _
          rw [hkeys]
          rcases hr.ending with he | ⟨ws, he, hws⟩
          · exact .inl (by rw [he]; rfl)
          · refine .inr ⟨(key, b.toStored w) :: ws, by rw [he]; rfl, ?_⟩
            exact List.forall_mem_cons.2 ⟨List.mem_cons_self, fun w hw => List.mem_cons_of_mem _ (hws w hw)⟩

/-- The kinds of change that can be persisted, each with the values that it leaves in the form and the entries
that it writes. -/
inductive Planned (f : Form) (b : Binding) (v : Int32) : Values → Writes → Prop
  | plain (hg : f.table.sentinelGate? b.id = none) (he : f.table.exclusiveOf? b.id = none) :
    Planned f b v (f.values.set b.id v) (b.key.toList.map fun key => (key, b.toStored v))
  | check {e : Exclusive} (hg : f.table.sentinelGate? b.id = none) (he : f.table.exclusiveOf? b.id = some e)
    (hv : v ≠ 0) : Planned f b v ((e.members.foldl (fun vs m => vs.set m.1 0) f.values).set b.id 1)
      ((e.key, (e.codeOf? b.id).getD e.none) :: e.companions)
  | uncheck {e : Exclusive} (hg : f.table.sentinelGate? b.id = none) (he : f.table.exclusiveOf? b.id = some e)
    (hv : v = 0) (hold : f.value b.id ≠ 0) : Planned f b v (f.values.set b.id 0)
      ((e.key, e.none) :: storedValues (f.values.set b.id 0) (f.table.known e.shadowed))
  | still {e : Exclusive} (hg : f.table.sentinelGate? b.id = none) (he : f.table.exclusiveOf? b.id = some e)
    (hv : v = 0) (hold : f.value b.id = 0) : Planned f b v (f.values.set b.id 0) []
  | engage {g : Gate} {vs : Values} (hg : f.table.sentinelGate? b.id = some g) (hv : v ≠ 0)
    (others : ∀ id, (∀ c ∈ f.table.known g.governs, c.id ≠ id) → vs.value id = (f.values.set g.toggle v).value id) :
    Planned f b v vs (storedValues vs (f.table.known g.governs))
  | release {g : Gate} (hg : f.table.sentinelGate? b.id = some g) (hv : v = 0) :
    Planned f b v (f.values.set g.toggle v) (sentinelValues g (f.table.known g.governs))

structure Applied (f : Form) (b : Binding) (v : Int32) (l : List Step) (r : Values × Option Bool) : Prop where
  fit : r.1.Fit f.table
  persisted : ∃ p, r.2 = some p ∧ (p = true ↔ Clean l)
  planned : Clean l → ∃ ws, Planned f b v r.1 ws ∧ ∀ h, effects l h = h.write f.path ws

theorem applied_write {vs : Values} {ws : Writes} (hfit : vs.Fit f.table) (hplan : Planned f b v vs ws) :
    (writeAll f.path ws >>= fun ok => pure (vs, some ok)).Ensures (Applied f b v) := by
  rw [ensures_bind]
  refine (writeAll_ensures f.path ws).mono fun l ok hl => ?_
  change Applied f b v (l ++ []) (vs, some ok)
  rw [List.append_nil]
  exact ⟨hfit, ⟨ok, rfl, hl.1⟩, fun hc => ⟨ws, hplan, hl.2 hc⟩⟩

section

variable (ht : f.table.Coherent) (hfit : f.values.Fit f.table) (hb : b ∈ f.table.bindings) (hv : b.control.Takes v)

include ht hfit hb hv

theorem setOverride_ensures {g : Gate} (hg : f.table.sentinelGate? b.id = some g) :
    (f.setOverride g v).Ensures (Applied f b v) := by
  obtain ⟨hmem, htoggle, hs⟩ := FormTable.sentinelGate?_eq_some hg
  have hset : (f.values.set g.toggle v).Fit f.table := htoggle ▸ hfit.set ht hb hv
  unfold setOverride
  by_cases hzero : v = 0
  · rw [if_pos hzero]
    exact applied_write hset (.release hg hzero)
  · rw [if_neg hzero]
    change (readBack _ _ _ _ >>= _).Ensures _
    rw [ensures_bind]
    have hknown : ∀ c ∈ f.table.known g.governs, c ∈ f.table.bindings := fun c hc => (ht.mem_known.1 hc).1
    refine (readBack_ensures f.path g ?_ fun c hc => hset c (hknown c hc)).mono ?_
    · exact ht.known_ids hmem hs
    · rintro l ⟨vs, ending⟩ hr
      have hvs : vs.Fit f.table := by
        intro c hc
        by_cases hk : c ∈ f.table.known g.governs
        · exact hr.takes c hk
        · have hne : ∀ c' ∈ f.table.known g.governs, c'.id ≠ c.id := fun c' hc' h =>
            hk (ht.eq_of_id (hknown c' hc') hc h ▸ hc')
          rw [hr.others c.id hne]
          exact hset c hc
      rcases hr.ending with ⟨hc, he⟩ | ⟨hc, he⟩
      · change ending = .entries (storedValues vs (f.table.known g.governs)) at he
        subst he
        refine (applied_write hvs (.engage hg hzero hr.others)).mono fun m r hm => ⟨hm.fit, ?_, fun hlm => ?_⟩
        · obtain ⟨p, hp, hiff⟩ := hm.persisted
          exact ⟨p, hp, by simp [hiff, hc]⟩
        · obtain ⟨ws, hplan, heff⟩ := hm.planned ((clean_append l m).1 hlm).2
          refine ⟨ws, hplan, fun h => ?_⟩
          rw [effects_append, hr.effects_eq, heff]
      · change ending = .unreadable at he
        subst he
        change Applied f b v (l ++ []) (vs, some false)
        rw [List.append_nil]
        exact ⟨hvs, ⟨false, rfl, by simp [hc]⟩, fun h => absurd h hc⟩

omit hv in
theorem setExclusive_ensures {e : Exclusive} (hg : f.table.sentinelGate? b.id = none)
    (he : f.table.exclusiveOf? b.id = some e) : (f.setExclusive e b.id v).Ensures (Applied f b v) := by
  have hbox : b.control.IsCheckbox := (ht.derived b hb (.inr (by simp [he]))).2
  have hzero : b.control.Takes 0 := (Control.takes_checkbox hbox).2 (.inl rfl)
  have hone : b.control.Takes 1 := (Control.takes_checkbox hbox).2 (.inr rfl)
  unfold setExclusive
  by_cases hv0 : v = 0
  · rw [if_pos hv0]
    by_cases hold : f.value b.id = 0
    · change Ensures (if f.value b.id = 0 then _ else _) _
      rw [if_pos hold]
      exact ⟨hfit.set ht hb hzero, ⟨true, rfl, by simp⟩, fun _ => ⟨[], .still hg he hv0 hold, fun _ => rfl⟩⟩
    · change Ensures (if f.value b.id = 0 then _ else _) _
      rw [if_neg hold]
      exact applied_write (hfit.set ht hb hzero) (.uncheck hg he hv0 hold)
  · rw [if_neg hv0]
    refine applied_write (Values.Fit.set ht ?_ hb hone) (.check hg he hv0)
    have hmem := (FormTable.exclusiveOf?_eq_some he).1
    exact hfit.mark fun m hm c hc hid => ht.sound.member_takes hmem hm (.inl rfl) hc hid

theorem apply_ensures : (f.apply b v).Ensures (Applied f b v) := by
  unfold apply
  cases hg : f.table.sentinelGate? b.id with
  | some g => exact setOverride_ensures ht hfit hb hv hg
  | none =>
    cases he : f.table.exclusiveOf? b.id with
    | some e => exact setExclusive_ensures ht hfit hb hg he
    | none => exact applied_write (hfit.set ht hb hv) (.plain hg he)

end

inductive SetOutcome (f : Form) : List Step → Reply Change → Prop
  | refused (e : FormError) : SetOutcome f [] ⟨f, some (.error e)⟩
  | changed {b : Binding} {v : Int32} {vs : Values} {p : Bool} {l : List Step} (hb : b ∈ f.table.bindings)
    (henabled : f.isEnabled b.id = true) (hv : b.control.Takes v) (happ : Applied f b v l (vs, some p)) :
    SetOutcome f l ⟨{ f with values := vs }, some (.ok ⟨b.id, vs.value b.id, p⟩)⟩

theorem set_ensures (ht : f.table.Coherent) (hfit : f.values.Fit f.table) (id : String) (v : Int32) :
    (f.set id v).Ensures (SetOutcome f) := by
  unfold set binding
  cases hid : f.table.binding? id with
  | none => exact .refused _
  | some b =>
    have hb : b ∈ f.table.bindings := (ht.binding?_eq_some.1 hid).1
    change Ensures (if f.isEnabled b.id = true then _ else _) _
    cases henabled : f.isEnabled b.id with
    | false => exact .refused _
    | true =>
      obtain ⟨w, hw, htakes⟩ := Control.clamp?_takes (ht.defaults b hb) v
      rw [if_pos rfl, show b.clamp? v = some w from hw]
      change (f.apply b w >>= _).Ensures _
      rw [ensures_bind]
      refine (apply_ensures ht hfit hb htakes).mono ?_
      rintro l ⟨vs, persisted⟩ happ
      obtain ⟨p, rfl, -⟩ := happ.persisted
      change SetOutcome f (l ++ []) _
      rw [List.append_nil]
      exact .changed hb henabled htakes happ

theorem setText_ensures (ht : f.table.Coherent) (hfit : f.values.Fit f.table) (id input : String) :
    (f.setText id input).Ensures (SetOutcome f) := by
  unfold setText
  cases f.binding id with
  | error e => exact .refused e
  | ok b =>
    dsimp only
    cases b.control.parse input with
    | error expected => exact .refused _
    | ok v => exact set_ensures ht hfit id v

end Form

end XrPanel
