import XrPanel.Proofs.FormActions
import XrPanel.Proofs.HiveFrame

namespace XrPanel

open Script

variable {t : FormTable} {path : String} {f : Form} {b : Binding} {v : Int32} {vs : Values} {ws : Writes}
variable {keys : List String} {P : Values → Prop}

/-- A property of what a form shows that loading brings about and that no change of a control takes away. -/
structure Values.Lasting (t : FormTable) (P : Values → Prop) : Prop where
  defaults : P (defaults t)
  stored (s : Snapshot) : ∃ vs, ofSnapshot? t s = some vs ∧ P vs
  clamps {b : Binding} (hb : b ∈ t.bindings) (v : Int32) : ∃ w, b.clamp? v = some w
  set {b : Binding} {v w : Int32} {vs : Values} (hb : b ∈ t.bindings)
    (he : t.sentinelGate? b.id = none → t.exclusiveOf? b.id = none) (hw : b.clamp? v = some w) (h : P vs) :
    P (vs.set b.id w)
  uncheck {e : Exclusive} {b : Binding} {vs : Values} (he : t.exclusiveOf? b.id = some e) (h : P vs) :
    P (vs.set b.id 0)
  check {e : Exclusive} {b : Binding} {vs : Values} (he : t.exclusiveOf? b.id = some e) (h : P vs) :
    P ((e.members.foldl (fun vs m => vs.set m.1 0) vs).set b.id 1)
  restored {g : Gate} {c : Binding} {vs : Values} (hg : g ∈ t.gates) (hs : g.sentinel.isSome)
    (hc : c ∈ t.known g.governs) (raw : Option Int32) (h : P vs) :
    ∃ w, Form.restored? g c vs raw = some w ∧ P (vs.set c.id w)

namespace Form

theorem writeEach_within (path : String) (hws : ∀ w ∈ ws, w.1 ∈ keys) :
    (writeEach path ws).Ensures fun l _ => ∀ x ∈ l, x.Asks (Request.Within path keys) := by
  induction ws with
  | nil =>
    intro x hx
    cases hx
  | cons w ws ih =>
    obtain ⟨hw, hws⟩ := List.forall_mem_cons.1 hws
    have hhead : ∀ e, (Step.asked (.setDword path w.1 w.2) e).Asks (Request.Within path keys) := fun e => ⟨rfl, hw⟩
    rw [writeEach, ensures_bind, ensures_request]
    rintro (e | x)
    · exact List.forall_mem_cons.2 ⟨hhead _, by simp [Step.Asks]⟩
    · rw [ensures_bind]
      refine (ih hws).mono fun l ok hl => ?_
      exact List.forall_mem_cons.2 ⟨hhead _, List.forall_mem_cons.2 ⟨trivial, hl⟩⟩

theorem writeAll_within (path : String) (hws : ∀ w ∈ ws, w.1 ∈ keys) :
    (writeAll path ws).Ensures fun l _ => ∀ x ∈ l, x.Asks (Request.Within path keys) := by
  unfold writeAll
  split
  case isTrue =>
    intro x hx
    cases hx
  case isFalse =>
    have hhead : ∀ e, (Step.asked (.ensurePath path) e).Asks (Request.Within path keys) := fun e => rfl
    rw [ensures_bind, ensures_request]
    rintro (e | x)
    · exact List.forall_mem_cons.2 ⟨hhead _, by simp [Step.Asks]⟩
    · exact (writeEach_within path hws).mono fun l ok hl => List.forall_mem_cons.2 ⟨hhead _, hl⟩

structure Stays (P : Values → Prop) (path : String) (keys : List String) (l : List Step) (r : Values × Option Bool) :
    Prop where
  steps : ∀ x ∈ l, x.Asks (Request.Within path keys)
  values : P r.1
  settles : ∃ p, r.2 = some p

theorem stays_write (path : String) (hvs : P vs) (hws : ∀ w ∈ ws, w.1 ∈ keys) :
    (writeAll path ws >>= fun ok => pure (vs, some ok)).Ensures (Stays P path keys) := by
  rw [ensures_bind]
  refine (writeAll_within path hws).mono fun l ok hl => ⟨?_, hvs, ok, rfl⟩
  rw [List.append_nil]
  exact hl

theorem keys_storedValues (vs : Values) (bs : List Binding) :
    ∀ w ∈ storedValues vs bs, w.1 ∈ bs.filterMap (·.key) := by
  intro w hw
  obtain ⟨b, hb, hkey, -⟩ := mem_storedValues.1 hw
  exact List.mem_filterMap.2 ⟨b, hb, hkey⟩

section

variable (hP : Values.Lasting f.table P) (hf : P f.values)

include hP

theorem setOverride_stays {g : Gate} (hg : g ∈ f.table.gates) (hs : g.sentinel.isSome)
    (hset : P (f.values.set g.toggle v)) :
    (f.setOverride g v).Ensures (Stays P f.path ((f.table.known g.governs).filterMap (·.key))) := by
  unfold setOverride
  split
  case isTrue =>
    apply stays_write f.path hset
    intro w hw
    obtain ⟨key, hkey, rfl⟩ := List.mem_map.1 hw
    exact hkey
  case isFalse =>
    change (readBack _ _ _ _ >>= _).Ensures _
    rw [ensures_bind]
    refine (readBack_readsBack f.path g (fun c hc vs raw hvs => hP.restored hg hs hc raw hvs) hset).mono ?_
    rintro l ⟨vs, ending⟩ ⟨hreads, hvs, hending⟩
    replace hreads : ∀ x ∈ l, x.Asks (Request.Within f.path ((f.table.known g.governs).filterMap (·.key))) :=
      fun x hx => (hreads x hx).imp fun _ h => h.within
    rcases hending with he | ⟨ws, he, hws⟩
    · obtain rfl : ending = .unreadable := he
      exact ⟨by rw [List.append_nil]; exact hreads, hvs, false, rfl⟩
    · obtain rfl : ending = .entries ws := he
      refine (stays_write f.path hvs hws).mono fun m r hr => ⟨?_, hr.values, hr.settles⟩
      exact List.forall_mem_append.2 ⟨hreads, hr.steps⟩

include hf

theorem setExclusive_stays {e : Exclusive} (he : f.table.exclusiveOf? b.id = some e) (v : Int32) :
    (f.setExclusive e b.id v).Ensures (Stays P f.path (e.keys ++ (f.table.known e.shadowed).filterMap (·.key))) := by
  unfold setExclusive
  split
  case isTrue =>
    have hvs : P (f.values.set b.id 0) := hP.uncheck he hf
    split
    · exact ⟨by simp, hvs, true, rfl⟩
    · apply stays_write f.path hvs
      refine List.forall_mem_cons.2 ⟨by simp [Exclusive.keys], fun w hw => ?_⟩
      exact List.mem_append_right _ (keys_storedValues _ _ w hw)
  case isFalse =>
    apply stays_write f.path (hP.check he hf)
    refine List.forall_mem_cons.2 ⟨by simp [Exclusive.keys], fun w hw => List.mem_append_left _ ?_⟩
    exact List.mem_cons_of_mem _ (List.mem_map_of_mem hw)

theorem apply_stays {w : Int32} (hb : b ∈ f.table.bindings) (hw : b.clamp? v = some w) :
    (f.apply b w).Ensures (Stays P f.path (f.table.changeKeys b)) := by
  unfold apply FormTable.changeKeys
  cases hg : f.table.sentinelGate? b.id with
  | some g =>
    obtain ⟨hmem, htoggle, hs⟩ := FormTable.sentinelGate?_eq_some hg
    have hset : P (f.values.set b.id w) := hP.set hb (by simp [hg]) hw hf
    exact setOverride_stays hP hmem hs (htoggle ▸ hset)
  | none =>
    cases he : f.table.exclusiveOf? b.id with
    | some e => exact setExclusive_stays hP hf he w
    | none =>
      apply stays_write f.path (hP.set hb (fun _ => he) hw hf)
      intro w hw
      obtain ⟨key, hkey, rfl⟩ := List.mem_map.1 hw
      exact hkey

end

inductive Touches (P : Values → Prop) (f : Form) (id : String) : List Step → Reply Change → Prop
  | refused (e : FormError) : Touches P f id [] ⟨f, some (.error e)⟩
  | changed {b : Binding} {vs : Values} {p : Bool} {l : List Step} (hid : f.table.binding? id = some b) (hvs : P vs)
    (hl : ∀ x ∈ l, x.Asks (Request.Within f.path (f.table.changeKeys b))) :
    Touches P f id l ⟨{ f with values := vs }, some (.ok ⟨b.id, vs.value b.id, p⟩)⟩

structure Over (t : FormTable) (path : String) (P : Values → Prop) (f : Form) : Prop where
  table : f.table = t
  path : f.path = path
  values : P f.values

section

variable (hP : Values.Lasting f.table P)

include hP

theorem set_touches (hf : P f.values) (id : String) (v : Int32) : (f.set id v).Ensures (Touches P f id) := by
  unfold set binding
  cases hid : f.table.binding? id with
  | none => exact .refused _
  | some b =>
    have hb : b ∈ f.table.bindings := FormTable.mem_of_binding? hid
    change Ensures (if f.isEnabled b.id = true then _ else _) _
    split
    case isFalse => exact .refused _
    case isTrue =>
      obtain ⟨w, hw⟩ := hP.clamps hb v
      rw [hw]
      change (f.apply b w >>= _).Ensures _
      rw [ensures_bind]
      refine (apply_stays hP hf hb hw).mono ?_
      rintro l ⟨vs, persisted⟩ ⟨hl, hvs, p, rfl⟩
      change Touches P f id (l ++ []) _
      rw [List.append_nil]
      exact .changed hid hvs hl

theorem setText_touches (hf : P f.values) (id input : String) : (f.setText id input).Ensures (Touches P f id) := by
  unfold setText
  cases f.binding id with
  | error e => exact .refused e
  | ok b =>
    dsimp only
    cases b.control.parse input with
    | error expected => exact .refused _
    | ok v => exact set_touches hP hf id v

theorem load_reads :
    f.load.Ensures (Keeps (Step.Asks (Request.Reads f.path f.table.ownedKeys)) (Over f.table f.path P)) := by
  unfold load
  rw [ensures_bind]
  refine (read_ensures _ _ _).mono ?_
  rintro l (e | s) hl
  all_goals
    have hreads : ∀ x ∈ l, x.Asks (Request.Reads f.path f.table.ownedKeys) := by
      intro x hx
      obtain ⟨k, hk, e, rfl⟩ := hl x hx
      exact ⟨rfl, hk⟩
  · refine ⟨?_, ⟨rfl, rfl, hP.defaults⟩, _, rfl⟩
    exact List.forall_mem_append.2 ⟨hreads, by simp [Step.Asks]⟩
  · obtain ⟨vs, hvs, h⟩ := hP.stored s
    dsimp only
    rw [hvs]
    refine ⟨?_, ⟨rfl, rfl, h⟩, _, rfl⟩
    exact List.forall_mem_append.2 ⟨hreads, by simp [Step.Asks]⟩

theorem load_quiet : f.load.Ensures (Keeps Step.Quiet (Over f.table f.path P)) :=
  (load_reads hP).mono fun _ _ hr => ⟨fun x hx => (hr.steps x hx).imp fun _ h => h.quiet, hr.form, hr.settles⟩

end

theorem over_new (hP : Values.Lasting t P) (path : String) : Over t path P (new t path) := ⟨rfl, rfl, hP.defaults⟩

theorem invariant_over (hP : Values.Lasting t P) (path : String) :
    Invariant (Step.Asks (Request.Within path t.ownedKeys)) (Over t path P) where
  tells _ := trivial
  deletes hf k hk _ := ⟨hf.path, hf.table ▸ hk⟩
  load {f} hf := by
    obtain ⟨rfl, rfl, -⟩ := hf
    exact (load_reads hP).mono fun l r hr =>
      ⟨fun x hx => (hr.steps x hx).imp fun _ h => h.within, hr.form, hr.settles⟩
  set {f} hf id v := by
    obtain ⟨rfl, rfl, hf⟩ := hf
    refine (set_touches hP hf id v).mono fun l r hr => ?_
    cases hr with
    | refused e => exact ⟨by simp, ⟨rfl, rfl, hf⟩, _, rfl⟩
    | changed hid hvs hl =>
      refine ⟨fun x hx => (hl x hx).imp fun r hr => ?_, ⟨rfl, rfl, hvs⟩, _, rfl⟩
      exact hr.mono fun k hk => FormTable.changeKeys_owned (FormTable.mem_of_binding? hid) hk
  setInteractive hf _ := ⟨hf.table, hf.path, hf.values⟩

end Form

end XrPanel
