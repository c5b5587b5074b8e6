import XrPanel.Proofs.FormWrites

namespace XrPanel

open Text

variable {t : FormTable} {s s' : Snapshot} {b c : Binding}

namespace FormTable

theorem engaged_iff {g : Gate} : Values.engaged t s g = true ↔
    ∃ c ∈ t.known g.governs, ∃ n, c.key.bind s.raw? = some n ∧ g.engagedBy n = true := by
  rw [Values.engaged, List.any_eq_true]
  refine exists_congr fun c => and_congr_right fun _ => ?_
  cases c.key.bind s.raw? with
  | none => simp
  | some n => simp

theorem engaged_congr {g : Gate} (h : ∀ c ∈ t.known g.governs, c.key.bind s.raw? = c.key.bind s'.raw?) :
    Values.engaged t s g = Values.engaged t s' g := by
  rw [Bool.eq_iff_iff, engaged_iff, engaged_iff]
  refine exists_congr fun c => and_congr_right fun hc => ?_
  rw [h c hc]

structure Agree (t : FormTable) (s s' : Snapshot) (b : Binding) : Prop where
  own : b.key.bind s.raw? = b.key.bind s'.raw?
  gates : ∀ g ∈ t.gates, g.sentinel.isSome → g.toggle = b.id ∨ b.id ∈ g.governs →
    Values.engaged t s g = Values.engaged t s' g
  groups : ∀ e ∈ t.exclusives, b.id ∈ e.shadowed ∨ (∃ m ∈ e.members, m.1 = b.id) → e.code s = e.code s'

theorem Agree.masked (h : t.Agree s s' b) : t.Masked s b ↔ t.Masked s' b := by
  apply or_congr
  · refine exists_congr fun g => and_congr_right fun hg => and_congr_right fun hs => and_congr_right fun hid => ?_
    rw [h.gates g hg hs (.inr hid)]
  · refine exists_congr fun e => and_congr_right fun he => and_congr_right fun hid => ?_
    rw [Exclusive.Selects, Exclusive.Selects, h.groups e he (.inl hid)]

theorem Agree.shown (h : t.Agree s s' b) : t.shown s b = t.shown s' b := by
  cases hg : t.sentinelGate? b.id with
  | some g =>
    obtain ⟨hmem, htoggle, hs⟩ := sentinelGate?_eq_some hg
    rw [shown_toggle hg, shown_toggle hg, h.gates g hmem hs (.inl htoggle)]
  | none =>
    cases he : t.exclusiveOf? b.id with
    | some e =>
      obtain ⟨hmem, hmember⟩ := exclusiveOf?_eq_some he
      rw [shown_member hg he, shown_member hg he, h.groups e hmem (.inr hmember)]
    | none =>
      by_cases hm : t.Masked s b
      · rw [shown_masked hg he hm, shown_masked hg he (h.masked.1 hm)]
      · rw [shown_plain hg he hm, shown_plain hg he fun h' => hm (h.masked.2 h'), Binding.plain, Binding.plain, h.own]

namespace Coherent

variable (ht : t.Coherent)

include ht

theorem not_masked_of_keyless (hb : b ∈ t.bindings) (hk : b.key = none) : ¬ t.Masked s b := by
  rintro (⟨g, hg, hs, hid, -⟩ | ⟨e, he, hid, -⟩)
  · exact ht.not_governed_of_keyless hb hk hg hs hid
  · exact ht.not_shadowed_of_keyless hb hk he hid

theorem plain_of_keyed (hb : b ∈ t.bindings) (hk : b.key.isSome) :
    t.sentinelGate? b.id = none ∧ t.exclusiveOf? b.id = none := by
  have hn : ¬ ((t.sentinelGate? b.id).isSome ∨ (t.exclusiveOf? b.id).isSome) := by
    intro h
    rw [(ht.derived b hb h).1] at hk
    cases hk
  simpa using hn

theorem plain_of_stored (hb : b ∈ t.bindings) {v : Int32} (hv : b.control.Takes v)
    (hown : b.key.bind s.raw? = some (b.toStored v)) : b.plain s = v := by
  have hback : b.fromStored? (b.toStored v) = some v := Control.fromStored?_toStored (ht.fits b hb) hv
  rw [Binding.plain, hown, Option.bind_some, hback, Option.getD_some]

theorem shown_of_stored (hb : b ∈ t.bindings) (hk : b.key.isSome) {v : Int32} (hv : b.control.Takes v)
    (hown : b.key.bind s.raw? = some (b.toStored v)) (hm : ¬ t.Masked s b) : t.shown s b = v := by
  obtain ⟨hg, he⟩ := ht.plain_of_keyed hb hk
  rw [shown_plain hg he hm, ht.plain_of_stored hb hv hown]

theorem sentinelGate?_member (hb : b ∈ t.bindings) {e : Exclusive} (he : t.exclusiveOf? b.id = some e) :
    t.sentinelGate? b.id = none := by
  rcases ht.oneSource b hb with h | h
  · exact h
  · rw [he] at h
    cases h

theorem shown_unselected {e : Exclusive} {m : String × Int32} (he : e ∈ t.exclusives) (hc : c ∈ t.bindings)
    (hm : m ∈ e.members) (hid : m.1 = c.id) (hcode : e.codeOf? c.id ≠ some (e.code s)) : t.shown s c = 0 := by
  have hof : t.exclusiveOf? c.id = some e := ht.exclusiveOf?_member he hm hid
  rw [shown_member (ht.sentinelGate?_member hc hof) hof, if_neg hcode]

theorem engagedBy_pos {g : Gate} (hg : g ∈ t.gates) {n : Int32} (hn : 0 < n) : g.engagedBy n = true := by
  unfold Gate.engagedBy
  cases hs : g.sentinel with
  | none => rfl
  | some x =>
    have hx : x ≤ 0 := by simpa [hs] using ht.negative g hg
    have hne : n ≠ x := fun h => Int32.not_lt.2 hx (h ▸ hn)
    simp [hne, hn]

theorem engagedBy_stored {g : Gate} (hg : g ∈ t.gates) (hs : g.sentinel.isSome) (hb : b ∈ t.bindings)
    (hid : b.id ∈ g.governs) {v : Int32} (hv : b.control.Takes v) : g.engagedBy (b.toStored v) = true := by
  obtain ⟨c, hc, hcid, -, hpos⟩ := (ht.governed g hg hs b.id hid).1
  rw [ht.eq_of_id hc hb hcid] at hpos
  exact ht.engagedBy_pos hg (Control.toStored_pos (ht.fits b hb) hpos hv)

end Coherent

end FormTable

namespace Form

variable {f : Form} {h : Hive} {ws : Writes} {vs : Values} {v n : Int32} {k : String}

def stored (f : Form) (h : Hive) : Snapshot := Snapshot.collect h f.path f.table.ownedKeys .empty

theorem raw?_stored (hk : k ∈ f.table.ownedKeys) : (f.stored h).raw? k = h.dword? f.path k := by
  rw [stored, Snapshot.raw?_collect, if_pos hk]

theorem owned_of_key (hb : b ∈ f.table.bindings) (hk : b.key = some k) : k ∈ f.table.ownedKeys := by
  rw [FormTable.ownedKeys, List.mem_eraseDups, List.mem_append, List.mem_append]
  exact .inl (.inl (List.mem_filterMap.2 ⟨b, hb, hk⟩))

theorem owned_of_exclusive {e : Exclusive} (he : e ∈ f.table.exclusives) : e.key ∈ f.table.ownedKeys := by
  rw [FormTable.ownedKeys, List.mem_eraseDups, List.mem_append, List.mem_append]
  exact .inl (.inr (List.mem_map_of_mem he))

theorem raw?_kept (hk : k ∈ f.table.ownedKeys) (hw : ∀ w ∈ ws, ¬ SameName w.1 k) :
    (f.stored (h.write f.path ws)).raw? k = (f.stored h).raw? k := by
  rw [raw?_stored hk, raw?_stored hk, Hive.dword?_write_of_not_mem hw]

theorem raw?_written (hk : k ∈ f.table.ownedKeys) (hv : ∀ w ∈ ws, SameName w.1 k → w.2 = n)
    (hex : ∃ w ∈ ws, SameName w.1 k) : (f.stored (h.write f.path ws)).raw? k = some n := by
  rw [raw?_stored hk, Hive.dword?_write_of_mem hv hex]

theorem own_kept (hb : b ∈ f.table.bindings) (hw : ∀ w ∈ ws, ∀ k ∈ b.key, ¬ SameName w.1 k) :
    b.key.bind (f.stored h).raw? = b.key.bind (f.stored (h.write f.path ws)).raw? := by
  cases hk : b.key with
  | none => rfl
  | some k => exact (raw?_kept (owned_of_key hb hk) fun w hmem => hw w hmem k hk).symm

theorem own_written (hb : b ∈ f.table.bindings) (hk : b.key = some k) :
    b.key.bind (f.stored (h.write f.path [(k, n)])).raw? = some n := by
  rw [hk]
  apply raw?_written (owned_of_key hb hk)
  · simp
  · exact ⟨(k, n), List.mem_singleton_self _, SameName.refl k⟩

theorem plain_writes (hk : b.key = some k) :
    (b.key.toList.map fun key => (key, b.toStored v)) = [(k, b.toStored v)] := by
  rw [hk]
  rfl

def WritesTo (t : FormTable) (ids : List String) (ws : Writes) : Prop :=
  ∀ w ∈ ws, ∃ c ∈ t.bindings, c.id ∈ ids ∧ c.key = some w.1

section

variable (ht : f.table.Coherent) {ids : List String}

include ht

theorem WritesTo.spares (hws : WritesTo f.table ids ws) (hb : b ∈ f.table.bindings) (hid : b.id ∉ ids) :
    ∀ w ∈ ws, ∀ k ∈ b.key, ¬ SameName w.1 k := by
  intro w hw k hk hname
  obtain ⟨c, hc, hcid, hkey⟩ := hws w hw
  rw [ht.eq_of_key hc hb hkey hk hname] at hcid
  exact hid hcid

theorem WritesTo.spares_code (hws : WritesTo f.table ids ws) {e : Exclusive} (he : e ∈ f.table.exclusives) :
    ∀ w ∈ ws, ¬ SameName w.1 e.key := by
  intro w hw hname
  obtain ⟨c, hc, -, hkey⟩ := hws w hw
  exact ht.codeEntry e he c hc w.1 hkey hname.symm

theorem engaged_kept {g : Gate} (hw : ∀ c ∈ f.table.known g.governs, ∀ w ∈ ws, ∀ k ∈ c.key, ¬ SameName w.1 k) :
    Values.engaged f.table (f.stored h) g = Values.engaged f.table (f.stored (h.write f.path ws)) g :=
  FormTable.engaged_congr fun c hc => own_kept (ht.mem_known.1 hc).1 (hw c hc)

theorem WritesTo.code_kept (hws : WritesTo f.table ids ws) {e : Exclusive} (he : e ∈ f.table.exclusives) :
    e.code (f.stored h) = e.code (f.stored (h.write f.path ws)) := by
  rw [Exclusive.code, Exclusive.code, raw?_kept (owned_of_exclusive he) (hws.spares_code ht he)]

theorem WritesTo.code_written (hws : WritesTo f.table ids ws) {e : Exclusive} (he : e ∈ f.table.exclusives) :
    e.code (f.stored (h.write f.path ((e.key, n) :: ws))) = n := by
  rw [Exclusive.code, raw?_written (n := n) (owned_of_exclusive he)]
  · rfl
  · intro w hw hname
    rcases List.mem_cons.1 hw with rfl | hw
    · rfl
    · exact absurd hname (hws.spares_code ht he w hw)
  · exact ⟨_, List.mem_cons_self, SameName.refl _⟩

theorem known_bindings : ∀ c ∈ f.table.known ids, c ∈ f.table.bindings := fun _ hc => (ht.mem_known.1 hc).1

theorem storedValues_writesTo : WritesTo f.table ids (storedValues vs (f.table.known ids)) := by
  intro w hw
  obtain ⟨c, hc, hkey, -⟩ := mem_storedValues.1 hw
  exact ⟨c, known_bindings ht c hc, (ht.mem_known.1 hc).2, hkey⟩

theorem sentinelValues_writesTo {g : Gate} : WritesTo f.table ids (sentinelValues g (f.table.known ids)) := by
  intro w hw
  obtain ⟨key, hkey, rfl⟩ := List.mem_map.1 hw
  obtain ⟨c, hc, hk⟩ := List.mem_filterMap.1 hkey
  exact ⟨c, known_bindings ht c hc, (ht.mem_known.1 hc).2, hk⟩

theorem companions_writesTo {e : Exclusive} (he : e ∈ f.table.exclusives) :
    WritesTo f.table e.shadowed e.companions := ht.companions e he

theorem own_storedValues {bs : List Binding} (hbs : ∀ c ∈ bs, c ∈ f.table.bindings) (hb : b ∈ bs)
    (hkey : b.key.isSome) (pre : Writes) (hpre : ∀ w ∈ pre, ∀ k ∈ b.key, ¬ SameName w.1 k) :
    b.key.bind (f.stored (h.write f.path (pre ++ storedValues vs bs))).raw? = some (b.toStored (vs.value b.id)) := by
  obtain ⟨k, hk⟩ := Option.isSome_iff_exists.1 hkey
  rw [hk]
  apply raw?_written (owned_of_key (hbs b hb) hk)
  · intro w hw hname
    rcases List.mem_append.1 hw with hw | hw
    · exact absurd hname (hpre w hw k hk)
    · obtain ⟨c, hc, hck, hn⟩ := mem_storedValues.1 hw
      rw [hn, ht.eq_of_key (hbs c hc) (hbs b hb) hck hk hname]
  · exact ⟨(k, _), List.mem_append_right _ (mem_storedValues.2 ⟨b, hb, hk, rfl⟩), SameName.refl k⟩

theorem engaged_written {g : Gate} (hg : g ∈ f.table.gates) (hs : g.sentinel.isSome) (hfit : vs.Fit f.table) :
    Values.engaged f.table (f.stored (h.write f.path (storedValues vs (f.table.known g.governs)))) g = true := by
  obtain ⟨id, hid⟩ := List.exists_mem_of_ne_nil _ (ht.sentinels g hg hs).1
  obtain ⟨c, hc, rfl, hkey, -⟩ := (ht.governed g hg hs id hid).1
  have hknown : c ∈ f.table.known g.governs := ht.mem_known.2 ⟨hc, hid⟩
  refine FormTable.engaged_iff.2 ⟨c, hknown, c.toStored (vs.value c.id), ?_, ?_⟩
  · exact own_storedValues ht (known_bindings ht) hknown hkey [] (by simp)
  · exact ht.engagedBy_stored hg hs hc hid (hfit c hc)

theorem engaged_by_own {g : Gate} (hg : g ∈ f.table.gates) (hs : g.sentinel.isSome) (hb : b ∈ f.table.bindings)
    (hid : b.id ∈ g.governs) (hk : b.key = some k) (hv : b.control.Takes v) :
    Values.engaged f.table (f.stored (h.write f.path [(k, b.toStored v)])) g = true :=
  FormTable.engaged_iff.2
    ⟨b, ht.mem_known.2 ⟨hb, hid⟩, b.toStored v, own_written hb hk, ht.engagedBy_stored hg hs hb hid hv⟩

theorem not_engaged_released {g : Gate} (hs : g.sentinel.isSome) :
    Values.engaged f.table (f.stored (h.write f.path (sentinelValues g (f.table.known g.governs)))) g = false := by
  obtain ⟨x, hx⟩ := Option.isSome_iff_exists.1 hs
  rw [Bool.eq_false_iff]
  intro he
  obtain ⟨c, hc, n, hown, hn⟩ := FormTable.engaged_iff.1 he
  obtain ⟨k, hk, hraw⟩ := Option.bind_eq_some_iff.1 hown
  let ws : Writes := sentinelValues g (f.table.known g.governs)
  have hmem : (k, g.sentinel.getD (-1)) ∈ ws := List.mem_map_of_mem (List.mem_filterMap.2 ⟨c, hc, hk⟩)
  have hall : ∀ w ∈ ws, SameName w.1 k → w.2 = x := by
    intro w hw _
    obtain ⟨key, -, rfl⟩ := List.mem_map.1 hw
    simp [hx]
  have hwritten : (f.stored (h.write f.path ws)).raw? k = some x :=
    raw?_written (owned_of_key (known_bindings ht c hc) hk) hall ⟨_, hmem, SameName.refl k⟩
  obtain rfl : x = n := Option.some.inj (hwritten.symm.trans hraw)
  simp [Gate.engagedBy, hx] at hn

theorem Planned.shown (hb : b ∈ f.table.bindings) (hv : b.control.Takes v) (hfit : vs.Fit f.table)
    (hplan : Planned f b v vs ws)
    (hstill : (f.table.exclusiveOf? b.id).isSome → vs.value b.id = 0 → f.value b.id = 0 →
      f.table.shown (f.stored h) b = 0)
    (hm : ¬ f.table.Masked (f.stored (h.write f.path ws)) b) :
    f.table.shown (f.stored (h.write f.path ws)) b = vs.value b.id := by
  cases hplan with
  | plain hg he =>
    obtain ⟨k, hk⟩ := Option.isSome_iff_exists.1 (ht.keyed b hb hg he)
    rw [plain_writes hk] at hm ⊢
    rw [ht.shown_of_stored hb (by simp [hk]) hv (own_written hb hk) hm, Values.value_set, if_pos rfl]
  | @check e hg he hv =>
    obtain ⟨n, hn⟩ := FormTable.codeOf?_of_exclusiveOf? he
    have hmem := (FormTable.exclusiveOf?_eq_some he).1
    rw [FormTable.shown_member hg he, (companions_writesTo ht hmem).code_written ht hmem, hn]
    simp
  | @uncheck e hg he hv hold =>
    have hmem := (FormTable.exclusiveOf?_eq_some he).1
    rw [FormTable.shown_member hg he, (storedValues_writesTo ht).code_written ht hmem,
      if_neg (ht.codeOf?_ne_none hmem b.id)]
    simp
  | still hg he hv hold =>
    have hzero : (f.values.set b.id 0).value b.id = 0 := by rw [Values.value_set, if_pos rfl]
    rw [hzero]
    exact hstill (by rw [he]; rfl) hzero hold
  | @engage g vs hg hzero others =>
    obtain ⟨hmem, htoggle, hs⟩ := FormTable.sentinelGate?_eq_some hg
    obtain ⟨hkey, hbox⟩ := ht.derived b hb (.inl (by simp [hg]))
    have hnot : ∀ c ∈ f.table.known g.governs, c.id ≠ b.id := by
      intro c hc hid
      rw [ht.eq_of_id (known_bindings ht c hc) hb hid] at hc
      exact ht.not_governed_of_keyless hb hkey hmem hs (ht.mem_known.1 hc).2
    have hone : v = 1 := ((Control.takes_checkbox hbox).1 hv).resolve_left hzero
    rw [FormTable.shown_toggle hg, engaged_written ht hmem hs hfit, if_pos rfl, others b.id hnot, Values.value_set,
      if_pos htoggle, hone]
  | @release g hg hzero =>
    obtain ⟨hmem, htoggle, hs⟩ := FormTable.sentinelGate?_eq_some hg
    rw [FormTable.shown_toggle hg, not_engaged_released ht hs, Values.value_set, if_pos htoggle, hzero]
    simp

def Shows (f : Form) (h : Hive) : Prop :=
  ∀ b ∈ f.table.bindings, ¬ f.table.Masked (f.stored h) b → f.table.shown (f.stored h) b = f.value b.id

omit ht in
theorem Shows.of_agree (hshows : f.Shows h) (hc : c ∈ f.table.bindings) (hagree : f.table.Agree (f.stored h) s' c)
    (hval : vs.value c.id = f.value c.id) (hm : ¬ f.table.Masked s' c) : f.table.shown s' c = vs.value c.id := by
  rw [← hagree.shown, hshows c hc fun h => hm (hagree.masked.1 h), hval]

theorem toggle_not_masked {g : Gate} (hg : g ∈ f.table.gates) :
    ∃ b ∈ f.table.bindings, b.id = g.toggle ∧ ¬ f.table.Masked s b := by
  obtain ⟨b, hb, hid, hgov, hsh⟩ := ht.toggles g hg
  refine ⟨b, hb, hid, ?_⟩
  rintro (⟨g', hg', hs', hid', -⟩ | ⟨e, he, hid', -⟩)
  · exact hgov g' hg' hs' hid'
  · exact hsh e he hid'

theorem Shows.value_toggle (hshows : f.Shows h) {g : Gate} (hg : g ∈ f.table.gates) (hs : g.sentinel.isSome) :
    f.value g.toggle = if Values.engaged f.table (f.stored h) g then 1 else 0 := by
  obtain ⟨b, hb, hid, hm⟩ := toggle_not_masked (s := f.stored h) ht hg
  rw [← hid, ← hshows b hb hm, FormTable.shown_toggle (hid ▸ ht.sentinelGate?_toggle hg hs)]

theorem Shows.value_selected (hshows : f.Shows h) {e : Exclusive} (he : e ∈ f.table.exclusives) {m : String × Int32}
    (hm : m ∈ e.members) (hcode : e.code (f.stored h) = m.2) : f.value m.1 = 1 := by
  obtain ⟨-, b, hb, hid⟩ := ht.codes e he m hm
  have hof : f.table.exclusiveOf? b.id = some e := ht.exclusiveOf?_member he hm hid.symm
  have hkeyless : b.key = none := (ht.derived b hb (.inr (by rw [hof]; rfl))).1
  rw [← hid, ← hshows b hb (ht.not_masked_of_keyless hb hkeyless),
    FormTable.shown_member (ht.sentinelGate?_member hb hof) hof, if_pos]
  rw [hid, hcode, ht.codeOf?_member he hm]

theorem Shows.engaged_of_enabled (hshows : f.Shows h) (hen : f.isEnabled b.id = true) {g : Gate}
    (hg : g ∈ f.table.gates) (hs : g.sentinel.isSome) (hid : b.id ∈ g.governs) :
    Values.engaged f.table (f.stored h) g = true := by
  have hinv : g.inverted = false := (ht.sentinels g hg hs).2.2
  have hopen : g.isOpen (f.value g.toggle) = true := by
    have hall := ((Bool.and_eq_true _ _).mp hen).2
    exact List.all_eq_true.1 hall g (List.mem_filter.2 ⟨hg, by simpa using hid⟩)
  rw [Gate.isOpen, hshows.value_toggle ht hg hs, hinv] at hopen
  by_contra hno
  simp [hno] at hopen

theorem agree_of_writesTo {ids : List String} (hws : WritesTo f.table ids ws) (hc : c ∈ f.table.bindings)
    (hid : c.id ∉ ids) (hgates : ∀ g ∈ f.table.gates, g.sentinel.isSome → g.toggle = c.id ∨ c.id ∈ g.governs →
      Values.engaged f.table (f.stored h) g = Values.engaged f.table (f.stored (h.write f.path ws)) g) :
    f.table.Agree (f.stored h) (f.stored (h.write f.path ws)) c :=
  ⟨own_kept hc (hws.spares ht hc hid), hgates, fun _ he _ => hws.code_kept ht he⟩

theorem agree_of_gate {g : Gate} (hg : g ∈ f.table.gates) (hs : g.sentinel.isSome)
    (hws : WritesTo f.table g.governs ws) (hc : c ∈ f.table.bindings) (htoggle : g.toggle ≠ c.id)
    (hid : c.id ∉ g.governs) : f.table.Agree (f.stored h) (f.stored (h.write f.path ws)) c := by
  refine agree_of_writesTo ht hws hc hid fun g' hg' hs' hor => ?_
  rw [ht.eq_of_sentinel hg' hg hs' hs] at hor
  exact (hor.elim htoggle hid).elim

theorem agree_of_exclusive {e : Exclusive} (he : e ∈ f.table.exclusives) (hws : WritesTo f.table e.shadowed ws)
    (hc : c ∈ f.table.bindings) (hid : c.id ∉ e.shadowed) (hmember : ∀ m ∈ e.members, m.1 ≠ c.id) :
    f.table.Agree (f.stored h) (f.stored (h.write f.path ((e.key, n) :: ws))) c := by
  have hspares : ∀ c ∈ f.table.bindings, c.id ∉ e.shadowed → ∀ w ∈ (e.key, n) :: ws, ∀ k ∈ c.key, ¬ SameName w.1 k :=
    fun c hc hid => List.forall_mem_cons.2 ⟨ht.codeEntry e he c hc, hws.spares ht hc hid⟩
  refine ⟨own_kept hc (hspares c hc hid), fun g hg hs _ => ?_, fun e' he' hor => ?_⟩
  · apply engaged_kept ht
    intro c' hc'
    obtain ⟨hmem, hgov⟩ := ht.mem_known.1 hc'
    exact hspares c' hmem ((ht.governed g hg hs c'.id hgov).2 e he)
  · obtain rfl : e' = e := by simpa [ht.exclusives_eq he] using he'
    rcases hor with hsh | ⟨m, hm, hmid⟩
    · exact absurd hsh hid
    · exact absurd hmid (hmember m hm)

theorem Shows.code_of_checked (hshows : f.Shows h) (hb : b ∈ f.table.bindings) {e : Exclusive}
    (he : f.table.exclusiveOf? b.id = some e) (hold : f.value b.id ≠ 0) :
    e.codeOf? b.id = some (e.code (f.stored h)) := by
  have hkeyless : b.key = none := (ht.derived b hb (.inr (by simp [he]))).1
  have hvalue := hshows b hb (ht.not_masked_of_keyless hb hkeyless)
  rw [FormTable.shown_member (ht.sentinelGate?_member hb he) he] at hvalue
  by_contra hno
  rw [if_neg hno] at hvalue
  exact hold hvalue.symm

theorem Shows.unchecked_of_other (hshows : f.Shows h) {e : Exclusive} (he : e ∈ f.table.exclusives)
    (hb : e.codeOf? b.id = some (e.code (f.stored h))) (hc : c ∈ f.table.bindings) {m : String × Int32}
    (hm : m ∈ e.members) (hid : m.1 = c.id) (hne : b.id ≠ c.id) : f.value c.id = 0 := by
  have hkeyless : c.key = none := (ht.derived c hc (.inr (by simp [ht.exclusiveOf?_member he hm hid]))).1
  rw [← hshows c hc (ht.not_masked_of_keyless hc hkeyless)]
  apply ht.shown_unselected he hc hm hid
  exact fun h => hne (ht.codeOf?_inj he hb h)

section

variable (hshows : f.Shows h) (hc : c ∈ f.table.bindings) (hne : b.id ≠ c.id)

include hshows hc hne

theorem Shows.other_after_plain (hb : b ∈ f.table.bindings) (hen : f.isEnabled b.id = true) (hv : b.control.Takes v)
    (hk : b.key = some k) (hm : ¬ f.table.Masked (f.stored (h.write f.path [(k, b.toStored v)])) c) :
    f.table.shown (f.stored (h.write f.path [(k, b.toStored v)])) c = (f.values.set b.id v).value c.id := by
  have hws : WritesTo f.table [b.id] [(k, b.toStored v)] := by
    simp only [WritesTo, List.mem_singleton, forall_eq]
    exact ⟨b, hb, rfl, hk⟩
  have hgates : ∀ g ∈ f.table.gates, g.sentinel.isSome → Values.engaged f.table (f.stored h) g =
      Values.engaged f.table (f.stored (h.write f.path [(k, b.toStored v)])) g := by
    intro g hg hs
    by_cases hid : b.id ∈ g.governs
    · -- the gate was engaged before, or else the control would not be enabled
      rw [hshows.engaged_of_enabled ht hen hg hs hid]
      exact (engaged_by_own ht hg hs hb hid hk hv).symm
    · apply engaged_kept ht
      intro c' hc'
      obtain ⟨hmem, hgov⟩ := ht.mem_known.1 hc'
      apply hws.spares ht hmem
      rw [List.mem_singleton]
      intro h
      exact hid (h ▸ hgov)
  have hval : (f.values.set b.id v).value c.id = f.value c.id := Values.value_set_of_ne hne v
  exact hshows.of_agree hc
    (agree_of_writesTo ht hws hc (by simpa using Ne.symm hne) fun g hg hs _ => hgates g hg hs) hval hm

theorem Shows.other_after_check {e : Exclusive} (he : f.table.exclusiveOf? b.id = some e) (hn : e.codeOf? b.id = some n)
    (hm : ¬ f.table.Masked (f.stored (h.write f.path ((e.key, n) :: e.companions))) c) :
    f.table.shown (f.stored (h.write f.path ((e.key, n) :: e.companions))) c =
      ((e.members.foldl (fun vs m => vs.set m.1 0) f.values).set b.id 1).value c.id := by
  have hmem := (FormTable.exclusiveOf?_eq_some he).1
  have hws := companions_writesTo ht hmem
  have hcode : e.code (f.stored (h.write f.path ((e.key, n) :: e.companions))) = n := hws.code_written ht hmem
  rw [Values.value_set_of_ne hne, Values.value_uncheckAll]
  by_cases hmember : ∃ m ∈ e.members, m.1 = c.id
  · obtain ⟨m, hm', hid⟩ := hmember
    rw [if_pos ⟨m, hm', hid⟩]
    apply ht.shown_unselected hmem hc hm' hid
    rw [hcode]
    exact fun h => hne (ht.codeOf?_inj hmem hn h)
  · rw [if_neg hmember]
    have hsh : c.id ∉ e.shadowed := fun hid => hm (.inr ⟨e, hmem, hid, _, Exclusive.mem_of_codeOf? hn, hcode⟩)
    exact hshows.of_agree hc (agree_of_exclusive ht hmem hws hc hsh fun m hm' hid => hmember ⟨m, hm', hid⟩) rfl hm

theorem Shows.other_after_uncheck (hb : b ∈ f.table.bindings) {e : Exclusive}
    (he : f.table.exclusiveOf? b.id = some e) (hold : f.value b.id ≠ 0) (hfit : (f.values.set b.id 0).Fit f.table)
    (hm : ¬ f.table.Masked (f.stored (h.write f.path
      ((e.key, e.none) :: storedValues (f.values.set b.id 0) (f.table.known e.shadowed)))) c) :
    f.table.shown (f.stored (h.write f.path
      ((e.key, e.none) :: storedValues (f.values.set b.id 0) (f.table.known e.shadowed)))) c =
        (f.values.set b.id 0).value c.id := by
  have hmem := (FormTable.exclusiveOf?_eq_some he).1
  have hws : WritesTo f.table e.shadowed (storedValues (f.values.set b.id 0) (f.table.known e.shadowed)) :=
    storedValues_writesTo ht
  have hval : (f.values.set b.id 0).value c.id = f.value c.id := Values.value_set_of_ne hne 0
  by_cases hmember : ∃ m ∈ e.members, m.1 = c.id
  · obtain ⟨m, hm', hid⟩ := hmember
    have hselected := hshows.code_of_checked ht hb he hold
    rw [hval, hshows.unchecked_of_other ht hmem hselected hc hm' hid hne]
    apply ht.shown_unselected hmem hc hm' hid
    rw [hws.code_written ht hmem]
    exact ht.codeOf?_ne_none hmem c.id
  · by_cases hsh : c.id ∈ e.shadowed
    · -- it was masked until now, and its entry is written anew
      have hkey := ht.key_of_shadowed hc hmem hsh
      apply ht.shown_of_stored hc hkey (hfit c hc) _ hm
      exact own_storedValues ht (known_bindings ht) (ht.mem_known.2 ⟨hc, hsh⟩) hkey [(e.key, e.none)]
        (List.forall_mem_cons.2 ⟨ht.codeEntry e hmem c hc, by simp⟩)
    · exact hshows.of_agree hc (agree_of_exclusive ht hmem hws hc hsh fun m hm' hid => hmember ⟨m, hm', hid⟩) hval hm

theorem Shows.other_after_engage {g : Gate} (hg : f.table.sentinelGate? b.id = some g) (hfit : vs.Fit f.table)
    (others : ∀ id, (∀ c ∈ f.table.known g.governs, c.id ≠ id) → vs.value id = (f.values.set g.toggle v).value id)
    (hm : ¬ f.table.Masked (f.stored (h.write f.path (storedValues vs (f.table.known g.governs)))) c) :
    f.table.shown (f.stored (h.write f.path (storedValues vs (f.table.known g.governs)))) c = vs.value c.id := by
  obtain ⟨hmem, htoggle, hs⟩ := FormTable.sentinelGate?_eq_some hg
  by_cases hid : c.id ∈ g.governs
  · have hkey := ht.key_of_governed hc hmem hs hid
    apply ht.shown_of_stored hc hkey (hfit c hc) _ hm
    exact own_storedValues ht (known_bindings ht) (ht.mem_known.2 ⟨hc, hid⟩) hkey [] (by simp)
  · have hval : vs.value c.id = f.value c.id :=
      (others c.id fun c' hc' h => hid (h ▸ (ht.mem_known.1 hc').2)).trans (Values.value_set_of_ne (htoggle ▸ hne) v)
    exact hshows.of_agree hc (agree_of_gate ht hmem hs (storedValues_writesTo ht) hc (htoggle ▸ hne) hid) hval hm

theorem Shows.other_after_release {g : Gate} (hg : f.table.sentinelGate? b.id = some g)
    (hm : ¬ f.table.Masked (f.stored (h.write f.path (sentinelValues g (f.table.known g.governs)))) c) :
    f.table.shown (f.stored (h.write f.path (sentinelValues g (f.table.known g.governs)))) c =
      (f.values.set g.toggle v).value c.id := by
  obtain ⟨hmem, htoggle, hs⟩ := FormTable.sentinelGate?_eq_some hg
  have hid : c.id ∉ g.governs := fun hid => hm (.inl ⟨g, hmem, hs, hid, not_engaged_released ht hs⟩)
  have hval : (f.values.set g.toggle v).value c.id = f.value c.id := Values.value_set_of_ne (htoggle ▸ hne) v
  exact hshows.of_agree hc (agree_of_gate ht hmem hs (sentinelValues_writesTo ht) hc (htoggle ▸ hne) hid) hval hm

theorem Planned.shown_other (hb : b ∈ f.table.bindings) (hen : f.isEnabled b.id = true) (hv : b.control.Takes v)
    (hfit : vs.Fit f.table) (hplan : Planned f b v vs ws) (hm : ¬ f.table.Masked (f.stored (h.write f.path ws)) c) :
    f.table.shown (f.stored (h.write f.path ws)) c = vs.value c.id := by
  cases hplan with
  | plain hg he =>
    obtain ⟨k, hk⟩ := Option.isSome_iff_exists.1 (ht.keyed b hb hg he)
    rw [plain_writes hk] at hm ⊢
    exact hshows.other_after_plain ht hc hne hb hen hv hk hm
  | check _ he _ =>
    obtain ⟨n, hn⟩ := FormTable.codeOf?_of_exclusiveOf? he
    rw [hn] at hm ⊢
    exact hshows.other_after_check ht hc hne he hn hm
  | uncheck _ he _ hold => exact hshows.other_after_uncheck ht hc hne hb he hold hfit hm
  | still _ _ _ _ =>
    change f.table.shown (f.stored h) c = _
    rw [hshows c hc hm]
    exact (Values.value_set_of_ne hne 0).symm
  | engage hg _ others => exact hshows.other_after_engage ht hc hne hg hfit others hm
  | release hg _ => exact hshows.other_after_release ht hc hne hg hm

end

end

end Form

end XrPanel
