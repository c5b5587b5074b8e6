import XrPanel.Form.Values
import XrPanel.Proofs.TableCoherence

namespace XrPanel

variable {t : FormTable} {s : Snapshot} {b : Binding}

def Binding.plain (b : Binding) (s : Snapshot) : Int32 := ((b.key.bind s.raw?).bind b.fromStored?).getD b.default

namespace Exclusive

def code (e : Exclusive) (s : Snapshot) : Int32 := (s.raw? e.key).getD e.none

def Selects (e : Exclusive) (s : Snapshot) : Prop := ∃ m ∈ e.members, e.code s = m.2

instance (e : Exclusive) (s : Snapshot) : Decidable (e.Selects s) := inferInstanceAs (Decidable (∃ m ∈ e.members, _))

end Exclusive

namespace FormTable

def Masked (t : FormTable) (s : Snapshot) (b : Binding) : Prop :=
  (∃ g ∈ t.gates, g.sentinel.isSome ∧ b.id ∈ g.governs ∧ Values.engaged t s g = false) ∨
    ∃ e ∈ t.exclusives, b.id ∈ e.shadowed ∧ e.Selects s

instance (t : FormTable) (s : Snapshot) (b : Binding) : Decidable (t.Masked s b) :=
  inferInstanceAs (Decidable (_ ∨ _))

def shown (t : FormTable) (s : Snapshot) (b : Binding) : Int32 :=
  match t.sentinelGate? b.id, t.exclusiveOf? b.id with
  | some g, _ => if Values.engaged t s g then 1 else 0
  | none, some e => if e.codeOf? b.id = some (e.code s) then 1 else 0
  | none, none => if t.Masked s b then b.default else b.plain s

theorem shown_toggle {g : Gate} (hg : t.sentinelGate? b.id = some g) :
    t.shown s b = if Values.engaged t s g then 1 else 0 := by rw [shown, hg]

theorem shown_member {e : Exclusive} (hg : t.sentinelGate? b.id = none) (he : t.exclusiveOf? b.id = some e) :
    t.shown s b = if e.codeOf? b.id = some (e.code s) then 1 else 0 := by rw [shown, hg, he]

theorem shown_masked (hg : t.sentinelGate? b.id = none) (he : t.exclusiveOf? b.id = none) (h : t.Masked s b) :
    t.shown s b = b.default := by rw [shown, hg, he, if_pos h]

theorem shown_plain (hg : t.sentinelGate? b.id = none) (he : t.exclusiveOf? b.id = none) (h : ¬ t.Masked s b) :
    t.shown s b = b.plain s := by rw [shown, hg, he, if_neg h]

namespace Coherent

variable (ht : t.Coherent)

include ht

theorem key_of_governed (hb : b ∈ t.bindings) {g : Gate} (hg : g ∈ t.gates) (hs : g.sentinel.isSome)
    (hid : b.id ∈ g.governs) : b.key.isSome := by
  obtain ⟨c, hc, hcid, hkey, -⟩ := (ht.governed g hg hs b.id hid).1
  exact ht.eq_of_id hc hb hcid ▸ hkey

theorem key_of_shadowed (hb : b ∈ t.bindings) {e : Exclusive} (he : e ∈ t.exclusives) (hid : b.id ∈ e.shadowed) :
    b.key.isSome := by
  obtain ⟨c, hc, hcid, hkey⟩ := ht.shadowed e he b.id hid
  exact ht.eq_of_id hc hb hcid ▸ hkey

theorem not_governed_of_keyless (hb : b ∈ t.bindings) (hk : b.key = none) {g : Gate} (hg : g ∈ t.gates)
    (hs : g.sentinel.isSome) : b.id ∉ g.governs := by
  intro hid
  have hkey := ht.key_of_governed hb hg hs hid
  simp [hk] at hkey

theorem not_shadowed_of_keyless (hb : b ∈ t.bindings) (hk : b.key = none) {e : Exclusive} (he : e ∈ t.exclusives) :
    b.id ∉ e.shadowed := by
  intro hid
  have hkey := ht.key_of_shadowed hb he hid
  simp [hk] at hkey

theorem plain_takes (hb : b ∈ t.bindings) : b.control.Takes (b.plain s) := by
  unfold Binding.plain
  cases hraw : (b.key.bind s.raw?).bind b.fromStored? with
  | none => exact ht.defaults b hb
  | some v =>
    obtain ⟨raw, -, hv⟩ := Option.bind_eq_some_iff.1 hraw
    obtain ⟨w, hw, htakes⟩ := Control.clamp?_takes (ht.defaults b hb) (Measure.fromStored raw b.control.scale)
    cases hw.symm.trans hv
    exact htakes

theorem checkbox_takes (hb : b ∈ t.bindings) (h : (t.sentinelGate? b.id).isSome ∨ (t.exclusiveOf? b.id).isSome)
    (p : Prop) [Decidable p] : b.control.Takes (if p then 1 else 0) := by
  apply (Control.takes_checkbox (ht.derived b hb h).2).2
  by_cases hp : p <;> simp [hp]

theorem shown_takes (hb : b ∈ t.bindings) : b.control.Takes (t.shown s b) := by
  cases hg : t.sentinelGate? b.id with
  | some g =>
    rw [shown_toggle hg]
    exact ht.checkbox_takes hb (.inl (by simp [hg])) _
  | none =>
    cases he : t.exclusiveOf? b.id with
    | some e =>
      rw [shown_member hg he]
      exact ht.checkbox_takes hb (.inr (by simp [he])) _
    | none =>
      by_cases hm : t.Masked s b
      · rw [shown_masked hg he hm]
        exact ht.defaults b hb
      · rw [shown_plain hg he hm]
        exact ht.plain_takes hb

end Coherent

end FormTable

namespace Values

variable {vs : Values}

theorem find?_set (vs : Values) (k id : String) (v : Int32) :
    (vs.set k v).find? id = if k = id then some v else vs.find? id := SortedMap.find?_insert vs k id v

theorem find?_set_of_ne {k id : String} (h : k ≠ id) (v : Int32) : (vs.set k v).find? id = vs.find? id := by
  rw [find?_set, if_neg h]

@[simp]
theorem value_set (vs : Values) (k id : String) (v : Int32) :
    (vs.set k v).value id = if k = id then v else vs.value id := by
  rw [value, find?_set]
  split <;> rfl

theorem value_set_of_ne {k id : String} (h : k ≠ id) (v : Int32) : (vs.set k v).value id = vs.value id := by
  rw [value_set, if_neg h]

section

variable (hids : t.bindings.Pairwise fun b c => b.id ≠ c.id)

include hids

theorem find?_reset {bs : List Binding} (hbs : ∀ c ∈ bs, c ∈ t.bindings) (hb : b ∈ t.bindings) :
    (vs.reset bs).find? b.id = if b ∈ bs then some b.default else vs.find? b.id := by
  induction bs generalizing vs with
  | nil => rfl
  | cons c cs ih =>
    obtain ⟨hc, hcs⟩ := List.forall_mem_cons.1 hbs
    change ((vs.set c.id c.default).reset cs).find? b.id = _
    rw [ih hcs, find?_set]
    by_cases hbc : b = c
    · simp [hbc]
    · have hid : c.id ≠ b.id := fun h => hbc (FormTable.eq_of_ids hids hb hc h.symm)
      simp [hbc, hid]

theorem value_reset {bs : List Binding} (hbs : ∀ c ∈ bs, c ∈ t.bindings) (hb : b ∈ t.bindings) :
    (vs.reset bs).value b.id = if b ∈ bs then b.default else vs.value b.id := by
  rw [value, find?_reset hids hbs hb]
  split <;> rfl

theorem value_defaults (hb : b ∈ t.bindings) : (defaults t).value b.id = b.default := by
  rw [defaults, value_reset hids (fun _ hc => hc) hb, if_pos hb]

end

section

variable (ht : t.Coherent)

include ht

theorem loadBindings (s : Snapshot) (vs : Values) {bs : List Binding} (hsub : bs.Sublist t.bindings) :
    ∃ vs', bs.foldlM (loadBinding? s) vs = some vs' ∧ ∀ b ∈ t.bindings, vs'.value b.id =
      if b ∈ bs then ((b.key.bind s.raw?).bind b.fromStored?).getD (vs.value b.id) else vs.value b.id := by
  induction bs generalizing vs with
  | nil => exact ⟨vs, rfl, fun b hb => rfl⟩
  | cons c cs ih =>
    have hc : c ∈ t.bindings := hsub.subset List.mem_cons_self
    have hnotin : c ∉ cs := fun h => (List.pairwise_cons.1 (ht.ids.sublist hsub)).1 c h rfl
    obtain ⟨vs₁, hload, hval⟩ : ∃ vs₁, loadBinding? s vs c = some vs₁ ∧ ∀ b ∈ t.bindings, vs₁.value b.id =
        if b = c then ((b.key.bind s.raw?).bind b.fromStored?).getD (vs.value b.id) else vs.value b.id := by
      unfold loadBinding?
      cases hraw : c.key.bind s.raw? with
      | none =>
        refine ⟨vs, rfl, fun b _ => ?_⟩
        split
        case isTrue hbc => simp [hbc, hraw]
        case isFalse => rfl
      | some raw =>
        obtain ⟨w, hw, -⟩ := Control.clamp?_takes (ht.defaults c hc) (Measure.fromStored raw c.control.scale)
        have hstored : c.fromStored? raw = some w := hw
        refine ⟨vs.set c.id w, by simp [hstored], fun b hb => ?_⟩
        rw [value_set]
        by_cases hbc : b = c
        · simp [hbc, hraw, hstored]
        · rw [if_neg hbc, if_neg fun h => hbc (ht.eq_of_id hb hc h.symm)]
    obtain ⟨vs', hfold, hval'⟩ := ih vs₁ ((List.sublist_cons_self c cs).trans hsub)
    refine ⟨vs', by rw [List.foldlM_cons, hload]; exact hfold, fun b hb => ?_⟩
    rw [hval' b hb, hval b hb]
    by_cases hbc : b = c
    · rw [if_neg (hbc ▸ hnotin), if_pos hbc, if_pos (hbc ▸ List.mem_cons_self)]
    · simp [hbc]

end

theorem loadGate_of_none {g : Gate} (h : g.sentinel = none) : loadGate t s vs g = vs := by
  rw [loadGate, h]
  rfl

theorem loadGate_of_isSome {g : Gate} (h : g.sentinel.isSome) : loadGate t s vs g =
    if engaged t s g then vs.set g.toggle 1 else (vs.set g.toggle 0).reset (t.known g.governs) := by
  rw [loadGate, if_neg (by simp [Option.isSome_iff_ne_none.1 h])]

theorem foldl_loadGate {gs : List Gate} (h : gs.Pairwise fun g g' => g.sentinel = none ∨ g'.sentinel = none) :
    gs.foldl (loadGate t s) vs = ((gs.find? (·.sentinel.isSome)).map (loadGate t s vs)).getD vs := by
  induction gs generalizing vs with
  | nil => rfl
  | cons g gs ih =>
    obtain ⟨hg, hgs⟩ := List.pairwise_cons.1 h
    rw [List.foldl_cons, ih hgs]
    cases hs : g.sentinel with
    | none => rw [loadGate_of_none hs, List.find?_cons_of_neg (by simp [hs])]
    | some n =>
      have hrest : gs.find? (·.sentinel.isSome) = none :=
        List.find?_eq_none.2 fun g' hg' => by simpa [hs] using hg g' hg'
      rw [hrest, List.find?_cons_of_pos (by simp [hs])]
      rfl

section

variable (ht : t.Coherent)

include ht

theorem value_loadGate_toggle {g : Gate} (hg : t.sentinelGate? b.id = some g) (hb : b ∈ t.bindings) :
    (loadGate t s vs g).value b.id = if engaged t s g then 1 else 0 := by
  obtain ⟨hmem, htoggle, hs⟩ := FormTable.sentinelGate?_eq_some hg
  have hkey : b.key = none := (ht.derived b hb (.inl (by simp [hg]))).1
  have hnot : b ∉ t.known g.governs := fun h =>
    ht.not_governed_of_keyless hb hkey hmem hs (ht.mem_known.1 h).2
  rw [loadGate_of_isSome hs]
  split
  · simp [htoggle]
  · rw [value_reset ht.ids (fun c hc => (ht.mem_known.1 hc).1) hb, if_neg hnot]
    simp [htoggle]

theorem value_loadGate_other {g : Gate} (hs : g.sentinel.isSome) (htoggle : g.toggle ≠ b.id) (hb : b ∈ t.bindings) :
    (loadGate t s vs g).value b.id =
      if b.id ∈ g.governs ∧ engaged t s g = false then b.default else vs.value b.id := by
  rw [loadGate_of_isSome hs]
  cases he : engaged t s g with
  | true => simp [htoggle]
  | false =>
    rw [if_neg (by simp), value_reset ht.ids (fun c hc => (ht.mem_known.1 hc).1) hb, value_set_of_ne htoggle]
    exact if_congr (by simp [ht.mem_known, hb]) rfl rfl

theorem value_loadGates (hb : b ∈ t.bindings) :
    (t.gates.foldl (loadGate t s) vs).value b.id =
      match t.sentinelGate? b.id with
      | some g => if engaged t s g then 1 else 0
      | none =>
        if ∃ g ∈ t.gates, g.sentinel.isSome ∧ b.id ∈ g.governs ∧ engaged t s g = false then b.default
        else vs.value b.id := by
  rw [foldl_loadGate ht.oneSentinel]
  cases hf : t.gates.find? (·.sentinel.isSome) with
  | none =>
    have hno : ∀ g ∈ t.gates, ¬ g.sentinel.isSome := List.find?_eq_none.1 hf
    have htoggle : t.sentinelGate? b.id = none :=
      List.find?_eq_none.2 fun g hg => by simp [hno g hg]
    rw [htoggle]
    refine (if_neg ?_).symm
    rintro ⟨g, hg, hs, -⟩
    exact hno g hg hs
  | some g =>
    have hg : g ∈ t.gates := List.mem_of_find?_eq_some hf
    have hs := List.find?_some hf
    rw [Option.map_some, Option.getD_some]
    cases hq : t.sentinelGate? b.id with
    | some g' =>
      obtain ⟨hg', -, hs'⟩ := FormTable.sentinelGate?_eq_some hq
      obtain rfl := ht.eq_of_sentinel hg' hg hs' hs
      exact value_loadGate_toggle ht hq hb
    | none =>
      have htoggle : g.toggle ≠ b.id := by
        rintro h
        rw [← h, ht.sentinelGate?_toggle hg hs] at hq
        cases hq
      rw [value_loadGate_other ht hs htoggle hb]
      refine if_congr ⟨fun h => ⟨g, hg, hs, h⟩, ?_⟩ rfl rfl
      rintro ⟨g', hg', hs', h⟩
      rw [ht.eq_of_sentinel hg' hg hs' hs] at h
      exact h

end

theorem loadExclusive_eq {e : Exclusive} : loadExclusive t s vs e =
    if e.Selects s then
      (e.members.foldl (fun vs m => vs.set m.1 (if e.code s = m.2 then 1 else 0)) vs).reset (t.known e.shadowed)
    else e.members.foldl (fun vs m => vs.set m.1 (if e.code s = m.2 then 1 else 0)) vs := by
  have hselects : (e.members.any fun m => e.code s = m.2) = true ↔ e.Selects s := by simp [Exclusive.Selects]
  exact if_congr hselects rfl rfl

theorem value_marked (vs : Values) {ms : List (String × Int32)} (h : ms.Pairwise fun m n => m.1 ≠ n.1 ∧ m.2 ≠ n.2)
    (code : Int32) (id : String) :
    (ms.foldl (fun vs m => vs.set m.1 (if code = m.2 then 1 else 0)) vs).value id =
      match ms.find? fun m => m.1 = id with
      | some m => if code = m.2 then 1 else 0
      | none => vs.value id := by
  induction ms generalizing vs with
  | nil => rfl
  | cons m ms ih =>
    obtain ⟨hm, hms⟩ := List.pairwise_cons.1 h
    rw [List.foldl_cons, ih _ hms]
    by_cases hid : m.1 = id
    · have hrest : ms.find? (fun n => n.1 = id) = none :=
        List.find?_eq_none.2 fun n hn => by simpa [hid] using Ne.symm (hm n hn).1
      rw [hrest, List.find?_cons_of_pos (by simp [hid])]
      simp [hid]
    · rw [List.find?_cons_of_neg (by simp [hid])]
      simp [hid]

section

variable (ht : t.Coherent)

include ht

theorem value_loadExclusive_member {e : Exclusive} (he : t.exclusiveOf? b.id = some e) (hb : b ∈ t.bindings) :
    (loadExclusive t s vs e).value b.id = if e.codeOf? b.id = some (e.code s) then 1 else 0 := by
  have hmem := (FormTable.exclusiveOf?_eq_some he).1
  have hkey : b.key = none := (ht.derived b hb (.inr (by simp [he]))).1
  have hnot : b ∉ t.known e.shadowed := fun h => ht.not_shadowed_of_keyless hb hkey hmem (ht.mem_known.1 h).2
  have hmarked := value_marked vs (ht.members e hmem) (e.code s) b.id
  obtain ⟨m, hm⟩ := FormTable.member_of_exclusiveOf? he
  have hcode : e.codeOf? b.id = some m.2 := by
    rw [Exclusive.codeOf?, hm]
    rfl
  rw [hm] at hmarked
  rw [loadExclusive_eq, hcode]
  split
  · rw [value_reset ht.ids (fun c hc => (ht.mem_known.1 hc).1) hb, if_neg hnot, hmarked]
    simp [eq_comm]
  · rw [hmarked]
    simp [eq_comm]

theorem value_loadExclusive_other {e : Exclusive} (he : e ∈ t.exclusives) (hn : t.exclusiveOf? b.id = none)
    (hb : b ∈ t.bindings) : (loadExclusive t s vs e).value b.id =
      if b.id ∈ e.shadowed ∧ e.Selects s then b.default else vs.value b.id := by
  have hnone : e.members.find? (fun m => m.1 = b.id) = none := by
    apply List.find?_eq_none.2
    intro m hm hid
    exact List.find?_eq_none.1 hn e he (List.any_eq_true.2 ⟨m, hm, hid⟩)
  have hmarked := value_marked vs (ht.members e he) (e.code s) b.id
  rw [hnone] at hmarked
  rw [loadExclusive_eq]
  by_cases hsel : e.Selects s
  · rw [if_pos hsel, value_reset ht.ids (fun c hc => (ht.mem_known.1 hc).1) hb, hmarked]
    simp [ht.mem_known, hb, hsel]
  · rw [if_neg hsel, hmarked]
    simp [hsel]

theorem value_loadExclusives (hb : b ∈ t.bindings) :
    (t.exclusives.foldl (loadExclusive t s) vs).value b.id =
      match t.exclusiveOf? b.id with
      | some e => if e.codeOf? b.id = some (e.code s) then 1 else 0
      | none => if ∃ e ∈ t.exclusives, b.id ∈ e.shadowed ∧ e.Selects s then b.default else vs.value b.id := by
  cases hx : t.exclusives with
  | nil => simp [FormTable.exclusiveOf?, hx]
  | cons e es =>
    have he : e ∈ t.exclusives := hx ▸ List.mem_cons_self
    have hone : e :: es = [e] := hx.symm.trans (ht.exclusives_eq he)
    rw [hone, List.foldl_cons, List.foldl_nil]
    cases hq : t.exclusiveOf? b.id with
    | some e' =>
      have he' := (FormTable.exclusiveOf?_eq_some hq).1
      obtain rfl : e' = e := by simpa [ht.exclusives_eq he] using he'
      exact value_loadExclusive_member ht hq hb
    | none =>
      rw [value_loadExclusive_other ht he hq hb]
      exact if_congr (by simp) rfl rfl

theorem ofSnapshot?_shown (s : Snapshot) :
    ∃ vs, ofSnapshot? t s = some vs ∧ ∀ b ∈ t.bindings, vs.value b.id = t.shown s b := by
  obtain ⟨vs, hvs, hplain⟩ := loadBindings ht s (defaults t) (List.Sublist.refl t.bindings)
  refine ⟨t.exclusives.foldl (loadExclusive t s) (t.gates.foldl (loadGate t s) vs), ?_, fun b hb => ?_⟩
  · rw [ofSnapshot?, hvs]
    rfl
  · have hown : vs.value b.id = b.plain s := by
      rw [hplain b hb, if_pos hb, value_defaults ht.ids hb, Binding.plain]
    rw [value_loadExclusives ht hb, value_loadGates ht hb, FormTable.shown]
    cases hg : t.sentinelGate? b.id with
    | some g =>
      have he : t.exclusiveOf? b.id = none := by
        rcases ht.oneSource b hb with h | h
        · rw [hg] at h
          cases h
        · exact h
      have hkey : b.key = none := (ht.derived b hb (.inl (by simp [hg]))).1
      rw [he]
      change (if _ then _ else _) = if _ then _ else _
      rw [if_neg]
      rintro ⟨e, hmem, hid, -⟩
      exact ht.not_shadowed_of_keyless hb hkey hmem hid
    | none =>
      cases he : t.exclusiveOf? b.id with
      | some e => rfl
      | none =>
        change (if _ then _ else if _ then _ else _) = if _ then _ else _
        rw [hown]
        by_cases hsel : ∃ e ∈ t.exclusives, b.id ∈ e.shadowed ∧ e.Selects s
        · rw [if_pos hsel, if_pos (.inr hsel)]
        · rw [if_neg hsel]
          exact if_congr (or_iff_left hsel).symm rfl rfl

end

end Values

end XrPanel
