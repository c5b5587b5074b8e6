import XrPanel.Proofs.ExclusiveMembers

namespace XrPanel

variable {t : FormTable} {b : Binding} {id : String} {v w : Int32} {vs : Values}

namespace Control

theorem clamp?_checkbox {c : Control} (hc : c.IsCheckbox) (h : c.clamp? v = some w) : w = 0 ∨ w = 1 :=
  (takes_checkbox hc).1 (takes_iff.2 (covers_of_clamp? h))

theorem default_checkbox {c : Control} (hc : c.IsCheckbox) : c.default = 0 ∨ c.default = 1 := by
  cases c with
  | slider s => exact hc.elim
  | checkbox d => cases d <;> simp [default]
  | choice options d => exact hc.elim

end Control

namespace Values

theorem set_eq_self (h : vs.find? id = some v) : vs.set id v = vs := by
  refine SortedMap.ext_find? fun x => ?_
  rw [find?_set]
  split
  case isTrue hx => rw [← hx, h]
  case isFalse => rfl

theorem set_back (h : vs.find? id = some v) (w : Int32) : (vs.set id w).set id v = vs := by
  refine SortedMap.ext_find? fun x => ?_
  rw [find?_set, find?_set]
  split
  case isTrue hx => rw [← hx, h]
  case isFalse => rfl

theorem value_of_find? (h : vs.find? id = some v) : vs.value id = v := by
  rw [value, h]
  rfl

def Holds (vs : Values) (b : Binding) : Prop :=
  ∃ v, vs.find? b.id = some v ∧ (b.control.IsCheckbox → v = 0 ∨ v = 1)

def Held (t : FormTable) (vs : Values) : Prop := ∀ b ∈ t.bindings, vs.Holds b

theorem Holds.value_eq (h : vs.Holds b) : vs.find? b.id = some (vs.value b.id) := by
  obtain ⟨v, hv, -⟩ := h
  rw [value_of_find? hv, hv]

theorem Holds.checkbox (h : vs.Holds b) (hbox : b.control.IsCheckbox) : vs.value b.id = 0 ∨ vs.value b.id = 1 := by
  obtain ⟨v, hv, hvalue⟩ := h
  rw [value_of_find? hv]
  exact hvalue hbox

theorem Held.set (h : vs.Held t) (hv : ∀ c ∈ t.bindings, c.id = id → c.control.IsCheckbox → v = 0 ∨ v = 1) :
    (vs.set id v).Held t := by
  intro c hc
  by_cases hid : id = c.id
  · exact ⟨v, by rw [find?_set, if_pos hid], hv c hc hid.symm⟩
  · rw [Holds, find?_set_of_ne hid]
    exact h c hc

theorem Held.mark {ms : List (String × Int32)} {x : String × Int32 → Int32} (h : vs.Held t)
    (hx : ∀ m, x m = 0 ∨ x m = 1) : (ms.foldl (fun vs m => vs.set m.1 (x m)) vs).Held t :=
  List.foldlRecOn ms _ h fun _ hvs m _ => hvs.set fun _ _ _ _ => hx m

section

variable (hids : t.bindings.Pairwise fun b c => b.id ≠ c.id)

include hids

theorem holds_reset {bs : List Binding} (hbs : ∀ c ∈ bs, c ∈ t.bindings) (hb : b ∈ t.bindings)
    (h : vs.Holds b ∨ b ∈ bs) : (vs.reset bs).Holds b := by
  rw [Holds, find?_reset hids hbs hb]
  split
  case isTrue => exact ⟨b.default, rfl, Control.default_checkbox⟩
  case isFalse hmem => exact h.resolve_right hmem

theorem held_defaults : (defaults t).Held t := fun _ hb => holds_reset hids (fun _ hc => hc) hb (.inr hb)

theorem Held.reset {ids : List String} (h : vs.Held t) : (vs.reset (t.known ids)).Held t := fun _ hb =>
  holds_reset hids (fun _ hc => FormTable.mem_of_known hc) hb (.inl (h _ hb))

theorem Held.clamp {u : Int32} (h : vs.Held t) (hb : b ∈ t.bindings) (hw : b.clamp? u = some w) :
    (vs.set b.id w).Held t := by
  refine h.set fun c hc hid hbox => ?_
  rw [FormTable.eq_of_ids hids hc hb hid] at hbox
  exact Control.clamp?_checkbox hbox hw

theorem Held.loadGate {g : Gate} (s : Snapshot) (h : vs.Held t) : (loadGate t s vs g).Held t :=
  loadGate_keeps (fun _ _ hv => h.set fun _ _ _ _ => hv) (fun _ => Held.reset hids) h

theorem Held.loadExclusive {e : Exclusive} (s : Snapshot) (h : vs.Held t) : (loadExclusive t s vs e).Held t := by
  have hmarked : (e.members.foldl (fun vs m => vs.set m.1 (if e.code s = m.2 then 1 else 0)) vs).Held t := by
    refine h.mark (x := fun m => if e.code s = m.2 then 1 else 0) fun m => ?_
    by_cases hcode : e.code s = m.2 <;> simp [hcode]
  rw [loadExclusive_eq]
  split
  · exact Held.reset hids hmarked
  · exact hmarked

theorem Held.restored {g : Gate} {raw : Option Int32} (h : vs.Held t) (hb : b ∈ t.bindings)
    (hw : Form.restored? g b vs raw = some w) : (vs.set b.id w).Held t := by
  unfold Form.restored? at hw
  split at hw
  case h_1 n _ => exact h.clamp hids hb hw
  case h_2 =>
    obtain rfl := Option.some.inj hw
    rwa [set_eq_self (h b hb).value_eq]

end

section

variable (hv : t.validate? = some none)

include hv

theorem ofSnapshot?_held (s : Snapshot) : ∃ vs, ofSnapshot? t s = some vs ∧ vs.Held t := by
  have hids := FormTable.ids_of_validate? hv
  refine ofSnapshot?_keeps (held_defaults hids) (fun b hb vs h => ?_) (fun _ _ _ h => h.loadGate hids s)
    fun _ _ _ h => h.loadExclusive hids s
  exact loadBinding?_keeps (FormTable.ordered_of_validate? hv b hb) (fun _ _ _ hw => h.clamp hids hb hw) h

theorem held_lasting : Lasting t (Held t) where
  defaults := held_defaults (FormTable.ids_of_validate? hv)
  stored s := ofSnapshot?_held hv s
  clamps := (lasting_of_ordered (FormTable.ordered_of_validate? hv)).clamps
  set hb _ hw h := h.clamp (FormTable.ids_of_validate? hv) hb hw
  uncheck _ h := h.set fun _ _ _ _ => .inl rfl
  check _ h := (h.mark fun _ => .inl rfl).set fun _ _ _ _ => .inr rfl
  restored {g c vs} hg hs hc raw h := by
    obtain ⟨w, hw, -⟩ := (lasting_of_ordered (FormTable.ordered_of_validate? hv)).restored hg hs hc raw trivial
    exact ⟨w, hw, h.restored (FormTable.ids_of_validate? hv) (FormTable.mem_of_known hc) hw⟩

end

end Values

end XrPanel
