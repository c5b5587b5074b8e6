import XrPanel.Proofs.TableValidity

namespace XrPanel

namespace FormTable

variable {t : FormTable} {b c : Binding} {v : Int32}

/-- What a table keeps to so that its controls show values of their own: ids name one control each, defaults are
in range, and what is set to 0 or 1 is a checkbox. -/
structure Sound (t : FormTable) : Prop where
  ids : t.bindings.Pairwise fun b c => b.id ≠ c.id
  defaults : ∀ b ∈ t.bindings, b.control.Takes b.default
  toggles : ∀ g ∈ t.gates, g.sentinel.isSome → ∀ b ∈ t.bindings, b.id = g.toggle → b.control.IsCheckbox
  members : ∀ e ∈ t.exclusives, ∀ m ∈ e.members, ∀ b ∈ t.bindings, b.id = m.1 → b.control.IsCheckbox

theorem Coherent.sound (ht : t.Coherent) : t.Sound where
  ids := ht.ids
  defaults := ht.defaults
  toggles g hg hs b hb hid := by
    refine (ht.derived b hb (.inl ?_)).2
    rw [hid, ht.sentinelGate?_toggle hg hs]
    rfl
  members e he m hm b hb hid := by
    refine (ht.derived b hb (.inr ?_)).2
    rw [ht.exclusiveOf?_member he hm hid.symm]
    rfl

namespace Sound

variable (ht : t.Sound)

include ht

theorem eq_of_id (hb : b ∈ t.bindings) (hc : c ∈ t.bindings) (h : b.id = c.id) : b = c := eq_of_ids ht.ids hb hc h

theorem member_takes {e : Exclusive} {m : String × Int32} (he : e ∈ t.exclusives) (hm : m ∈ e.members)
    (hv : v = 0 ∨ v = 1) (hc : c ∈ t.bindings) (hid : c.id = m.1) : c.control.Takes v :=
  (Control.takes_checkbox (ht.members e he m hm c hc hid)).2 hv

theorem exclusive_takes {e : Exclusive} {id : String} (he : t.exclusiveOf? id = some e) (hv : v = 0 ∨ v = 1) :
    ∀ c ∈ t.bindings, c.id = id → c.control.Takes v := by
  obtain ⟨hmem, m, hm, hid⟩ := exclusiveOf?_eq_some he
  intro c hc hcid
  exact ht.member_takes hmem hm hv hc (hcid.trans hid.symm)

theorem toggle_takes {g : Gate} (hg : g ∈ t.gates) (hs : g.sentinel.isSome) (hv : v = 0 ∨ v = 1)
    (hc : c ∈ t.bindings) (hid : c.id = g.toggle) : c.control.Takes v :=
  (Control.takes_checkbox (ht.toggles g hg hs c hc hid)).2 hv

end Sound

theorem ids_of_validate? (hv : t.validate? = some none) : t.bindings.Pairwise fun b c => b.id ≠ c.id :=
  (wellFormed_of_validate? hv).ids

theorem sound_of_validate? (hv : t.validate? = some none)
    (htoggles : ∀ g ∈ t.gates, g.sentinel.isSome → ∀ b ∈ t.bindings, b.id = g.toggle → b.control.IsCheckbox)
    (hmembers : ∀ e ∈ t.exclusives, ∀ m ∈ e.members, ∀ b ∈ t.bindings, b.id = m.1 → b.control.IsCheckbox) :
    t.Sound where
  ids := ids_of_validate? hv
  defaults b hb := Control.takes_iff.2 ((wellFormed_of_validate? hv).defaults b hb)
  toggles := htoggles
  members := hmembers

end FormTable

end XrPanel
