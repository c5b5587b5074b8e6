import Mathlib.Data.List.Pairwise
import XrPanel.Panel
import XrPanel.Proofs.ControlRanges

namespace XrPanel

open Text

theorem Exclusive.mem_of_codeOf? {e : Exclusive} {id : String} {n : Int32} (h : e.codeOf? id = some n) :
    (id, n) ∈ e.members := by
  obtain ⟨m, hm, rfl⟩ := Option.map_eq_some_iff.1 h
  have hid : m.1 = id := by simpa using List.find?_some hm
  rw [← hid]
  exact List.mem_of_find?_eq_some hm

namespace FormTable

/-- What a table keeps to so that its form can show what it has stored: no two controls share an entry, up
to case; every stored value can be read back; the value of a control has one source. -/
structure Coherent (t : FormTable) : Prop where
  ids : t.bindings.Pairwise fun b c => b.id ≠ c.id
  keys : t.bindings.Pairwise fun b c => ∀ k ∈ b.key, ∀ l ∈ c.key, ¬ SameName k l
  fits : ∀ b ∈ t.bindings, b.control.Fits
  defaults : ∀ b ∈ t.bindings, b.control.Takes b.default
  oneSentinel : t.gates.Pairwise fun g g' => g.sentinel = none ∨ g'.sentinel = none
  oneGroup : t.exclusives.length ≤ 1
  oneSource : ∀ b ∈ t.bindings, t.sentinelGate? b.id = none ∨ t.exclusiveOf? b.id = none
  derived : ∀ b ∈ t.bindings, (t.sentinelGate? b.id).isSome ∨ (t.exclusiveOf? b.id).isSome →
    b.key = none ∧ b.control.IsCheckbox
  keyed : ∀ b ∈ t.bindings, t.sentinelGate? b.id = none → t.exclusiveOf? b.id = none → b.key.isSome
  toggles : ∀ g ∈ t.gates, ∃ b ∈ t.bindings, b.id = g.toggle ∧
    (∀ g' ∈ t.gates, g'.sentinel.isSome → b.id ∉ g'.governs) ∧ ∀ e ∈ t.exclusives, b.id ∉ e.shadowed
  negative : ∀ g ∈ t.gates, g.sentinel.all (· ≤ 0) = true
  sentinels : ∀ g ∈ t.gates, g.sentinel.isSome → g.governs ≠ [] ∧ g.governs.Nodup ∧ g.inverted = false
  governed : ∀ g ∈ t.gates, g.sentinel.isSome → ∀ id ∈ g.governs,
    (∃ b ∈ t.bindings, b.id = id ∧ b.key.isSome ∧ b.control.Positive) ∧ ∀ e ∈ t.exclusives, id ∉ e.shadowed
  members : ∀ e ∈ t.exclusives, e.members.Pairwise fun m n => m.1 ≠ n.1 ∧ m.2 ≠ n.2
  codes : ∀ e ∈ t.exclusives, ∀ m ∈ e.members, m.2 ≠ e.none ∧ ∃ b ∈ t.bindings, b.id = m.1
  codeEntry : ∀ e ∈ t.exclusives, ∀ b ∈ t.bindings, ∀ k ∈ b.key, ¬ SameName e.key k
  companions : ∀ e ∈ t.exclusives, ∀ c ∈ e.companions, ∃ b ∈ t.bindings, b.id ∈ e.shadowed ∧ b.key = some c.1
  shadowed : ∀ e ∈ t.exclusives, ∀ id ∈ e.shadowed, ∃ b ∈ t.bindings, b.id = id ∧ b.key.isSome

variable {t : FormTable}

theorem eq_of_ids (hids : t.bindings.Pairwise fun b c => b.id ≠ c.id) {b c : Binding} (hb : b ∈ t.bindings)
    (hc : c ∈ t.bindings) (h : b.id = c.id) : b = c := by
  by_contra hne
  have hsymm : Std.Symm fun b c : Binding => b.id ≠ c.id := ⟨fun _ _ => Ne.symm⟩
  exact hids.forall hb hc hne h

theorem binding?_of_ids (hids : t.bindings.Pairwise fun b c => b.id ≠ c.id) {b : Binding} (hb : b ∈ t.bindings) :
    t.binding? b.id = some b := by
  cases hc : t.binding? b.id with
  | none => exact absurd (decide_eq_true rfl) (List.find?_eq_none.1 hc b hb)
  | some c =>
    have hid : c.id = b.id := by simpa using List.find?_some hc
    rw [eq_of_ids hids (List.mem_of_find?_eq_some hc) hb hid]

theorem binding?_eq_some_iff (hids : t.bindings.Pairwise fun b c => b.id ≠ c.id) {id : String} {b : Binding} :
    t.binding? id = some b ↔ b ∈ t.bindings ∧ b.id = id := by
  constructor
  · intro h
    exact ⟨List.mem_of_find?_eq_some h, by simpa using List.find?_some h⟩
  · rintro ⟨hb, rfl⟩
    exact binding?_of_ids hids hb

theorem sentinelGate?_eq_some {id : String} {g : Gate} (h : t.sentinelGate? id = some g) :
    g ∈ t.gates ∧ g.toggle = id ∧ g.sentinel.isSome := by
  have hg := List.find?_some h
  simp only [Bool.and_eq_true, decide_eq_true_eq] at hg
  exact ⟨List.mem_of_find?_eq_some h, hg⟩

theorem exclusiveOf?_eq_some {id : String} {e : Exclusive} (h : t.exclusiveOf? id = some e) :
    e ∈ t.exclusives ∧ ∃ m ∈ e.members, m.1 = id := by
  have he := List.find?_some h
  simp only [List.any_eq_true, decide_eq_true_eq] at he
  exact ⟨List.mem_of_find?_eq_some h, he⟩

theorem member_of_exclusiveOf? {id : String} {e : Exclusive} (h : t.exclusiveOf? id = some e) :
    ∃ m, e.members.find? (fun m => m.1 = id) = some m := by
  obtain ⟨-, m, hm, hid⟩ := exclusiveOf?_eq_some h
  cases hf : e.members.find? fun m => m.1 = id with
  | none => exact absurd hid (by simpa using List.find?_eq_none.1 hf m hm)
  | some m => exact ⟨m, rfl⟩

theorem codeOf?_of_exclusiveOf? {id : String} {e : Exclusive} (h : t.exclusiveOf? id = some e) :
    ∃ n, e.codeOf? id = some n := by
  obtain ⟨m, hm⟩ := member_of_exclusiveOf? h
  exact ⟨m.2, by rw [Exclusive.codeOf?, hm]; rfl⟩

namespace Coherent

variable (ht : t.Coherent)

include ht

theorem eq_of_id {b c : Binding} (hb : b ∈ t.bindings) (hc : c ∈ t.bindings) (h : b.id = c.id) : b = c :=
  eq_of_ids ht.ids hb hc h

theorem eq_of_key {b c : Binding} {k l : String} (hb : b ∈ t.bindings) (hc : c ∈ t.bindings) (hk : b.key = some k)
    (hl : c.key = some l) (h : SameName k l) : b = c := by
  by_contra hne
  have hsymm : Std.Symm fun b c : Binding => ∀ k ∈ b.key, ∀ l ∈ c.key, ¬ SameName k l :=
    ⟨fun _ _ h k hk l hl hs => h l hl k hk hs.symm⟩
  exact ht.keys.forall hb hc hne k hk l hl h

theorem eq_of_sentinel {g g' : Gate} (hg : g ∈ t.gates) (hg' : g' ∈ t.gates) (h : g.sentinel.isSome)
    (h' : g'.sentinel.isSome) : g = g' := by
  by_contra hne
  have hsymm : Std.Symm fun g g' : Gate => g.sentinel = none ∨ g'.sentinel = none := ⟨fun _ _ => Or.symm⟩
  rcases ht.oneSentinel.forall hg hg' hne with hn | hn
  · simp [hn] at h
  · simp [hn] at h'

theorem exclusives_eq {e : Exclusive} (he : e ∈ t.exclusives) : t.exclusives = [e] := by
  have hlen := ht.oneGroup
  match hl : t.exclusives with
  | [] => simp [hl] at he
  | [e'] =>
    rw [hl, List.mem_singleton] at he
    rw [he]
  | _ :: _ :: _ => simp [hl] at hlen

theorem binding?_eq_some {id : String} {b : Binding} : t.binding? id = some b ↔ b ∈ t.bindings ∧ b.id = id :=
  binding?_eq_some_iff ht.ids

theorem mem_known {ids : List String} {b : Binding} : b ∈ t.known ids ↔ b ∈ t.bindings ∧ b.id ∈ ids := by
  rw [known, List.mem_filterMap]
  constructor
  · rintro ⟨id, hid, hb⟩
    obtain ⟨hmem, rfl⟩ := ht.binding?_eq_some.1 hb
    exact ⟨hmem, hid⟩
  · rintro ⟨hb, hid⟩
    exact ⟨b.id, hid, ht.binding?_eq_some.2 ⟨hb, rfl⟩⟩

theorem known_ids {g : Gate} (hg : g ∈ t.gates) (h : g.sentinel.isSome) :
    (t.known g.governs).Pairwise fun b c => b.id ≠ c.id := by
  refine List.Pairwise.filterMap _ ?_ (ht.sentinels g hg h).2.1
  rintro id id' hne b hb c hc hid
  obtain ⟨-, rfl⟩ := ht.binding?_eq_some.1 hb
  obtain ⟨-, rfl⟩ := ht.binding?_eq_some.1 hc
  exact hne hid

theorem exclusiveOf?_member {e : Exclusive} {m : String × Int32} {id : String} (he : e ∈ t.exclusives)
    (hm : m ∈ e.members) (hid : m.1 = id) : t.exclusiveOf? id = some e := by
  have hany : (e.members.any fun m => m.1 = id) = true := List.any_eq_true.2 ⟨m, hm, by simpa using hid⟩
  rw [exclusiveOf?, ht.exclusives_eq he]
  exact List.find?_cons_of_pos hany

theorem eq_of_member {e : Exclusive} {m n : String × Int32} (he : e ∈ t.exclusives) (hm : m ∈ e.members)
    (hn : n ∈ e.members) (h : m.1 = n.1 ∨ m.2 = n.2) : m = n := by
  by_contra hne
  have hsymm : Std.Symm fun m n : String × Int32 => m.1 ≠ n.1 ∧ m.2 ≠ n.2 := ⟨fun _ _ h => ⟨Ne.symm h.1, Ne.symm h.2⟩⟩
  obtain ⟨hid, hcode⟩ := (ht.members e he).forall hm hn hne
  exact h.elim hid hcode

theorem codeOf?_member {e : Exclusive} {m : String × Int32} (he : e ∈ t.exclusives) (hm : m ∈ e.members) :
    e.codeOf? m.1 = some m.2 := by
  obtain ⟨n, hn⟩ := codeOf?_of_exclusiveOf? (ht.exclusiveOf?_member he hm rfl)
  have heq : (m.1, n) = m := ht.eq_of_member he (Exclusive.mem_of_codeOf? hn) hm (.inl rfl)
  rw [hn, ← heq]

theorem codeOf?_inj {e : Exclusive} (he : e ∈ t.exclusives) {a c : String} {n : Int32} (ha : e.codeOf? a = some n)
    (hc : e.codeOf? c = some n) : a = c := by
  have heq : (a, n) = (c, n) :=
    ht.eq_of_member he (Exclusive.mem_of_codeOf? ha) (Exclusive.mem_of_codeOf? hc) (.inr rfl)
  exact congrArg Prod.fst heq

theorem codeOf?_ne_none {e : Exclusive} (he : e ∈ t.exclusives) (a : String) : e.codeOf? a ≠ some e.none := by
  intro ha
  exact (ht.codes e he _ (Exclusive.mem_of_codeOf? ha)).1 rfl

theorem sentinelGate?_toggle {g : Gate} (hg : g ∈ t.gates) (h : g.sentinel.isSome) :
    t.sentinelGate? g.toggle = some g := by
  cases hq : t.sentinelGate? g.toggle with
  | none =>
    have hn := List.find?_eq_none.1 hq g hg
    simp [h] at hn
  | some g' =>
    have hs := List.find?_some hq
    simp only [Bool.and_eq_true] at hs
    rw [ht.eq_of_sentinel (List.mem_of_find?_eq_some hq) hg hs.2 h]

end Coherent

end FormTable

theorem Panel.coherent (p : Panel) : p.table.Coherent := by
  cases p <;> constructor <;> decide +kernel

end XrPanel
