import XrPanel.Proofs.FormReach

namespace XrPanel

open Script

variable {t : FormTable} {path : String} {b c : Binding} {e : Exclusive} {id : String} {v : Int32} {vs ws : Values}

namespace FormTable

/-- The members of exclusive groups are checkboxes that nothing but their own group can check. -/
structure Separate (t : FormTable) : Prop where
  members : ∀ e ∈ t.exclusives, e.members.Pairwise fun m n => m.1 ≠ n.1 ∧ m.2 ≠ n.2
  groups : t.exclusives.Pairwise fun e e' => ∀ m ∈ e.members, ∀ n ∈ e'.members, m.1 ≠ n.1
  boxes : ∀ e ∈ t.exclusives, ∀ m ∈ e.members, ∀ b ∈ t.bindings, b.id = m.1 → b.control = .checkbox false
  toggles : ∀ g ∈ t.gates, g.sentinel.isSome → ∀ e ∈ t.exclusives, ∀ m ∈ e.members, g.toggle ≠ m.1

namespace Separate

variable (ht : t.Separate)

include ht

theorem eq_of_member {m n : String × Int32} (he : e ∈ t.exclusives) (hm : m ∈ e.members) (hn : n ∈ e.members)
    (h : m.1 = n.1 ∨ m.2 = n.2) : m = n := by
  by_contra hne
  have hsymm : Std.Symm fun m n : String × Int32 => m.1 ≠ n.1 ∧ m.2 ≠ n.2 := ⟨fun _ _ => .imp Ne.symm Ne.symm⟩
  obtain ⟨hid, hcode⟩ := (ht.members e he).forall hm hn hne
  exact h.elim hid hcode

theorem find?_member {m : String × Int32} (he : e ∈ t.exclusives) (hm : m ∈ e.members) :
    e.members.find? (fun n => n.1 = m.1) = some m := by
  cases hfind : e.members.find? fun n => n.1 = m.1 with
  | none => exact absurd (decide_eq_true rfl) (List.find?_eq_none.1 hfind m hm)
  | some n =>
    have hid : n.1 = m.1 := by simpa using List.find?_some hfind
    rw [ht.eq_of_member he (List.mem_of_find?_eq_some hfind) hm (.inl hid)]

theorem ne_of_other {e' : Exclusive} {m n : String × Int32} (he : e ∈ t.exclusives) (he' : e' ∈ t.exclusives)
    (hne : e ≠ e') (hm : m ∈ e.members) (hn : n ∈ e'.members) : m.1 ≠ n.1 := by
  have hsymm : Std.Symm fun e e' : Exclusive => ∀ m ∈ e.members, ∀ n ∈ e'.members, m.1 ≠ n.1 :=
    ⟨fun _ _ h m hm n hn => (h n hn m hm).symm⟩
  exact ht.groups.forall he he' hne m hm n hn

theorem default_eq_zero (hb : b ∈ t.bindings) (h : t.IsMember b.id) : b.default = 0 := by
  obtain ⟨e, he, m, hm, hid⟩ := h
  rw [Binding.default, ht.boxes e he m hm b hb hid.symm]
  rfl

theorem toggle_not_member {g : Gate} (hg : g ∈ t.gates) (hs : g.sentinel.isSome) : ¬ t.IsMember g.toggle := by
  rintro ⟨e, he, m, hm, hid⟩
  exact ht.toggles g hg hs e he m hm hid.symm

end Separate

section

variable (hv : t.validate? = some none)

include hv

theorem ordered_of_validate? : t.Ordered := (wellFormed_of_validate? hv).ranges

theorem keyless_member (hb : b ∈ t.bindings) (h : t.IsMember b.id) : b.key = none := by
  obtain ⟨e, he, m, hm, hid⟩ := h
  exact NamesKeyless.key (ids_of_validate? hv) ((wellFormed_of_validate? hv).members e he m hm) hb hid.symm

theorem keyed_governed {g : Gate} (hg : g ∈ t.gates) (hs : g.sentinel.isSome) (hc : c ∈ t.known g.governs) :
    c.key.isSome := by
  obtain ⟨id, hid, hfind⟩ := List.mem_filterMap.1 hc
  obtain ⟨b, hb, rfl, hkey⟩ := ((wellFormed_of_validate? hv).sentinels g hg hs).2 id hid
  obtain rfl : b = c := Option.some.inj ((binding?_of_ids (ids_of_validate? hv) hb).symm.trans hfind)
  exact hkey

theorem keyless_toggle {g : Gate} (hg : g ∈ t.gates) (hs : g.sentinel.isSome) (hb : b ∈ t.bindings)
    (hid : b.id = g.toggle) : b.key = none :=
  NamesKeyless.key (ids_of_validate? hv) ((wellFormed_of_validate? hv).sentinels g hg hs).1 hb hid

theorem governed_not_member {g : Gate} (hg : g ∈ t.gates) (hs : g.sentinel.isSome) (hc : c ∈ t.known g.governs) :
    ¬ t.IsMember c.id := by
  intro hmember
  have hkey := keyed_governed hv hg hs hc
  rw [keyless_member hv (mem_of_known hc) hmember] at hkey
  cases hkey

end

end FormTable

namespace Values

def OneChecked (t : FormTable) (vs : Values) : Prop :=
  ∀ e ∈ t.exclusives, ∀ m ∈ e.members, ∀ n ∈ e.members, vs.value m.1 ≠ 0 → vs.value n.1 ≠ 0 → m = n

theorem oneChecked_empty (t : FormTable) : OneChecked t .empty := fun _ _ _ _ _ _ h => absurd rfl h

theorem OneChecked.set (h : vs.OneChecked t) (hv : v = 0 ∨ ¬ t.IsMember id) : (vs.set id v).OneChecked t := by
  intro e he
  have hwas : ∀ m ∈ e.members, (vs.set id v).value m.1 ≠ 0 → vs.value m.1 ≠ 0 := by
    intro m hm hvalue
    rw [value_set] at hvalue
    split at hvalue
    case isTrue hid => exact absurd ⟨e, he, m, hm, hid.symm⟩ (hv.resolve_left hvalue)
    case isFalse => exact hvalue
  intro m hm n hn hm' hn'
  exact h e he m hm n hn (hwas m hm hm') (hwas n hn hn')

section

variable (ht : t.Separate)

include ht

theorem OneChecked.reset {bs : List Binding} (h : vs.OneChecked t) (hbs : ∀ c ∈ bs, c ∈ t.bindings) :
    (vs.reset bs).OneChecked t := by
  refine List.foldlRecOn bs _ h fun vs hvs c hc => hvs.set ?_
  by_cases hmember : t.IsMember c.id
  · exact .inl (ht.default_eq_zero (hbs c hc) hmember)
  · exact .inr hmember

theorem OneChecked.exchange (h : vs.OneChecked t) (he : e ∈ t.exclusives)
    (hothers : ∀ id, (∀ m ∈ e.members, m.1 ≠ id) → ws.value id = vs.value id)
    (hone : ∀ m ∈ e.members, ∀ n ∈ e.members, ws.value m.1 ≠ 0 → ws.value n.1 ≠ 0 → m.1 = n.1 ∨ m.2 = n.2) :
    ws.OneChecked t := by
  intro e' he' m hm n hn hm' hn'
  by_cases hsame : e = e'
  · subst hsame
    exact ht.eq_of_member he hm hn (hone m hm n hn hm' hn')
  · -- no member of another group is among those that were exchanged
    have hstays : ∀ n ∈ e'.members, ws.value n.1 = vs.value n.1 :=
      fun n hn => hothers n.1 fun m hm => ht.ne_of_other he he' hsame hm hn
    rw [hstays m hm] at hm'
    rw [hstays n hn] at hn'
    exact h e' he' m hm n hn hm' hn'

theorem OneChecked.check (h : vs.OneChecked t) (he : t.exclusiveOf? id = some e) :
    ((e.members.foldl (fun vs m => vs.set m.1 0) vs).set id 1).OneChecked t := by
  obtain ⟨hmem, k, hk, rfl⟩ := FormTable.exclusiveOf?_eq_some he
  apply h.exchange ht hmem
  · intro id hid
    rw [value_set_of_ne (hid k hk), value_uncheckAll, if_neg fun ⟨m, hm, hm'⟩ => hid m hm hm']
  · have honly : ∀ m ∈ e.members, ((e.members.foldl (fun vs m => vs.set m.1 0) vs).set k.1 1).value m.1 ≠ 0 →
        k.1 = m.1 := by
      intro m hm hvalue
      by_contra hne
      rw [value_set_of_ne hne, value_uncheckAll, if_pos ⟨m, hm, rfl⟩] at hvalue
      exact hvalue rfl
    exact fun m hm n hn hm' hn' => .inl ((honly m hm hm').symm.trans (honly n hn hn'))

theorem OneChecked.loadExclusive (s : Snapshot) (h : vs.OneChecked t) (he : e ∈ t.exclusives) :
    (loadExclusive t s vs e).OneChecked t := by
  have hmarked : (e.members.foldl (fun vs m => vs.set m.1 (if e.code s = m.2 then 1 else 0)) vs).OneChecked t := by
    have hvalue := value_marked vs (ht.members e he) (e.code s)
    apply h.exchange ht he
    · intro id hid
      have hnone : e.members.find? (fun m => m.1 = id) = none :=
        List.find?_eq_none.2 fun m hm => by simpa using hid m hm
      rw [hvalue, hnone]
    · -- a member is checked by the code that is stored, and no two have the same
      have hcode : ∀ m ∈ e.members,
          (e.members.foldl (fun vs m => vs.set m.1 (if e.code s = m.2 then 1 else 0)) vs).value m.1 ≠ 0 →
          e.code s = m.2 := by
        intro m hm hne
        rw [hvalue, ht.find?_member he hm] at hne
        by_contra hother
        exact hne (if_neg hother)
      exact fun m hm n hn hm' hn' => .inr ((hcode m hm hm').symm.trans (hcode n hn hn'))
  rw [loadExclusive_eq]
  split
  · exact hmarked.reset ht fun _ hc => FormTable.mem_of_known hc
  · exact hmarked

end

theorem OneChecked.loadGate (ht : t.Separate) (s : Snapshot) {g : Gate} (h : vs.OneChecked t) (hg : g ∈ t.gates) :
    (loadGate t s vs g).OneChecked t :=
  loadGate_keeps (fun hs _ _ => h.set (.inr (ht.toggle_not_member hg hs)))
    (fun _ hvs => hvs.reset ht fun _ hc => FormTable.mem_of_known hc) h

section

variable (hv : t.validate? = some none) (ht : t.Separate)

include hv

theorem OneChecked.loadBinding? (s : Snapshot) (h : vs.OneChecked t) (hb : b ∈ t.bindings) :
    ∃ vs', loadBinding? s vs b = some vs' ∧ vs'.OneChecked t := by
  refine loadBinding?_keeps (FormTable.ordered_of_validate? hv b hb) (fun raw w hraw _ => ?_) h
  refine h.set (.inr fun hmember => ?_)
  rw [FormTable.keyless_member hv hb hmember] at hraw
  cases hraw

include ht

theorem ofSnapshot?_oneChecked (s : Snapshot) : ∃ vs, ofSnapshot? t s = some vs ∧ vs.OneChecked t :=
  ofSnapshot?_keeps ((oneChecked_empty t).reset ht fun _ hc => hc) (fun _ hb _ h => h.loadBinding? hv s hb)
    (fun _ hg _ h => h.loadGate ht s hg) fun _ he _ h => h.loadExclusive ht s he

theorem oneChecked_lasting : Lasting t (OneChecked t) where
  defaults := (oneChecked_empty t).reset ht fun _ hc => hc
  stored s := ofSnapshot?_oneChecked hv ht s
  clamps := (lasting_of_ordered (FormTable.ordered_of_validate? hv)).clamps
  set {b v w} vs _ he _ h := by
    refine h.set (.inr ?_)
    cases hg : t.sentinelGate? b.id with
    | some g =>
      obtain ⟨hmem, htoggle, hs⟩ := FormTable.sentinelGate?_eq_some hg
      exact htoggle ▸ ht.toggle_not_member hmem hs
    | none => exact FormTable.exclusiveOf?_eq_none.1 (he hg)
  uncheck _ h := h.set (.inl rfl)
  check he h := h.check ht he
  restored {g c vs} hg hs hc raw h := by
    obtain ⟨w, hw, -⟩ := (lasting_of_ordered (FormTable.ordered_of_validate? hv)).restored hg hs hc raw trivial
    exact ⟨w, hw, h.set (.inr (FormTable.governed_not_member hv hg hs hc))⟩

end

end Values

namespace Form

variable {σ : Type}

theorem performAll_oneChecked (hv : t.validate? = some none) (ht : t.Separate) (st : Store (StateM σ)) (s : σ)
    (path : String) (as : List Action) :
    ∃ f, ((performAll as (new t path)).runOn st s).1.result = some f ∧ f.table = t ∧ f.values.OneChecked t := by
  have hP := Values.oneChecked_lasting hv ht
  obtain ⟨f, hresult, -, hf⟩ := ((invariant_over hP path).performAll (over_new hP path) as).runOn st s
  exact ⟨f, hresult, hf.table, hf.values⟩

/-- Whatever a store answers, no two members of an exclusive group are checked at once, and no assertion fails. The
form starts with its defaults; to open it is to load it first. -/
theorem at_most_one_member_checked (hv : t.validate? = some none) (ht : t.Separate) (st : Store (StateM σ)) (s : σ)
    (path : String) (as : List Action) :
    (∃ f, ((performAll as (new t path)).runOn st s).1.result = some f ∧ f.table = t ∧
      ∀ e ∈ t.exclusives, ∀ m ∈ e.members, ∀ n ∈ e.members, f.value m.1 ≠ 0 → f.value n.1 ≠ 0 → m = n) ∧
    ∃ f, ((performAll as (new Pimax.experimental path)).runOn st s).1.result = some f ∧
      ¬ (f.value "force_half" ≠ 0 ∧ f.value "force_third" ≠ 0) := by
  refine ⟨performAll_oneChecked hv ht st s path as, ?_⟩
  have hrates : Pimax.experimental.Separate := ⟨by decide, by decide, by decide +kernel, by decide⟩
  obtain ⟨f, hresult, -, hone⟩ := performAll_oneChecked (by decide +kernel) hrates st s path as
  refine ⟨f, hresult, fun ⟨hhalf, hthird⟩ => ?_⟩
  have hsame := hone _ List.mem_cons_self ("force_half", 100) (by decide) ("force_third", 200) (by decide) hhalf hthird
  exact absurd hsame (by decide)

/-- Two groups that each shadow a member of the other one, and of which the second writes the code of the first. -/
def twoRates : FormTable where
  name := "rates"
  title := "Rates"
  bindings := [
    ⟨"half", none, "Half", "g", .checkbox false⟩, ⟨"third", none, "Third", "g", .checkbox false⟩,
    ⟨"smooth", none, "Smooth", "g", .checkbox false⟩, ⟨"sharp", none, "Sharp", "g", .checkbox false⟩]
  gates := []
  exclusives := [
    { key := "Rate", none := 0, members := [("half", 2), ("third", 3)], companions := [], shadowed := ["smooth"] },
    { key := "Filter", none := 0, members := [("smooth", 1), ("sharp", 2)], companions := [("Rate", 3)],
      shadowed := ["half"] }]

theorem at_most_one_member_checked_two_rates :
    let start : FaultyHive := ⟨Hive.set .empty "P" "Rate" (.dword 3), [none, none, none, some (.accessDenied "P")]⟩
    let run := (loaded twoRates "P" >>= performAll [.set "half" 1, .set "smooth" 1]).runOn faultyStore start
    twoRates.validate? = some none ∧ ∃ f, run.1.result = some f ∧
      ¬ (f.value "half" ≠ 0 ∧ f.value "third" ≠ 0) := by
  have hv : twoRates.validate? = some none := by decide +kernel
  have ht : twoRates.Separate := ⟨by decide, by decide, by decide +kernel, by decide⟩
  refine ⟨hv, ?_⟩
  obtain ⟨⟨f, hresult, -, hone⟩, -⟩ :=
    at_most_one_member_checked hv ht faultyStore _ "P" [.load, .set "half" 1, .set "smooth" 1]
  refine ⟨f, hresult, fun ⟨hhalf, hthird⟩ => ?_⟩
  have hsame := hone _ List.mem_cons_self ("half", 2) (by decide) ("third", 3) (by decide) hhalf hthird
  exact absurd hsame (by decide)

end Form

end XrPanel
