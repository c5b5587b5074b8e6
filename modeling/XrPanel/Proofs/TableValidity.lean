import XrPanel.FormTable.Check
import XrPanel.Proofs.TableCoherence

namespace XrPanel

namespace FormTable

variable {t : FormTable} {b : Binding} {g : Gate} {e : Exclusive} {seen : List String} {id : String}

def Names (t : FormTable) (id : String) : Prop := ∃ b ∈ t.bindings, b.id = id

def NamesKeyed (t : FormTable) (id : String) : Prop := ∃ b ∈ t.bindings, b.id = id ∧ b.key.isSome

def NamesKeyless (t : FormTable) (id : String) : Prop := ∃ b ∈ t.bindings, b.id = id ∧ b.key = none

def IsMember (t : FormTable) (id : String) : Prop := ∃ e ∈ t.exclusives, ∃ m ∈ e.members, m.1 = id

structure WellFormed (t : FormTable) : Prop where
  ids : t.bindings.Pairwise fun b c => b.id ≠ c.id
  ranges : ∀ b ∈ t.bindings, b.control.Ordered
  scales : ∀ b ∈ t.bindings, 1 ≤ b.control.scale
  defaults : ∀ b ∈ t.bindings, b.control.Covers b.default
  toggles : ∀ g ∈ t.gates, t.Names g.toggle
  governed : ∀ g ∈ t.gates, ∀ id ∈ g.governs, t.Names id
  sentinels : ∀ g ∈ t.gates, g.sentinel.isSome →
    t.NamesKeyless g.toggle ∧ ∀ id ∈ g.governs, t.NamesKeyed id
  members : ∀ e ∈ t.exclusives, ∀ m ∈ e.members, t.NamesKeyless m.1
  shadowed : ∀ e ∈ t.exclusives, ∀ id ∈ e.shadowed, t.Names id
  sources : ∀ b ∈ t.bindings, b.key = none →
    (∃ g ∈ t.gates, g.sentinel.isSome ∧ g.toggle = b.id) ∨ t.IsMember b.id

def Faultless (seen : List String) (bs : List Binding) : Prop :=
  (∀ b ∈ bs, b.id ∉ seen ∧ b.control.Covers b.default ∧ 1 ≤ b.control.scale) ∧ bs.Pairwise fun b c => b.id ≠ c.id

theorem faultless_nil (seen : List String) : Faultless seen [] := ⟨nofun, .nil⟩

theorem faultless_cons {bs : List Binding} :
    Faultless seen (b :: bs) ↔
      (b.id ∉ seen ∧ b.control.Covers b.default ∧ 1 ≤ b.control.scale) ∧ Faultless (b.id :: seen) bs := by
  rw [Faultless, Faultless, List.forall_mem_cons, List.pairwise_cons]
  simp only [List.mem_cons, not_or]
  constructor
  · rintro ⟨⟨hb, hbs⟩, hne, hids⟩
    exact ⟨hb, fun c hc => ⟨⟨Ne.symm (hne c hc), (hbs c hc).1⟩, (hbs c hc).2⟩, hids⟩
  · rintro ⟨hb, hbs, hids⟩
    exact ⟨⟨hb, fun c hc => ⟨(hbs c hc).1.2, (hbs c hc).2⟩⟩, fun c hc => Ne.symm (hbs c hc).1.1, hids⟩

theorem covers_of_bindingFault? (h : bindingFault? seen b = some none) :
    b.id ∉ seen ∧ b.control.Covers b.default := by
  unfold bindingFault? at h
  split at h
  case isTrue => cases h
  case isFalse hseen =>
    obtain ⟨v, hv, hfault⟩ := Option.map_eq_some_iff.1 h
    split at hfault
    case isTrue => cases hfault
    case isFalse hd =>
      obtain rfl : v = b.default := by simpa using hd
      exact ⟨hseen, Control.takes_iff.1 hv⟩

theorem bindingFault?_of_covers (hseen : b.id ∉ seen) (h : b.control.Covers b.default) :
    bindingFault? seen b = some (if 1 ≤ b.control.scale then none else some (.malformedSlider b.id)) := by
  have htakes : b.clamp? b.default = some b.default := Control.takes_iff.2 h
  rw [bindingFault?, if_neg hseen, htakes, Option.map_some, if_neg (not_not_intro rfl)]
  cases hcontrol : b.control with
  | slider s =>
    have hordered : s.min ≤ s.max := by
      rw [hcontrol] at h
      exact Int32.le_trans h.1 h.2
    have hcond : (s.max < s.min ∨ s.scale < 1) ↔ ¬ 1 ≤ s.scale := by
      rw [Int32.not_le]
      exact or_iff_right (Int32.not_lt.2 hordered)
    by_cases hscale : 1 ≤ s.scale <;> simp [Control.scale, hcond, hscale]
  | checkbox d => rfl
  | choice options d => rfl

theorem bindingFault?_eq_some_none :
    bindingFault? seen b = some none ↔ b.id ∉ seen ∧ b.control.Covers b.default ∧ 1 ≤ b.control.scale := by
  constructor
  · intro h
    obtain ⟨hseen, hcovers⟩ := covers_of_bindingFault? h
    rw [bindingFault?_of_covers hseen hcovers] at h
    refine ⟨hseen, hcovers, ?_⟩
    by_contra hscale
    rw [if_neg hscale] at h
    cases h
  · rintro ⟨hseen, hcovers, hscale⟩
    rw [bindingFault?_of_covers hseen hcovers, if_pos hscale]

/-- The default is clamped before the range is looked at. -/
theorem bindingFault?_eq_none : bindingFault? seen b = none ↔ b.id ∉ seen ∧ ¬ b.control.Ordered := by
  unfold bindingFault?
  split
  case isTrue hseen => exact ⟨nofun, fun h => absurd hseen h.1⟩
  case isFalse hseen =>
    rw [Option.map_eq_none_iff, Binding.clamp?, Control.clamp?_eq_none]
    exact (and_iff_right hseen).symm

theorem bindingsFault?_eq_some_none {bs : List Binding} : bindingsFault? seen bs = some none ↔ Faultless seen bs := by
  induction bs generalizing seen with
  | nil => exact ⟨fun _ => faultless_nil seen, fun _ => rfl⟩
  | cons b bs ih =>
    rw [faultless_cons, ← bindingFault?_eq_some_none, ← ih, bindingsFault?]
    split
    case h_1 hb => exact (and_iff_right hb).symm
    case h_2 hb => exact ⟨fun h => absurd h (hb ·), fun h => absurd h.1 (hb ·)⟩

theorem bindingsFault?_eq_none {bs : List Binding} :
    bindingsFault? seen bs = none ↔
      ∃ front b rest, bs = front ++ b :: rest ∧ Faultless seen front ∧ b.id ∉ seen ∧ (∀ c ∈ front, c.id ≠ b.id) ∧
        ¬ b.control.Ordered := by
  induction bs generalizing seen with
  | nil => simp [bindingsFault?]
  | cons b bs ih =>
    rw [bindingsFault?]
    split
    case h_1 hb =>
      have hfine := bindingFault?_eq_some_none.1 hb
      rw [ih]
      constructor
      · rintro ⟨front, c, rest, rfl, hfront, hc, hids, hrange⟩
        obtain ⟨hne, hseen⟩ := not_or.1 fun h => hc (List.mem_cons.2 h)
        exact ⟨b :: front, c, rest, rfl, faultless_cons.2 ⟨hfine, hfront⟩, hseen,
          List.forall_mem_cons.2 ⟨Ne.symm hne, hids⟩, hrange⟩
      · rintro ⟨front, c, rest, heq, hfront, hseen, hids, hrange⟩
        cases front with
        | nil =>
          obtain ⟨rfl, rfl⟩ := List.cons.inj heq
          exact absurd hfine.2.1.ordered hrange
        | cons b' front =>
          obtain ⟨rfl, rfl⟩ := List.cons.inj heq
          obtain ⟨hne, hids⟩ := List.forall_mem_cons.1 hids
          have hnew := List.not_mem_cons_of_ne_of_not_mem (Ne.symm hne) hseen
          exact ⟨front, c, rest, rfl, (faultless_cons.1 hfront).2, hnew, hids, hrange⟩
    case h_2 hb =>
      rw [bindingFault?_eq_none]
      constructor
      · rintro ⟨hseen, hrange⟩
        exact ⟨[], b, bs, rfl, faultless_nil seen, hseen, List.forall_mem_nil _, hrange⟩
      · rintro ⟨front, c, rest, heq, hfront, hseen, hids, hrange⟩
        cases front with
        | nil =>
          obtain ⟨rfl, rfl⟩ := List.cons.inj heq
          exact ⟨hseen, hrange⟩
        | cons b' front =>
          obtain ⟨rfl, rfl⟩ := List.cons.inj heq
          exact absurd (bindingFault?_eq_some_none.2 (faultless_cons.1 hfront).1) (hb ·)

theorem knows_iff : t.knows id = true ↔ t.Names id := by
  simp [knows, binding?, Names, List.find?_isSome]

theorem sentinelGate?_eq_none : t.sentinelGate? id = none ↔ ¬ ∃ g ∈ t.gates, g.sentinel.isSome ∧ g.toggle = id := by
  simp [sentinelGate?, List.find?_eq_none, and_comm]

theorem exclusiveOf?_eq_none : t.exclusiveOf? id = none ↔ ¬ t.IsMember id := by
  simp [exclusiveOf?, IsMember, List.find?_eq_none]

theorem sourceFault?_eq_none :
    t.sourceFault? b = none ↔
      (b.key = none → (∃ g ∈ t.gates, g.sentinel.isSome ∧ g.toggle = b.id) ∨ t.IsMember b.id) := by
  have hcond : (b.key.isNone && (t.sentinelGate? b.id).isNone && (t.exclusiveOf? b.id).isNone) = true ↔
      b.key = none ∧ (¬ ∃ g ∈ t.gates, g.sentinel.isSome ∧ g.toggle = b.id) ∧ ¬ t.IsMember b.id := by
    rw [Bool.and_eq_true, Bool.and_eq_true, Option.isNone_iff_eq_none, Option.isNone_iff_eq_none,
      Option.isNone_iff_eq_none, sentinelGate?_eq_none, exclusiveOf?_eq_none, and_assoc]
  unfold sourceFault?
  split
  case isTrue h =>
    obtain ⟨hkey, hsource⟩ := hcond.1 h
    exact ⟨nofun, fun hs => absurd (hs hkey) (not_or.2 hsource)⟩
  case isFalse h =>
    refine ⟨fun _ hkey => ?_, fun _ => rfl⟩
    by_contra hs
    exact h (hcond.2 ⟨hkey, not_or.1 hs⟩)

section

variable (hids : t.bindings.Pairwise fun b c => b.id ≠ c.id)

include hids

theorem NamesKeyless.key (h : t.NamesKeyless id) (hb : b ∈ t.bindings) (hid : b.id = id) : b.key = none := by
  obtain ⟨c, hc, hcid, hkey⟩ := h
  rwa [eq_of_ids hids hb hc (hid.trans hcid.symm)]

theorem hasKey_iff : t.hasKey id = true ↔ t.NamesKeyed id := by
  simp only [hasKey, NamesKeyed, Option.isSome_bind, Option.any_eq_true, binding?_eq_some_iff hids, and_assoc]

theorem hasNoKey_iff : t.hasNoKey id = true ↔ t.NamesKeyless id := by
  have hany : t.hasNoKey id = (t.binding? id).any (·.key.isNone) := by
    unfold hasNoKey
    cases t.binding? id <;> rfl
  simp only [hany, NamesKeyless, Option.any_eq_true, binding?_eq_some_iff hids, Option.isNone_iff_eq_none, and_assoc]

theorem keyless_of_names (h : t.Names id) : t.hasKey id = false ↔ t.NamesKeyless id := by
  obtain ⟨b, hb, rfl⟩ := h
  rw [hasKey, binding?_of_ids hids hb, Option.bind_some, Option.isSome_eq_false_iff, Option.isNone_iff_eq_none]
  exact ⟨fun hkey => ⟨b, hb, rfl, hkey⟩, fun h => NamesKeyless.key hids h hb rfl⟩

theorem exclusiveFault?_eq_none :
    t.exclusiveFault? e = none ↔ (∀ m ∈ e.members, t.NamesKeyless m.1) ∧ ∀ id ∈ e.shadowed, t.Names id := by
  simp only [← hasNoKey_iff hids, ← knows_iff]
  unfold exclusiveFault?
  split
  case h_1 m hm =>
    have hfault := List.find?_some hm
    refine ⟨nofun, fun h => ?_⟩
    rw [h.1 m (List.mem_of_find?_eq_some hm)] at hfault
    cases hfault
  case h_2 hnone =>
    have hmembers : ∀ m ∈ e.members, t.hasNoKey m.1 = true := by simpa using hnone
    rw [Option.map_eq_none_iff, and_iff_right hmembers]
    simp

theorem gateFault?_eq_none :
    t.gateFault? g = none ↔ t.Names g.toggle ∧ (∀ id ∈ g.governs, t.Names id) ∧
      (g.sentinel.isSome → t.NamesKeyless g.toggle ∧ ∀ id ∈ g.governs, t.NamesKeyed id) := by
  unfold gateFault?
  split
  case isTrue htoggle =>
    refine ⟨nofun, fun h => ?_⟩
    rw [knows_iff.2 h.1] at htoggle
    cases htoggle
  case isFalse htoggle =>
    have htoggle : t.Names g.toggle := knows_iff.1 (by simpa using htoggle)
    rw [and_iff_right htoggle]
    split
    case h_1 id hid =>
      have hfault := List.find?_some hid
      refine ⟨nofun, fun h => ?_⟩
      rw [knows_iff.2 (h.1 id (List.mem_of_find?_eq_some hid))] at hfault
      cases hfault
    case h_2 hnone =>
      have hgoverned : ∀ id ∈ g.governs, t.Names id := by simpa [knows_iff] using hnone
      rw [and_iff_right hgoverned, ← keyless_of_names hids htoggle]
      simp only [← hasKey_iff hids]
      simp

end

def EmptyRangeFirst (t : FormTable) : Prop :=
  ∃ front b rest, t.bindings = front ++ b :: rest ∧ Faultless [] front ∧ (∀ c ∈ front, c.id ≠ b.id) ∧
    ¬ b.control.Ordered

theorem validate?_eq_none : t.validate? = none ↔ t.EmptyRangeFirst := by
  rw [validate?, Option.map_eq_none_iff, bindingsFault?_eq_none]
  simp only [List.not_mem_nil, not_false_eq_true, true_and, EmptyRangeFirst]

theorem validate?_eq_some_none :
    t.validate? = some none ↔ bindingsFault? [] t.bindings = some none ∧ (∀ g ∈ t.gates, t.gateFault? g = none) ∧
      (∀ e ∈ t.exclusives, t.exclusiveFault? e = none) ∧ ∀ b ∈ t.bindings, t.sourceFault? b = none := by
  rw [validate?, Option.map_eq_some_iff]
  simp only [Option.orElse_eq_orElse, Option.orElse_eq_or, Option.or_eq_none_iff, List.findSome?_eq_none_iff]
  constructor
  · rintro ⟨fault, hfault, rfl, hrest⟩
    exact ⟨hfault, hrest⟩
  · rintro ⟨hfault, hrest⟩
    exact ⟨none, hfault, rfl, hrest⟩

theorem wellFormed_of_validate? (h : t.validate? = some none) : t.WellFormed := by
  obtain ⟨hbindings, hgates, hexclusives, hsources⟩ := validate?_eq_some_none.1 h
  obtain ⟨hbs, hids⟩ := bindingsFault?_eq_some_none.1 hbindings
  have hgate := fun g hg => (gateFault?_eq_none hids).1 (hgates g hg)
  have hgroup := fun e he => (exclusiveFault?_eq_none hids).1 (hexclusives e he)
  exact {
    ids := hids
    ranges := fun b hb => (hbs b hb).2.1.ordered
    scales := fun b hb => (hbs b hb).2.2
    defaults := fun b hb => (hbs b hb).2.1
    toggles := fun g hg => (hgate g hg).1
    governed := fun g hg => (hgate g hg).2.1
    sentinels := fun g hg => (hgate g hg).2.2
    members := fun e he => (hgroup e he).1
    shadowed := fun e he => (hgroup e he).2
    sources := fun b hb => sourceFault?_eq_none.1 (hsources b hb) }

theorem WellFormed.validate?_eq (h : t.WellFormed) : t.validate? = some none := by
  refine validate?_eq_some_none.2 ⟨bindingsFault?_eq_some_none.2 ⟨?_, h.ids⟩, ?_, ?_, ?_⟩
  · exact fun b hb => ⟨List.not_mem_nil, h.defaults b hb, h.scales b hb⟩
  · exact fun g hg => (gateFault?_eq_none h.ids).2 ⟨h.toggles g hg, h.governed g hg, h.sentinels g hg⟩
  · exact fun e he => (exclusiveFault?_eq_none h.ids).2 ⟨h.members e he, h.shadowed e he⟩
  · exact fun b hb => sourceFault?_eq_none.2 (h.sources b hb)

/-- A table is accepted exactly if it is well-formed. Any other is refused, but for those of which the check does
not end: a default is clamped to its range before the range is looked at, so that the assertion in the clamping
fails where an empty range is the first thing that is wrong. -/
theorem validation_decides (t : FormTable) :
    (t.validate? = some none ↔ t.WellFormed) ∧ (t.validate? = none ↔ t.EmptyRangeFirst) ∧
      ((∃ fault, t.validate? = some (some fault)) ↔ ¬ t.WellFormed ∧ ¬ t.EmptyRangeFirst) := by
  have haccepts : t.validate? = some none ↔ t.WellFormed := ⟨wellFormed_of_validate?, WellFormed.validate?_eq⟩
  refine ⟨haccepts, validate?_eq_none, ?_⟩
  rw [← haccepts, ← validate?_eq_none]
  rcases t.validate? with _ | _ | fault <;> simp

def emptyRange : FormTable where
  name := "empty"
  title := "Empty"
  bindings := [{
    id := "height", key := some "Height", label := "Height", group := "tracking",
    control := .slider { min := 10, max := 0, default := 5 } }]
  gates := []
  exclusives := []

theorem empty_range_is_not_refused :
    ¬ emptyRange.WellFormed ∧ ¬ ∃ fault, emptyRange.validate? = some (some fault) := by
  have hbroken : emptyRange.validate? = none := by decide +kernel
  constructor
  · intro h
    exact absurd (h.ranges _ (List.mem_singleton.2 rfl)) (by decide)
  · rintro ⟨fault, hfault⟩
    cases hbroken.symm.trans hfault

end FormTable

end XrPanel
