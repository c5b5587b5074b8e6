import XrPanel.Proofs.ReadOnlyForms
import XrPanel.Proofs.Refusals

namespace XrPanel

open Script

variable {σ : Type} {f : Form} {b : Binding} {v : Int32} {ok : Bool} {l m : List Step}

structure Reported (l : List Step) (ok : Bool) : Prop where
  clean_iff : ok = true ↔ Clean l
  notices : noticesIn l = if ok then [] else [.storeAccess]

namespace Reported

theorem nil : Reported [] true := ⟨by simp, rfl⟩

theorem asked (h : Reported l ok) (r : Request) : Reported (.asked r none :: l) ok :=
  ⟨h.clean_iff.trans (by simp), h.notices⟩

theorem logged (h : Reported l ok) (line : LogLine) : Reported (.told (.log line) :: l) ok :=
  ⟨h.clean_iff.trans (by simp), h.notices⟩

theorem append (hl : Reported l true) (hm : Reported m ok) : Reported (l ++ m) ok where
  clean_iff := by rw [hm.clean_iff, clean_append, and_iff_right (hl.clean_iff.1 rfl)]
  notices := by
    rw [noticesIn_append, hl.notices, hm.notices]
    rfl

theorem failure (r : Request) (e : StoreError) (line : LogLine) :
    Reported [.asked r (some e), .told (.log line), .told (.notice .storeAccess)] false := ⟨by simp, rfl⟩

end Reported

namespace Form

theorem ReadBack.cons_eq_broken {w : String × Int32} {ending : ReadBack} :
    ending.cons w = .broken ↔ ending = .broken := by
  cases ending <;> simp [ReadBack.cons]

theorem ReadBack.cons_eq_unreadable {w : String × Int32} {ending : ReadBack} :
    ending.cons w = .unreadable ↔ ending = .unreadable := by
  cases ending <;> simp [ReadBack.cons]

theorem writeEach_reported (path : String) (ws : Writes) : (writeEach path ws).Ensures Reported := by
  induction ws with
  | nil => exact .nil
  | cons w ws ih =>
    rw [writeEach, ensures_bind, ensures_request]
    rintro (e | x)
    · exact .failure _ e _
    · rw [ensures_bind]
      exact ih.mono fun l ok hl => (hl.logged _).asked _

theorem writeAll_reported (path : String) (ws : Writes) : (writeAll path ws).Ensures Reported := by
  unfold writeAll
  split
  case isTrue => exact .nil
  case isFalse =>
    rw [ensures_bind, ensures_request]
    rintro (e | x)
    · exact .failure _ e _
    · exact (writeEach_reported path ws).mono fun l ok hl => hl.asked _

theorem readBack_reported (path : String) (g : Gate) (bs : List Binding) (vs : Values) :
    (readBack path g bs vs).Ensures fun l p => p.2 ≠ .broken → Reported l (p.2 ≠ .unreadable) := by
  induction bs generalizing vs with
  | nil => exact fun _ => .nil
  | cons b bs ih =>
    rw [readBack]
    cases b.key with
    | none => exact ih vs
    | some key =>
      dsimp only
      rw [ensures_bind, ensures_request]
      rintro (e | raw)
      · exact fun _ => .failure _ e _
      · dsimp only
        split
        case h_1 => exact fun h => absurd rfl h
        case h_2 w _ =>
          rw [ensures_bind]
          refine (ih (vs.set b.id w)).mono ?_
          rintro l ⟨vs', ending⟩ hl hbroken
          have hreport := hl (mt ReadBack.cons_eq_broken.2 hbroken)
          change Reported (.asked _ none :: (l ++ [])) (decide (¬ ending.cons _ = .unreadable))
          rw [List.append_nil, decide_eq_decide.2 (not_congr ReadBack.cons_eq_unreadable)]
          exact hreport.asked _

theorem plan_reported (f : Form) (b : Binding) (v : Int32) :
    (f.plan b v).Ensures fun l p => p.2 ≠ .broken → Reported l (p.2 ≠ .unreadable) := by
  unfold plan
  split
  · dsimp only
    split
    · exact fun _ => .nil
    · exact readBack_reported _ _ _ _
  · split <;> exact fun _ => .nil
  · exact fun _ => .nil

theorem conclude_reported (f : Form) (b : Binding) {p : Values × ReadBack}
    (hl : p.2 ≠ .broken → Reported l (p.2 ≠ .unreadable)) :
    (f.conclude b p).Ensures fun m r => ∀ g c, r = ⟨g, some (.ok c)⟩ → Reported (l ++ m) c.persisted := by
  obtain ⟨vs, ws | _ | _⟩ := p
  · unfold conclude
    rw [ensures_bind]
    refine (writeAll_reported f.path ws).mono ?_
    rintro m ok hm g c h
    cases h
    rw [List.append_nil]
    exact (hl (by simp)).append hm
  · rintro g c h
    cases h
    rw [List.append_nil]
    exact hl (by simp)
  · rintro g c h
    cases h

def Settles (f : Form) (change : Script (Reply Change)) : Prop :=
  (∃ e, change = pure ⟨f, some (.error e)⟩) ∨
    change.Ensures fun l r => ∃ g c, r = ⟨g, some (.ok c)⟩ ∧ Reported l c.persisted

theorem set_settles (ht : f.table.Ordered) (id : String) (v : Int32) : f.Settles (f.set id v) := by
  by_cases h : ∃ e, f.Refuses id e
  · obtain ⟨e, he⟩ := h
    exact .inl ⟨e, set_of_refuses he v⟩
  · have haccepts := not_exists.1 h
    have hreported : (f.set id v).Ensures fun l r => ∀ g c, r = ⟨g, some (.ok c)⟩ → Reported l c.persisted := by
      obtain ⟨b, hset⟩ := set_of_accepts haccepts v
      rw [hset]
      cases b.clamp? v with
      | none => exact fun g c h => by cases h
      | some w =>
        dsimp only
        rw [ensures_bind]
        exact (f.plan_reported b w).mono fun l p hl => f.conclude_reported b hl
    -- A report is only known of changes that are not broken, and bounds that are ordered break none.
    refine .inr (((set_accepted ht haccepts v).and hreported).mono ?_)
    rintro l r ⟨⟨g, c, rfl⟩, hl⟩
    exact ⟨g, c, rfl, hl g c rfl⟩

theorem setText_settles (ht : f.table.Ordered) (id input : String) : f.Settles (f.setText id input) := by
  cases hb : f.table.binding? id with
  | none => exact .inl ⟨_, setText_of_none hb input⟩
  | some b =>
    rw [setText_of_some hb]
    cases b.control.parse input with
    | error expected => exact .inl ⟨_, rfl⟩
    | ok v => exact set_settles ht id v

/-- However a store answers, the user is told once of a request that fails, and of nothing else: a change is persisted
unless one of its requests fails, and a form is loaded as a whole or shows its defaults. To restore tells what the load
at its end tells, whichever entries could not be deleted, and what is refused tells nothing. -/
theorem failures_are_told_once (ht : f.table.Ordered) (st : Store (StateM σ)) (s : σ) :
    (∀ change, (∃ id v, change = f.set id v) ∨ (∃ id input, change = f.setText id input) →
      (∃ e, change.runOn st s = (⟨some ⟨f, some (.error e)⟩, []⟩, s)) ∨
      ∃ g c, (change.runOn st s).1.result = some ⟨g, some (.ok c)⟩ ∧
        (c.persisted = true ↔ Clean (change.runOn st s).1.steps) ∧
        (change.runOn st s).1.notices = if c.persisted then [] else [.storeAccess]) ∧
    changeRequests (f.load.runOn st s).1.steps = [] ∧
    (∀ hive, st.Follows hive → hive (f.load.runOn st s).2 = hive s) ∧
    (∃ r, (f.load.runOn st s).1.result = some r ∧
      Loads f (st.readings f.path f.table.ownedKeys s) r (f.load.runOn st s).1.notices) ∧
    (∀ restore keys, (restore = f.restoreDefaults ∧ keys = f.table.ownedKeys) ∨
        (∃ group ∈ f.table.groups, restore = f.restoreGroup group ∧ keys = f.table.groupKeys group) →
      let run := restore.runOn st s
      let last := f.load.runOn st (st.pruned f.path keys s)
      run.1.result = last.1.result ∧ run.1.notices = last.1.notices ∧ run.2 = last.2) ∧
    ∀ group ∉ f.table.groups, ∃ e, (f.restoreGroup group).runOn st s = (⟨some ⟨f, some (.error e)⟩, []⟩, s) := by
  refine ⟨fun change hchange => ?_, ?_, fun hive hst => load_unchanged hst ht s, load_answered ht st s, ?_,
    fun group hg => ?_⟩
  · have hsettles : f.Settles change := by
      rcases hchange with ⟨id, v, rfl⟩ | ⟨id, input, rfl⟩
      · exact set_settles ht id v
      · exact setText_settles ht id input
    rcases hsettles with ⟨e, rfl⟩ | hmade
    · exact .inl ⟨e, rfl⟩
    · obtain ⟨r, hr, g, c, rfl, hreported⟩ := hmade.runOn st s
      exact .inr ⟨g, c, hr, hreported.clean_iff, hreported.notices⟩
  · obtain ⟨r, -, hr, -⟩ := (load_restores ht).runOn st s
    exact hr.changes
  · rintro restore keys (⟨rfl, rfl⟩ | ⟨group, hg, rfl, rfl⟩)
    · exact reset_runOn st s f _ _ _ f.table.ownedKeys
    · rw [restoreGroup_of_known hg]
      exact reset_runOn st s f _ _ _ (f.table.groupKeys group)
  · have hnone : ∀ b ∈ f.table.bindings, b.group ≠ group := fun b hb h => hg (FormTable.mem_groups.2 ⟨b, hb, h⟩)
    rw [restoreGroup_of_unknown hnone]
    exact ⟨_, rfl⟩

theorem failures_are_told_once_half_read :
    let f : Form := { new pinned "P" with values := (new pinned "P").values.set "b" 1 }
    let start : FaultyHive := ⟨Hive.set .empty "P" "A" (.dword 7), [none, some (.accessDenied "P")]⟩
    let run := f.load.runOn faultyStore start
    pinned.Ordered ∧ run.1.result = some ⟨new pinned "P", some (.error (.store (.accessDenied "P")))⟩ ∧
    run.1.notices = [.storeAccess] := by
  intro f start
  have ht : pinned.Ordered := by decide
  obtain ⟨-, -, -, ⟨r, hr, hloads⟩, -⟩ := failures_are_told_once (f := f) ht faultyStore start
  have hread : start.hive.getDword "P" "A" = .ok (some 7) := by
    rw [Hive.getDword, Hive.get?_set, if_pos ⟨.refl "P", .refl "A"⟩]
  have hanswers : faultyStore.readings f.path f.table.ownedKeys start =
      [start.hive.getDword "P" "A", .error (.accessDenied "P")] := rfl
  rw [hread] at hanswers
  refine ⟨ht, ?_⟩
  rw [hanswers] at hloads
  generalize Transcript.notices _ = ns at hloads ⊢
  cases hloads with
  | shown raws vs h _ =>
    obtain _ | ⟨_, _ | ⟨_, raws⟩⟩ := raws <;> cases h
  | failed raws e rest h =>
    obtain _ | ⟨_, _ | ⟨_, raws⟩⟩ := raws <;> cases h
    exact ⟨hr, rfl⟩

end Form

end XrPanel
