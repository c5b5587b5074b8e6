import XrPanel.Proofs.PersistedChange
import XrPanel.Proofs.StoreFaults

namespace XrPanel

open Script

theorem faultyStore_intact : faultyStore.Intact FaultyHive.hive := by
  intro r s e h
  obtain ⟨hive, _ | ⟨_ | e, es⟩⟩ := s
  · exact (Hive.after_of_quiet hive (Hive.quiet_of_error h))
  · exact (Hive.after_of_quiet hive (Hive.quiet_of_error h))
  · rfl

namespace Form

variable {σ₁ σ₂ : Type} {st₁ : Store (StateM σ₁)} {st₂ : Store (StateM σ₂)} {hive₁ : σ₁ → Hive} {hive₂ : σ₂ → Hive}
variable {x₁ : σ₁} {x₂ : σ₂} {f : Form} {b : Binding} {v : Int32} {path : String} {ws : Writes}
variable {l m : List Step} {r : Request} {rs : List Request}

def writeRequests (path : String) (ws : Writes) : List Request :=
  if ws.isEmpty then [] else .ensurePath path :: ws.map fun w => .setDword path w.1 w.2

inductive Carried (rs : List Request) (l : List Step) : Bool → Prop
  | out (h : attempts l = rs.map (·, none)) : Carried rs l true
  | stopped (before : List Request) (r : Request) (rest : List Request) (e : StoreError)
    (hrs : rs = before ++ r :: rest) (h : attempts l = before.map (·, none) ++ [(r, some e)]) : Carried rs l false

theorem Carried.cons {ok : Bool} (h : Carried rs m ok) (hl : attempts l = (r, none) :: attempts m) :
    Carried (r :: rs) l ok := by
  cases h with
  | out h => exact .out (by rw [hl, h]; rfl)
  | stopped before r' rest e hrs h =>
    refine .stopped (r :: before) r' rest e ?_ ?_
    · rw [hrs]
      rfl
    · rw [hl, h]
      rfl

theorem Carried.first {e : StoreError} (hl : attempts l = [(r, some e)]) : Carried (r :: rs) l false :=
  .stopped [] _ _ e rfl hl

theorem Carried.clean_iff {ok : Bool} (h : Carried rs l ok) : ok = true ↔ Clean l := by
  rw [clean_iff_attempts]
  cases h with
  | out h => simp [h]
  | stopped before r rest e hrs h =>
    have hlast : (r, some e) ∈ attempts l := by simp [h]
    refine iff_of_false (by simp) fun hclean => ?_
    cases hclean _ hlast

theorem writeEach_carried (path : String) (ws : Writes) :
    (writeEach path ws).Ensures (Carried (ws.map fun w => .setDword path w.1 w.2)) := by
  induction ws with
  | nil => exact .out rfl
  | cons w ws ih =>
    rw [writeEach, ensures_bind, ensures_request]
    rintro (e | x)
    · exact Carried.first rfl
    · rw [ensures_bind]
      exact ih.mono fun l ok hl => hl.cons rfl

theorem writeAll_carried (path : String) (ws : Writes) :
    (writeAll path ws).Ensures (Carried (writeRequests path ws)) := by
  unfold writeAll writeRequests
  split
  case isTrue => exact .out rfl
  case isFalse =>
    rw [ensures_bind, ensures_request]
    rintro (e | x)
    · exact Carried.first rfl
    · exact (writeEach_carried path ws).mono fun l ok hl => hl.cons rfl

def plan (f : Form) (b : Binding) (v : Int32) : Script (Values × ReadBack) :=
  match f.table.sentinelGate? b.id, f.table.exclusiveOf? b.id with
  | some g, _ =>
    let governed := f.table.known g.governs
    let vs := f.values.set g.toggle v
    if v = 0 then pure (vs, .entries (sentinelValues g governed)) else readBack f.path g governed vs
  | none, some e =>
    if v = 0 then
      let vs := f.values.set b.id 0
      let ws := if f.value b.id = 0 then [] else (e.key, e.none) :: storedValues vs (f.table.known e.shadowed)
      pure (vs, .entries ws)
    else
      let vs := (e.members.foldl (fun vs m => vs.set m.1 0) f.values).set b.id 1
      pure (vs, .entries ((e.key, (e.codeOf? b.id).getD e.none) :: e.companions))
  | none, none => pure (f.values.set b.id v, .entries (b.key.toList.map fun key => (key, b.toStored v)))

def conclude (f : Form) (b : Binding) : Values × ReadBack → Script (Reply Change)
  | (vs, .broken) => pure ⟨{ f with values := vs }, none⟩
  | (vs, .unreadable) => pure ⟨{ f with values := vs }, some (.ok ⟨b.id, vs.value b.id, false⟩)⟩
  | (vs, .entries ws) => do
    let ok ← writeAll f.path ws
    pure ⟨{ f with values := vs }, some (.ok ⟨b.id, vs.value b.id, ok⟩)⟩

theorem plan_of_plain (hgate : f.table.sentinelGate? b.id = none) (hexclusive : f.table.exclusiveOf? b.id = none)
    (v : Int32) : f.plan b v =
      pure (f.values.set b.id v, .entries (b.key.toList.map fun key => (key, b.toStored v))) := by
  rw [plan, hgate, hexclusive]

theorem readBack_reads (path : String) (g : Gate) (bs : List Binding) (vs : Values) :
    (readBack path g bs vs).Reads := by
  induction bs generalizing vs with
  | nil => rfl
  | cons b bs ih =>
    rw [readBack]
    cases b.key with
    | none => exact ih vs
    | some key =>
      refine (reads_request rfl).bind ?_
      rintro (e | raw)
      · rfl
      · dsimp only
        split
        · rfl
        · exact (ih _).bind fun _ => rfl

theorem plan_reads (f : Form) (b : Binding) (v : Int32) : (f.plan b v).Reads := by
  unfold plan
  split
  · dsimp only
    split
    · rfl
    · exact readBack_reads _ _ _ _
  · split <;> rfl
  · rfl

theorem apply_eq (f : Form) (b : Binding) (v : Int32) :
    (f.apply b v >>= fun (values, persisted) =>
      pure (⟨{ f with values }, persisted.map fun p => .ok ⟨b.id, values.value b.id, p⟩⟩ : Reply Change)) =
      f.plan b v >>= f.conclude b := by
  unfold apply plan
  cases f.table.sentinelGate? b.id with
  | some g =>
    dsimp only
    unfold setOverride
    dsimp only
    split
    · exact Script.bind_assoc _ _ _
    · refine (Script.bind_assoc _ _ _).trans (congrArg (Script.bind _) (funext ?_))
      rintro ⟨vs, ws | _ | _⟩
      · exact Script.bind_assoc _ _ _
      · rfl
      · rfl
  | none =>
    cases f.table.exclusiveOf? b.id with
    | some e =>
      dsimp only
      unfold setExclusive
      dsimp only
      split
      · split
        · rfl
        · exact Script.bind_assoc _ _ _
      · exact Script.bind_assoc _ _ _
    | none => exact Script.bind_assoc _ _ _

theorem set_cases (f : Form) (id : String) (v : Int32) :
    (∃ r, f.set id v = pure r) ∨ ∃ b w, f.table.binding? id = some b ∧ b.clamp? v = some w ∧
      f.set id v = f.plan b w >>= f.conclude b := by
  unfold set binding
  cases hb : f.table.binding? id with
  | none => exact .inl ⟨_, rfl⟩
  | some b =>
    dsimp only
    split
    · cases hw : b.clamp? v with
      | none => exact .inl ⟨_, rfl⟩
      | some w => exact .inr ⟨b, w, rfl, hw, f.apply_eq b w⟩
    · exact .inl ⟨_, rfl⟩

theorem conclude_carried (f : Form) (b : Binding) (vs : Values) (ws : Writes) :
    (f.conclude b (vs, .entries ws)).Ensures fun l r => ∃ ok, Carried (writeRequests f.path ws) l ok ∧
      r = ⟨{ f with values := vs }, some (.ok ⟨b.id, vs.value b.id, ok⟩)⟩ := by
  unfold conclude
  rw [ensures_bind]
  refine (writeAll_carried f.path ws).mono fun l ok hl => ⟨ok, ?_, rfl⟩
  rwa [List.append_nil]

theorem mem_writeRequests (hr : r ∈ writeRequests path ws) :
    writeRequests path ws = .ensurePath path :: ws.map fun w => .setDword path w.1 w.2 := by
  unfold writeRequests at hr ⊢
  split
  case isTrue hempty =>
    rw [if_pos hempty] at hr
    cases hr
  case isFalse => rfl

theorem conclude_cut_short {p : Values × ReadBack} (hwhole : Clean ((f.conclude b p).runOn st₁ x₁).1.steps)
    (hbroken : ¬ Clean ((f.conclude b p).runOn st₂ x₂).1.steps) :
    ∃ (g : Form) (change : Change) (ws : Writes) (before rest : List Request) (r : Request) (e : StoreError),
      p.2 = .entries ws ∧ g = { f with values := p.1 } ∧ change = ⟨b.id, p.1.value b.id, true⟩ ∧
      .ensurePath f.path :: (ws.map fun w => .setDword f.path w.1 w.2) = before ++ r :: rest ∧
      ((f.conclude b p).runOn st₁ x₁).1.result = some ⟨g, some (.ok change)⟩ ∧
      ((f.conclude b p).runOn st₂ x₂).1.result = some ⟨g, some (.ok { change with persisted := false })⟩ ∧
      attempts ((f.conclude b p).runOn st₁ x₁).1.steps = (before ++ r :: rest).map (·, none) ∧
      attempts ((f.conclude b p).runOn st₂ x₂).1.steps = before.map (·, none) ++ [(r, some e)] := by
  obtain ⟨vs, ws | _ | _⟩ := p
  case unreadable => exact absurd clean_nil hbroken
  case broken => exact absurd clean_nil hbroken
  obtain ⟨r₁, hr₁, ok₁, hcarried₁, rfl⟩ := (f.conclude_carried b vs ws).runOn st₁ x₁
  obtain ⟨r₂, hr₂, ok₂, hcarried₂, rfl⟩ := (f.conclude_carried b vs ws).runOn st₂ x₂
  obtain rfl : ok₁ = true := hcarried₁.clean_iff.2 hwhole
  obtain rfl : ok₂ = false := by simpa using mt hcarried₂.clean_iff.1 hbroken
  cases hcarried₁ with
  | out h₁ =>
    cases hcarried₂ with
    | stopped before r rest e hrs h₂ =>
      have hmem : r ∈ writeRequests f.path ws := by simp [hrs]
      have hws := (mem_writeRequests hmem).symm.trans hrs
      exact ⟨_, _, ws, before, rest, r, e, rfl, rfl, rfl, hws, hr₁, hr₂, hrs ▸ h₁, h₂⟩

/-- A change goes on a store on which it fails to be written as on one on which no request fails, up to the request
that fails: the form is left with the same values, no more is asked, and the store holds what was written before. For
a control of its own that is the new value and the one entry of the control. -/
theorem failed_write_keeps_what_was_written (hst₁ : st₁.Backed hive₁) (hst₂ : st₂.Backed hive₂)
    (hintact : st₂.Intact hive₂) (hsame : hive₂ x₂ = hive₁ x₁) {id : String} {whole : Transcript (Reply Change) × σ₁}
    {broken : Transcript (Reply Change) × σ₂}
    (hwhole : (f.set id v).runOn st₁ x₁ = whole) (hclean : Clean whole.1.steps)
    (hbroken : (f.set id v).runOn st₂ x₂ = broken) (hfails : ¬ Clean broken.1.steps)
    (hreads : ∀ c ∈ attempts broken.1.steps, c.1.writes = false → c.2 = none) :
    ∃ (g : Form) (change : Change) (reads : List Request) (ws : Writes) (before rest : List Request) (r : Request)
      (e : StoreError),
      whole.1.result = some ⟨g, some (.ok change)⟩ ∧ change.persisted = true ∧
      broken.1.result = some ⟨g, some (.ok { change with persisted := false })⟩ ∧
      (∀ q ∈ reads, q.writes = false) ∧
      .ensurePath f.path :: (ws.map fun w => .setDword f.path w.1 w.2) = before ++ r :: rest ∧
      attempts whole.1.steps = (reads ++ before ++ r :: rest).map (·, none) ∧
      attempts broken.1.steps = (reads ++ before).map (·, none) ++ [(r, some e)] ∧
      hive₂ broken.2 = before.foldl Hive.after (hive₁ x₁) ∧
      ∀ b w, f.table.binding? id = some b → b.clamp? v = some w → f.table.sentinelGate? id = none →
        f.table.exclusiveOf? id = none → g = { f with values := f.values.set id w } ∧ change = ⟨id, w, true⟩ ∧
          reads = [] ∧ ws = b.key.toList.map fun key => (key, b.toStored w) := by
  rcases set_cases f id v with ⟨r, hset⟩ | ⟨b, w, hb, hw, hset⟩ <;> rw [hset] at hwhole hbroken
  case inl =>
    subst hbroken
    exact absurd clean_nil hfails
  have hleft := hst₂.hive_passed hintact (f.plan b w >>= f.conclude b) x₂
  subst hwhole hbroken
  obtain ⟨p, reads, y₁, y₂, hquiet, hplan, hrequests, hresult₁, hsteps₁, hresult₂, hsteps₂⟩ :=
    (f.plan_reads b w).alike hst₁ hst₂ hsame hclean hreads
  have hclean' : Clean ((f.conclude b p).runOn st₁ y₁).1.steps := by
    rw [clean_iff_attempts, hsteps₁] at hclean
    exact clean_iff_attempts.2 fun c hc => hclean c (List.mem_append_right _ hc)
  have hfails' : ¬ Clean ((f.conclude b p).runOn st₂ y₂).1.steps := by
    rw [clean_iff_attempts, hsteps₂] at hfails
    refine mt (fun h c hc => ?_) hfails
    rcases List.mem_append.1 hc with hc | hc
    · obtain ⟨q, -, rfl⟩ := List.mem_map.1 hc
      rfl
    · exact clean_iff_attempts.1 h c hc
  obtain ⟨g, change, ws, before, rest, r, e, hentries, rfl, rfl, hws, hr₁, hr₂, h₁, h₂⟩ :=
    conclude_cut_short hclean' hfails'
  refine ⟨_, _, reads, ws, before, rest, r, e, hresult₁.trans hr₁, rfl, hresult₂.trans hr₂, hquiet, hws,
    ?_, ?_, ?_, ?_⟩
  · rw [hsteps₁, h₁, List.append_assoc]
    exact List.map_append.symm
  · rw [hsteps₂, h₂, List.map_append, List.append_assoc]
  · rw [hleft, hsteps₂, h₂, passed_append, passed_append, passed_map, passed_map, passed_failed, List.append_nil,
      List.foldl_append, Hive.foldl_after_quiet hquiet, hsame]
  · intro b' w' hb' hw' hgate hexclusive
    obtain rfl := Option.some.inj (hb.symm.trans hb')
    obtain rfl := Option.some.inj (hw.symm.trans hw')
    obtain rfl := FormTable.id_of_binding? hb
    rw [plan_of_plain hgate hexclusive] at hplan hrequests
    obtain rfl := Option.some.inj hplan
    obtain rfl := ReadBack.entries.inj hentries
    have hvalue : (f.values.set b.id w).value b.id = w := by rw [Values.value_set, if_pos rfl]
    exact ⟨rfl, by rw [hvalue], hrequests.symm, rfl⟩

/-- The third request fails: the code of the rate is written, the offset that goes with it is not. -/
theorem failed_write_keeps_what_was_written_half :
    let path := "SOFTWARE\\PimaxXR"
    let f := new Pimax.experimental path
    let g : Form := { f with values := (f.values.set "force_half" 0 |>.set "force_third" 0).set "force_half" 1 }
    let broken := (f.set "force_half" 1).runOn faultyStore ⟨.empty, [none, none, some (.accessDenied path)]⟩
    ((f.set "force_half" 1).runOn hiveStore .empty).1.result = some ⟨g, some (.ok ⟨"force_half", 1, true⟩)⟩ ∧
    broken.1.result = some ⟨g, some (.ok ⟨"force_half", 1, false⟩)⟩ ∧
    broken.2.hive = [.ensurePath path, .setDword path Pimax.multiplierKey 100].foldl Hive.after .empty := by
  intro path f g broken
  have hresult : ((f.set "force_half" 1).runOn hiveStore .empty).1.result =
      some ⟨g, some (.ok ⟨"force_half", 1, true⟩)⟩ := rfl
  have hwhole : attempts ((f.set "force_half" 1).runOn hiveStore .empty).1.steps =
      [(.ensurePath path, none), (.setDword path Pimax.multiplierKey 100, none),
        (.setDword path Pimax.offsetKey 1000, none)] := rfl
  have hbroken : attempts broken.1.steps = [(.ensurePath path, none), (.setDword path Pimax.multiplierKey 100, none),
      (.setDword path Pimax.offsetKey 1000, some (.accessDenied path))] := rfl
  have hclean := clean_iff_attempts.2 (by rw [hwhole]; simp)
  have hfails : ¬ Clean broken.1.steps := by
    rw [clean_iff_attempts, hbroken]
    simp
  have hreads : ∀ c ∈ attempts broken.1.steps, c.1.writes = false → c.2 = none := by
    rw [hbroken]
    simp [Request.writes]
  obtain ⟨g', change, reads, ws, before, rest, r, e, hr₁, -, hr₂, hquiet, -, -, hcut, hleft, -⟩ :=
    failed_write_keeps_what_was_written hiveStore_backed faultyStore_backed faultyStore_intact rfl rfl hclean
      (show _ = broken from rfl) hfails hreads
  obtain ⟨rfl, rfl⟩ : g = g' ∧ ⟨"force_half", 1, true⟩ = change := by simpa using hresult.symm.trans hr₁
  refine ⟨hresult, hr₂, hleft.trans (congrArg (List.foldl Hive.after .empty) ?_)⟩
  have hwritten : reads ++ before = [.ensurePath path, .setDword path Pimax.multiplierKey 100] := by
    have hpassed := congrArg passed hcut.symm
    rw [passed_append, passed_map, passed_failed, List.append_nil] at hpassed
    rw [hpassed, hbroken]
    rfl
  cases reads with
  | nil => exact hwritten
  | cons q reads =>
    obtain ⟨rfl, -⟩ := List.cons.inj hwritten
    cases hquiet _ List.mem_cons_self

end Form

end XrPanel
