import XrPanel.Proofs.FailedWrites
import XrPanel.Proofs.HiveHistory
import XrPanel.Proofs.ManifestPaths

namespace XrPanel

open Script Text

def IsSeparator (c : Char) : Prop := c = '\\' ∨ c = '/'

theorem folderChars_append {tail : String} (htail : ∀ c ∈ tail.toList, IsSeparator c) (folder : String) :
    folderChars (folder ++ tail) = folderChars folder := by
  have hreverse : ∀ c ∈ tail.toList.reverse, (decide (c = '\\') || decide (c = '/')) = true := by
    intro c hc
    simpa [IsSeparator] using htail c (List.mem_reverse.1 hc)
  rw [folderChars, String.toList_append, List.reverse_append, List.dropWhile_append_of_pos hreverse, folderChars]

theorem joinPath_append {tail : String} (htail : ∀ c ∈ tail.toList, IsSeparator c) (folder file : String) :
    joinPath (folder ++ tail) file = joinPath folder file := by
  rw [← String.toList_inj, toList_joinPath, toList_joinPath, folderChars_append htail]

namespace RuntimeSelector

variable {σ : Type} {st : Store (StateM σ)} {hive : σ → Hive} {x : σ} {h h' : Hive} {s : RuntimeSelector}
variable {rs : List Request} {r : Request} {cs : List (Request × Option StoreError)} {out : Except FormError Unit}

/-- What comes of requests that are made in order: either all of them take effect, or one fails, which is what is
returned, and those before it have taken effect. -/
inductive Effect (rs : List Request) (h : Hive) :
    List (Request × Option StoreError) → Except FormError Unit → Hive → Prop
  | whole : Effect rs h (rs.map (·, none)) (.ok ()) (rs.foldl Hive.after h)
  | cut (before : List Request) (r : Request) (rest : List Request) (e : StoreError) (hrs : rs = before ++ r :: rest) :
    Effect rs h (before.map (·, none) ++ [(r, some e)]) (.error (.store e)) (before.foldl Hive.after h)

theorem Effect.cons (he : Effect rs (h.after r) cs out h') : Effect (r :: rs) h ((r, none) :: cs) out h' := by
  cases he with
  | whole => exact .whole
  | cut before r' rest e hrs => exact .cut (r :: before) r' rest e (congrArg (r :: ·) hrs)

theorem Effect.eq_of_ok (he : Effect rs h cs (.ok ()) h') : h' = rs.foldl Hive.after h := by
  cases he
  rfl

theorem Effect.eq_passed (he : Effect rs h cs out h') : h' = (passed cs).foldl Hive.after h := by
  cases he with
  | whole => rw [passed_map]
  | cut before r rest e hrs => rw [passed_append, passed_map, passed_failed, List.append_nil]

theorem perform_effect (hst : st.Backed hive) (hintact : st.Intact hive) (rs : List Request) (x : σ) :
    let run := (perform rs).runOn st x
    ∃ done, run.1.result = some done ∧
      Effect rs (hive x) (attempts run.1.steps) (done.mapError .store) (hive run.2) := by
  induction rs generalizing x with
  | nil => exact ⟨.ok (), rfl, .whole⟩
  | cons r rs ih =>
    rw [perform, runOn_request]
    dsimp only
    cases ha : (st r x).1 with
    | error e =>
      -- the rest is not asked for, and the request that fails changes nothing
      have hstays : hive (st r x).2 = hive x := hintact r x e ha
      refine ⟨.error e, rfl, ?_⟩
      change Effect (r :: rs) (hive x) [(r, some e)] (.error (.store e)) (hive (st r x).2)
      rw [hstays]
      exact .cut [] r rs e rfl
    | ok a =>
      obtain ⟨done, hdone, heffect⟩ := ih (st r x).2
      refine ⟨done, hdone, ?_⟩
      rw [hst.after ha] at heffect
      exact heffect.cons

theorem selectBy_effect (hst : st.Backed hive) (hintact : st.Intact hive) (name : String) (rs : List Request) (x : σ) :
    let run := (selectBy name rs).runOn st x
    ∃ out, run.1.result = some out ∧ Effect rs (hive x) (attempts run.1.steps) out (hive run.2) := by
  obtain ⟨done, hdone, heffect⟩ := perform_effect hst hintact rs x
  rw [selectBy, runOn_bind_some hdone]
  refine ⟨done.mapError .store, ?_, ?_⟩
  · cases done <;> rfl
  · rw [attempts_append]
    cases done <;> exact (List.append_nil _).symm ▸ heffect

theorem select_steamVr (s : RuntimeSelector) :
    s.select .steamVr = request (.getString steamPath installPathName) >>= fun
      | .error e => pure (.error (.store e))
      | .ok folder =>
        match (folder.map (joinPath · steamVrManifest)).filter s.isFile with
        | none => pure (.error (.runtimeNotFound "SteamVR"))
        | some manifest => selectBy "SteamVR" (steamVrRequests manifest) := by
  refine (Script.bind_assoc _ _ _).trans (congrArg (Script.bind _) (funext ?_))
  rintro (e | folder)
  · rfl
  · dsimp only
    cases (folder.map (joinPath · steamVrManifest)).filter s.isFile <;> rfl

def Activates (r : Request) : Prop :=
  r.Within khronosPath [activeRuntimeName] ∨ r.Within khronosPath32 [activeRuntimeName]

def IsActiveEntry (p n : String) : Prop :=
  Reaches khronosPath [activeRuntimeName] p n ∨ Reaches khronosPath32 [activeRuntimeName] p n

theorem pimaxRequests_activate (s : RuntimeSelector) : ∀ r ∈ s.pimaxRequests, Activates r := by
  simp [pimaxRequests, Activates, Request.Within]

theorem steamVrRequests_activate (manifest : String) : ∀ r ∈ steamVrRequests manifest, Activates r := by
  simp [steamVrRequests, Activates, Request.Within]

section

variable {p n : String}

theorem entries_after (hr : Activates r) (hout : ¬ IsActiveEntry p n) (h : Hive) (v : Value) :
    (p, n, v) ∈ (h.after r).entries ↔ (p, n, v) ∈ h.entries := by
  obtain ⟨hout₆₄, hout₃₂⟩ := not_or.1 hout
  rcases hr with hr | hr
  · exact (Hive.frame_after h hr).entries hout₆₄ v
  · exact (Hive.frame_after h hr).entries hout₃₂ v

theorem entries_foldl (hrs : ∀ r ∈ rs, Activates r) (hout : ¬ IsActiveEntry p n) (h : Hive) (v : Value) :
    (p, n, v) ∈ (rs.foldl Hive.after h).entries ↔ (p, n, v) ∈ h.entries := by
  induction rs generalizing h with
  | nil => rfl
  | cons r rs ih =>
    obtain ⟨hr, hrest⟩ := List.forall_mem_cons.1 hrs
    exact (ih hrest (h.after r)).trans (entries_after hr hout h v)

theorem Effect.entries (he : Effect rs h cs out h') (hrs : ∀ r ∈ rs, Activates r) (hout : ¬ IsActiveEntry p n)
    (v : Value) : (p, n, v) ∈ h'.entries ↔ (p, n, v) ∈ h.entries := by
  cases he with
  | whole => exact entries_foldl hrs hout h v
  | cut before r rest e hpart =>
    rw [hpart] at hrs
    exact entries_foldl (fun r hr => hrs r (List.mem_append_left _ hr)) hout h v

end

theorem khronos_ne : ¬ SameName khronosPath32 khronosPath := by decide +kernel

theorem get?_pimaxRequests (s : RuntimeSelector) (h : Hive) :
    let left := s.pimaxRequests.foldl Hive.after h
    left.get? khronosPath activeRuntimeName = some (.string s.pimaxManifest) ∧
      left.get? khronosPath32 activeRuntimeName = some (.string s.pimaxManifest32) := by
  intro left
  let made := ((h.after (.ensurePath khronosPath)).set khronosPath activeRuntimeName (.string s.pimaxManifest)).after
    (.ensurePath khronosPath32)
  have hleft : left = made.set khronosPath32 activeRuntimeName (.string s.pimaxManifest32) := rfl
  rw [hleft, Hive.get?_set, Hive.get?_set, if_neg fun hsame => khronos_ne hsame.1,
    if_pos ⟨SameName.refl _, SameName.refl _⟩, Hive.get?_after_ensurePath, Hive.get?_set,
    if_pos ⟨SameName.refl _, SameName.refl _⟩]
  exact ⟨rfl, rfl⟩

theorem get?_steamVrRequests (hd : h.Distinct) (manifest : String) :
    let left := (steamVrRequests manifest).foldl Hive.after h
    left.get? khronosPath activeRuntimeName = some (.string manifest) ∧
      left.get? khronosPath32 activeRuntimeName = none := by
  intro left
  let written := (h.after (.ensurePath khronosPath)).set khronosPath activeRuntimeName (.string manifest)
  have hwritten : written.Distinct := (hd.after _).set _ _ _
  have hleft : left = written.delete khronosPath32 activeRuntimeName := Hive.after_deleteValue written _ _
  rw [hleft, hwritten.get?_delete, hwritten.get?_delete, if_neg fun hsame => khronos_ne hsame.1,
    if_pos ⟨SameName.refl _, SameName.refl _⟩, Hive.get?_set, if_pos ⟨SameName.refl _, SameName.refl _⟩]
  exact ⟨rfl, rfl⟩

section

variable {e : StoreError} {folder : Option String} {dir : String}

theorem steamVr_unread (hintact : st.Intact hive) (s : RuntimeSelector)
    (hfound : (st (.getString steamPath installPathName) x).1 = .error e) :
    let run := (s.select .steamVr).runOn st x
    run.1.result = some (.error (.store e)) ∧ hive run.2 = hive x := by
  rw [select_steamVr, runOn_request]
  dsimp only
  rw [hfound]
  exact ⟨rfl, hintact _ x e hfound⟩

theorem steamVr_not_located (hst : st.Backed hive)
    (hfound : (st (.getString steamPath installPathName) x).1 = .ok folder)
    (hnone : ∀ d ∈ folder, s.isFile (joinPath d steamVrManifest) = false) :
    let run := (s.select .steamVr).runOn st x
    run.1.result = some (.error (.runtimeNotFound "SteamVR")) ∧ hive run.2 = hive x := by
  have hlocated : (folder.map (joinPath · steamVrManifest)).filter s.isFile = none := by
    cases folder with
    | none => rfl
    | some d => exact Option.filter_some_neg (by simpa using hnone d rfl)
  rw [select_steamVr, runOn_request]
  dsimp only
  rw [hfound]
  dsimp only
  rw [hlocated]
  exact ⟨rfl, hst.after hfound⟩

theorem steamVr_located (hst : st.Backed hive) (hintact : st.Intact hive)
    (hfound : (st (.getString steamPath installPathName) x).1 = .ok (some dir))
    (hfile : s.isFile (joinPath dir steamVrManifest) = true) :
    let run := (s.select .steamVr).runOn st x
    ∃ out cs, run.1.result = some out ∧ attempts run.1.steps = (.getString steamPath installPathName, none) :: cs ∧
      Effect (steamVrRequests (joinPath dir steamVrManifest)) (hive x) cs out (hive run.2) := by
  have hlocated : ((some dir).map (joinPath · steamVrManifest)).filter s.isFile =
      some (joinPath dir steamVrManifest) := Option.filter_some_pos hfile
  have hread : hive (st (.getString steamPath installPathName) x).2 = hive x := hst.after hfound
  rw [select_steamVr, runOn_request]
  dsimp only
  rw [hfound]
  dsimp only
  rw [hlocated]
  obtain ⟨out, hout, heffect⟩ := selectBy_effect hst hintact "SteamVR" (steamVrRequests (joinPath dir steamVrManifest))
    (st (.getString steamPath installPathName) x).2
  rw [hread] at heffect
  exact ⟨out, _, hout, rfl, heffect⟩

theorem steamVr_cases (hst : st.Backed hive) (hintact : st.Intact hive) (s : RuntimeSelector) (x : σ) :
    let run := (s.select .steamVr).runOn st x
    ((∃ err, run.1.result = some (.error err)) ∧ hive run.2 = hive x) ∨
      ∃ d, (st (.getString steamPath installPathName) x).1 = .ok (some d) ∧
        s.isFile (joinPath d steamVrManifest) = true := by
  cases hfound : (st (.getString steamPath installPathName) x).1 with
  | error e =>
    obtain ⟨hresult, hstays⟩ := steamVr_unread hintact s hfound
    exact .inl ⟨⟨_, hresult⟩, hstays⟩
  | ok folder =>
    by_cases hnone : ∀ d ∈ folder, s.isFile (joinPath d steamVrManifest) = false
    · obtain ⟨hresult, hstays⟩ := steamVr_not_located hst hfound hnone
      exact .inl ⟨⟨_, hresult⟩, hstays⟩
    · obtain ⟨d, rfl, hfile⟩ : ∃ d, folder = some d ∧ s.isFile (joinPath d steamVrManifest) = true := by
        simpa using hnone
      exact .inr ⟨d, rfl, hfile⟩

end

theorem select_append {tail : String} (htail : ∀ c ∈ tail.toList, IsSeparator c) (s : RuntimeSelector)
    (c : RuntimeChoice) : { s with installDir := s.installDir ++ tail }.select c = s.select c := by
  cases c with
  | pimaxXr => rw [select, select, pimaxRequests, pimaxRequests, pimaxManifest, pimaxManifest, pimaxManifest32,
      pimaxManifest32, joinPath_append htail, joinPath_append htail]
  | steamVr => rfl

/-- What comes of a selection, whichever request fails. The entries are set to the manifests in the folder of the
runtime, however many separators end its name. SteamVR has none for 32-bit applications, so that entry is gone.
Nothing is changed if SteamVR cannot be found; a request that fails later leaves what was done before it. -/
theorem selection_takes_effect (hst : st.Backed hive) (hintact : st.Intact hive) (s : RuntimeSelector)
    {changes : List Hive.Change} (hx : hive x = Hive.made changes) :
    let pimax := (s.select .pimaxXr).runOn st x
    let steam := (s.select .steamVr).runOn st x
    let found := (st (.getString steamPath installPathName) x).1
    (∃ out, pimax.1.result = some out ∧
      Effect s.pimaxRequests (hive x) (attempts pimax.1.steps) out (hive pimax.2)) ∧
    (pimax.1.result = some (.ok ()) →
      (hive pimax.2).get? khronosPath activeRuntimeName = some (.string (joinPath s.installDir "pimax-openxr.json")) ∧
      (hive pimax.2).get? khronosPath32 activeRuntimeName =
        some (.string (joinPath s.installDir "pimax-openxr-32.json"))) ∧
    (∀ e, found = .error e → steam.1.result = some (.error (.store e)) ∧ hive steam.2 = hive x) ∧
    (∀ folder, found = .ok folder → (∀ d ∈ folder, s.isFile (joinPath d steamVrManifest) = false) →
      steam.1.result = some (.error (.runtimeNotFound "SteamVR")) ∧ hive steam.2 = hive x) ∧
    (∀ d, found = .ok (some d) → s.isFile (joinPath d steamVrManifest) = true → ∃ out cs,
      steam.1.result = some out ∧ attempts steam.1.steps = (.getString steamPath installPathName, none) :: cs ∧
      Effect (steamVrRequests (joinPath d steamVrManifest)) (hive x) cs out (hive steam.2)) ∧
    (steam.1.result = some (.ok ()) → ∃ d, (hive x).getString steamPath installPathName = .ok (some d) ∧
      s.isFile (joinPath d steamVrManifest) = true ∧
      (hive steam.2).get? khronosPath activeRuntimeName = some (.string (joinPath d steamVrManifest)) ∧
      (hive steam.2).get? khronosPath32 activeRuntimeName = none) ∧
    (∀ c p n v, ¬ IsActiveEntry p n →
      ((p, n, v) ∈ (hive ((s.select c).runOn st x).2).entries ↔ (p, n, v) ∈ (hive x).entries)) ∧
    ∀ tail, (∀ c ∈ tail.toList, IsSeparator c) →
      (∀ c, { s with installDir := s.installDir ++ tail }.select c = s.select c) ∧
      ∀ d, joinPath (d ++ tail) steamVrManifest = joinPath d steamVrManifest := by
  intro pimax steam found
  obtain ⟨out, hout, hpimax⟩ := selectBy_effect hst hintact "PimaxXR" s.pimaxRequests x
  have hcases := steamVr_cases hst hintact s x
  refine ⟨⟨out, hout, hpimax⟩, fun hok => ?_, fun e => steamVr_unread hintact s, fun folder => steamVr_not_located hst,
    fun d => steamVr_located hst hintact, fun hok => ?_, fun c p n v hother => ?_, fun tail htail => ?_⟩
  · obtain rfl : out = .ok () := Option.some.inj (hout.symm.trans hok)
    have hleft : hive pimax.2 = _ := hpimax.eq_of_ok
    rw [hleft]
    exact get?_pimaxRequests s (hive x)
  · rcases hcases with ⟨⟨err, herr⟩, -⟩ | ⟨d, hfound, hfile⟩
    · cases herr.symm.trans hok
    · obtain ⟨out, cs, hout, -, heffect⟩ := steamVr_located hst hintact hfound hfile
      obtain rfl : out = .ok () := Option.some.inj (hout.symm.trans hok)
      have hleft : hive steam.2 = _ := heffect.eq_of_ok
      have hd : (hive x).Distinct := hx ▸ Hive.made_distinct changes
      rw [hleft]
      exact ⟨d, hst.answer hfound, hfile, get?_steamVrRequests hd _⟩
  · cases c with
    | pimaxXr => exact hpimax.entries s.pimaxRequests_activate hother v
    | steamVr =>
      rcases hcases with ⟨-, hstays⟩ | ⟨d, hfound, hfile⟩
      · rw [hstays]
      · obtain ⟨out, cs, -, -, heffect⟩ := steamVr_located hst hintact hfound hfile
        exact heffect.entries (steamVrRequests_activate _) hother v
  · exact ⟨select_append htail s, fun d => joinPath_append htail d _⟩

theorem selection_takes_effect_half :
    let s : RuntimeSelector := ⟨"C:\\PimaxXR\\", fun _ => false⟩
    let denied := StoreError.accessDenied khronosPath32
    let run := (s.select .pimaxXr).runOn faultyStore ⟨.empty, [none, none, some denied]⟩
    run.1.result = some (.error (.store denied)) ∧
      run.2.hive = [.ensurePath khronosPath, .setString khronosPath activeRuntimeName
        "C:\\PimaxXR\\pimax-openxr.json"].foldl Hive.after .empty := by
  intro s denied run
  have hmanifest : s.pimaxManifest = "C:\\PimaxXR\\pimax-openxr.json" := by decide +kernel
  have hpassed : passed (attempts run.1.steps) =
      [.ensurePath khronosPath, .setString khronosPath activeRuntimeName s.pimaxManifest] := rfl
  have hempty : (.empty : Hive) = Hive.made [] := rfl
  obtain ⟨⟨out, hout, heffect⟩, -⟩ := selection_takes_effect faultyStore_backed faultyStore_intact s
    (x := ⟨.empty, [none, none, some denied]⟩) hempty
  obtain rfl : .error (.store denied) = out := Option.some.inj (hout.symm.trans rfl).symm
  have hleft : run.2.hive = (passed (attempts run.1.steps)).foldl Hive.after .empty := heffect.eq_passed
  rw [hleft, hpassed, hmanifest]
  exact ⟨hout, rfl⟩

end RuntimeSelector

end XrPanel
