import XrPanel.Proofs.ManifestPaths
import XrPanel.Proofs.RuntimeReading

namespace XrPanel

open Script Text

namespace RuntimeSelector

variable {σ : Type} {st : Store (StateM σ)} {hive : σ → Hive} {x : σ} {h : Hive}
variable {s : RuntimeSelector} {c : RuntimeChoice}

theorem faithful_perform (rs : List Request) : (perform rs).Faithful := by
  induction rs with
  | nil => exact faithful_ok ()
  | cons r rs ih => exact (faithful_request r).bind (fun e => ⟨e, rfl⟩) fun _ => ih

theorem faithful_selectBy (name : String) (rs : List Request) : (selectBy name rs).Faithful :=
  (faithful_perform rs).bind (fun e => ⟨.store e, rfl⟩) fun _ _ _ => by simp

theorem faithful_locateSteamVr (s : RuntimeSelector) : s.locateSteamVr.Faithful :=
  (faithful_request _).bind (fun e => ⟨e, rfl⟩) fun _ => faithful_ok _

theorem faithful_select (s : RuntimeSelector) (c : RuntimeChoice) : (s.select c).Faithful := by
  cases c with
  | pimaxXr => exact faithful_selectBy _ _
  | steamVr =>
    refine s.faithful_locateSteamVr.bind (fun e => ⟨.store e, rfl⟩) ?_
    rintro (_ | manifest)
    · exact faithful_error _
    · exact faithful_selectBy _ _

def folder? (s : RuntimeSelector) (h : Hive) : RuntimeChoice → Option String
  | .pimaxXr => some s.installDir
  | .steamVr => (h.getString steamPath installPathName).toOption.join

def activating (manifest : String) (rest : List Request) : List Request :=
  .ensurePath khronosPath :: .setString khronosPath activeRuntimeName manifest :: rest

theorem getString_activated (h : Hive) (manifest : String) {rest : List Request}
    (hrest : ∀ r ∈ rest, r.path = khronosPath32) :
    let left := (activating manifest rest).foldl Hive.after h
    left.getString khronosPath activeRuntimeName = .ok (some manifest) ∧
      left.getString steamPath installPathName = h.getString steamPath installPathName := by
  have hother : ∀ r ∈ rest, ¬ SameName r.path khronosPath := by
    intro r hr
    rw [hrest r hr]
    decide +kernel
  have hsteam : ∀ r ∈ activating manifest rest, ¬ SameName r.path steamPath := by
    intro r hr
    have hpath : r.path = khronosPath ∨ r.path = khronosPath32 := by
      simp only [activating, List.mem_cons] at hr
      rcases hr with rfl | rfl | hr
      · exact .inl rfl
      · exact .inl rfl
      · exact .inr (hrest r hr)
    rcases hpath with hpath | hpath <;> rw [hpath] <;> decide +kernel
  intro left
  constructor
  · have hset : left.get? khronosPath activeRuntimeName = some (.string manifest) := by
      rw [show left = rest.foldl Hive.after _ from rfl, Hive.get?_foldl_elsewhere hother]
      change (Hive.set _ _ _ _).get? _ _ = _
      rw [Hive.get?_set, if_pos ⟨SameName.refl _, SameName.refl _⟩]
    rw [Hive.getString, hset]
  · rw [Hive.getString, Hive.getString, Hive.get?_foldl_elsewhere hsteam]

theorem locateSteamVr_stays (s : RuntimeSelector) (h : Hive) : (s.locateSteamVr.runOn hiveStore h).2 = h := by
  unfold locateSteamVr
  rw [runOn_request]
  dsimp only [hiveStore, Hive.answer]
  cases h.getString steamPath installPathName <;> rfl

theorem select_runOn (hok : ((s.select c).runOn hiveStore h).1.result = some (.ok ())) :
    ∃ folder rest, s.folder? h c = some folder ∧ (∀ r ∈ rest, r.path = khronosPath32) ∧
      (c = .steamVr → s.isFile (c.manifest folder) = true) ∧
      ((s.select c).runOn hiveStore h).2 = (activating (c.manifest folder) rest).foldl Hive.after h := by
  cases c with
  | pimaxXr =>
    let rest : List Request := [.ensurePath khronosPath32, .setString khronosPath32 activeRuntimeName s.pimaxManifest32]
    have hrest : ∀ r ∈ rest, r.path = khronosPath32 := by simp [rest, Request.path]
    exact ⟨s.installDir, rest, rfl, hrest, by simp, rfl⟩
  | steamVr =>
    let rest : List Request := [.deleteValue khronosPath32 activeRuntimeName]
    have hrest : ∀ r ∈ rest, r.path = khronosPath32 := by simp [rest, Request.path]
    have hlocated := s.locateSteamVr_runOn h
    rw [select, runOn_bind_some hlocated] at hok ⊢
    cases hf : h.getString steamPath installPathName with
    | error e =>
      rw [hf] at hok
      cases hok
    | ok found =>
      rw [hf] at hok
      rw [Except.map] at hok ⊢
      cases found with
      | none => cases hok
      | some folder =>
        by_cases hfile : s.isFile (joinPath folder steamVrManifest) = true
        · rw [Option.map_some, Option.filter_some_pos hfile]
          have hfolder : s.folder? h .steamVr = some folder := by
            rw [folder?, hf]
            rfl
          rw [locateSteamVr_stays]
          exact ⟨folder, rest, hfolder, hrest, fun _ => hfile, rfl⟩
        · rw [Option.map_some, Option.filter_some_neg (by simpa using hfile)] at hok
          cases hok

theorem classified_select (hok : ((s.select c).runOn hiveStore h).1.result = some (.ok ())) :
    ∃ folder, s.folder? h c = some folder ∧ s.classified ((s.select c).runOn hiveStore h).2 =
      some ((h.getString steamPath installPathName).map fun _ => c.readBack folder) := by
  obtain ⟨folder, rest, hfolder, hrest, hfile, hleft⟩ := select_runOn hok
  obtain ⟨hmanifest, hsteam⟩ := getString_activated h (c.manifest folder) hrest
  refine ⟨folder, hfolder, ?_⟩
  rw [hleft, classified_eq, hmanifest, hsteam]
  cases hf : h.getString steamPath installPathName with
  | error e => rfl
  | ok found =>
    refine congrArg (fun a => some (Except.ok a)) ?_
    cases c with
    | pimaxXr =>
      obtain rfl : s.installDir = folder := Option.some.inj hfolder
      apply ActiveRuntime.classify_pimaxManifest
      intro m hm
      obtain ⟨folder, -, rfl⟩ := Option.map_eq_some_iff.1 (Option.mem_filter_iff.1 hm).1
      exact ⟨folder, rfl⟩
    | steamVr =>
      rw [folder?, hf] at hfolder
      obtain rfl : found = some folder := hfolder
      have hlocated : (some (joinPath folder steamVrManifest)).filter s.isFile =
          some (RuntimeChoice.steamVr.manifest folder) := Option.filter_some_pos (hfile rfl)
      rw [Option.map_some, hlocated]
      exact ActiveRuntime.classify_steamVrManifest s.installDir folder

/-- A runtime that was selected is found active again, and no one is told anything, as long as the folder of its
manifest does not begin with a blank: the manifest is written as it is, and read without blanks at its ends. -/
theorem selection_is_read_back (hst : st.Backed hive) (s : RuntimeSelector) (c : RuntimeChoice) (x : σ) :
    let chosen := (s.select c).runOn st x
    chosen.1.result = some (.ok ()) →
    ∃ folder, s.folder? (hive x) c = some folder ∧ ∀ y a, hive y = hive chosen.2 →
      (s.active.runOn st y).1.result = some (.ok a) →
      let told := (s.pimaxIsActive.runOn st y).1
      let found := trim (c.manifest folder)
      (¬ BeginsBlank folder → a = c.runtime ∧ told.result = some (decide (c = .pimaxXr)) ∧ told.notices = []) ∧
      (BeginsBlank folder → a = .other found ∧ told.result = some false ∧
        told.notices = [.error ("Unable to identify the active OpenXR runtime: " ++ found)]) := by
  intro chosen hok
  obtain ⟨r, hr, hclean⟩ := (faithful_select s c).runOn st x
  obtain rfl : r = .ok () := Option.some.inj (hr.symm.trans hok)
  have hclean := hclean () rfl
  have hleft : hive chosen.2 = ((s.select c).runOn hiveStore (hive x)).2 := hst.hive_of_clean _ hclean
  obtain ⟨folder, hfolder, hback⟩ := classified_select (by rw [hst.runOn_of_clean _ hclean, hok])
  refine ⟨folder, hfolder, fun y a hy ha => ?_⟩
  have hclassified := classified_of_active hst ha
  rw [hy, hleft, hback] at hclassified
  obtain rfl : a = c.readBack folder := by
    cases hf : (hive x).getString steamPath installPathName with
    | error e =>
      rw [hf] at hclassified
      cases hclassified
    | ok found =>
      rw [hf] at hclassified
      exact (Except.ok.inj (Option.some.inj hclassified)).symm
  obtain ⟨hresult, hnotices⟩ := pimaxIsActive_runOn ha
  intro told found
  constructor <;> intro hblank
  · rw [hresult, hnotices, RuntimeChoice.readBack, if_neg hblank]
    cases c <;> exact ⟨rfl, rfl, rfl⟩
  · rw [hresult, hnotices, RuntimeChoice.readBack, if_pos hblank]
    exact ⟨rfl, rfl, rfl⟩

def steamMachine : Hive := Hive.set .empty steamPath installPathName (.string "C:\\Steam\\")

theorem getString_steamMachine : steamMachine.getString steamPath installPathName = .ok (some "C:\\Steam\\") := by
  rw [Hive.getString, steamMachine, Hive.get?_set, if_pos ⟨SameName.refl _, SameName.refl _⟩]

theorem selection_is_read_back_steam :
    let s : RuntimeSelector := ⟨"C:\\PimaxXR", fun _ => true⟩
    let left := ((s.select .steamVr).runOn hiveStore steamMachine).2
    ((s.select .steamVr).runOn hiveStore steamMachine).1.result = some (.ok ()) ∧
      (s.active.runOn hiveStore left).1.result = some (.ok .steamVr) ∧
      (s.pimaxIsActive.runOn hiveStore left).1.result = some false ∧
      (s.pimaxIsActive.runOn hiveStore left).1.notices = [] := by
  intro s left
  have hok : ((s.select .steamVr).runOn hiveStore steamMachine).1.result = some (.ok ()) := by
    rw [select, runOn_bind_some (s.locateSteamVr_runOn _), getString_steamMachine]
    rfl
  have hsteam : s.folder? steamMachine .steamVr = some "C:\\Steam\\" := by
    rw [folder?, getString_steamMachine]
    rfl
  have hactive : s.classified left = some (.ok .steamVr) := by
    obtain ⟨folder, hfolder, hclassified⟩ := classified_select hok
    obtain rfl : "C:\\Steam\\" = folder := Option.some.inj (hsteam.symm.trans hfolder)
    rw [hclassified, getString_steamMachine]
    rfl
  obtain ⟨folder, hfolder, hback⟩ := selection_is_read_back hiveStore_backed s .steamVr steamMachine hok
  obtain rfl : "C:\\Steam\\" = folder := Option.some.inj (hsteam.symm.trans hfolder)
  rw [classified] at hactive
  obtain ⟨-, hresult, hnotices⟩ := (hback left _ rfl hactive).1 (by decide)
  exact ⟨hok, hactive, hresult, hnotices⟩

theorem blank_folder_is_not_read_back :
    let s : RuntimeSelector := ⟨" C:\\PimaxXR", fun _ => false⟩
    let left := ((s.select .pimaxXr).runOn hiveStore .empty).2
    let manifest := "C:\\PimaxXR\\pimax-openxr.json"
    ((s.select .pimaxXr).runOn hiveStore .empty).1.result = some (.ok ()) ∧
      (s.active.runOn hiveStore left).1.result = some (.ok (.other manifest)) ∧
      (s.pimaxIsActive.runOn hiveStore left).1.result = some false ∧
      (s.pimaxIsActive.runOn hiveStore left).1.notices =
        [.error ("Unable to identify the active OpenXR runtime: " ++ manifest)] := by
  intro s left manifest
  have hok : ((s.select .pimaxXr).runOn hiveStore .empty).1.result = some (.ok ()) := rfl
  have hactive : s.classified left = some (.ok (.other manifest)) := by
    obtain ⟨folder, hfolder, hclassified⟩ := classified_select hok
    obtain rfl : s.installDir = folder := Option.some.inj hfolder
    have hother : RuntimeChoice.pimaxXr.readBack s.installDir = .other manifest := by
      rw [RuntimeChoice.readBack, if_pos (by decide)]
      exact congrArg ActiveRuntime.other (by decide +kernel)
    rw [hclassified, hother]
    rfl
  clear_value left
  rw [classified] at hactive
  exact ⟨hok, hactive, pimaxIsActive_runOn hactive⟩

end RuntimeSelector

end XrPanel
