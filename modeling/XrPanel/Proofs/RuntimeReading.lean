import XrPanel.ActiveRuntime
import XrPanel.Proofs.StoreChanges

namespace XrPanel

open Script Text

variable {σ : Type} {st : Store (StateM σ)} {hive : σ → Hive} {x : σ} {h : Hive}

theorem ActiveRuntime.classify_pimaxXr {manifest : Option String} {pimax : String} {steamVr steamVr' : Option String}
    (h : classify manifest pimax steamVr = .pimaxXr) : classify manifest pimax steamVr' = .pimaxXr := by
  unfold classify at h ⊢
  cases hm : manifest.map Text.trim with
  | none =>
    rw [hm] at h
    cases h
  | some m =>
    rw [hm] at h
    dsimp only at h ⊢
    split at h
    case isTrue => cases h
    case isFalse hblank =>
      split at h
      case isTrue hsame => rw [if_neg hblank, if_pos hsame]
      case isFalse => split at h <;> cases h

def ActiveRuntime.warnings : ActiveRuntime → List Notice
  | pimaxXr | steamVr => []
  | other manifest => [.error ("Unable to identify the active OpenXR runtime: " ++ manifest)]
  | none => [.error ("Unable to identify the active OpenXR runtime: " ++ "")]

namespace RuntimeSelector

def classified (s : RuntimeSelector) (h : Hive) : Option (Except StoreError ActiveRuntime) :=
  (s.active.runOn hiveStore h).1.result

theorem locateSteamVr_runOn (s : RuntimeSelector) (h : Hive) :
    (s.locateSteamVr.runOn hiveStore h).1.result = some ((h.getString steamPath installPathName).map
      fun folder => (folder.map (joinPath · steamVrManifest)).filter s.isFile) := by
  unfold locateSteamVr
  rw [runOn_request]
  dsimp only [hiveStore, Hive.answer]
  cases h.getString steamPath installPathName <;> rfl

theorem classified_eq (s : RuntimeSelector) (h : Hive) : s.classified h = some (do
    let manifest ← h.getString khronosPath activeRuntimeName
    let folder ← h.getString steamPath installPathName
    pure (.classify manifest s.pimaxManifest ((folder.map (joinPath · steamVrManifest)).filter s.isFile))) := by
  unfold classified active
  rw [runOn_request]
  dsimp only [hiveStore, Hive.answer]
  cases h.getString khronosPath activeRuntimeName with
  | error e => rfl
  | ok manifest =>
    change (Script.runOn (_ >>= _) hiveStore h).1.result = _
    rw [runOn_bind_some (locateSteamVr_runOn s h)]
    cases h.getString steamPath installPathName <;> rfl

theorem classified_pimaxXr {installDir : String} {isFile : String → Bool} (isFile' : String → Bool)
    (hp : (RuntimeSelector.mk installDir isFile).classified h = some (.ok .pimaxXr)) :
    (RuntimeSelector.mk installDir isFile').classified h = some (.ok .pimaxXr) := by
  rw [classified_eq] at hp ⊢
  cases hm : h.getString khronosPath activeRuntimeName with
  | error e =>
    rw [hm] at hp
    cases hp
  | ok manifest =>
    cases hf : h.getString steamPath installPathName with
    | error e =>
      rw [hm, hf] at hp
      cases hp
    | ok folder =>
      rw [hm, hf] at hp
      -- the manifest is compared with that of PimaxXR before it matters which files exist
      have hclassify : ActiveRuntime.classify manifest _ _ = .pimaxXr := Except.ok.inj (Option.some.inj hp)
      exact congrArg (fun a => some (Except.ok a)) (ActiveRuntime.classify_pimaxXr hclassify)

theorem active_ensures (s : RuntimeSelector) : s.active.Ensures fun l r =>
    changeRequests l = [] ∧ l.filterMap Step.event? = [] ∧ ∀ a, r = .ok a → Clean l := by
  rintro (e | manifest)
  · exact ⟨rfl, rfl, by simp⟩
  · rintro (e | folder)
    · exact ⟨rfl, rfl, by simp⟩
    · exact ⟨rfl, rfl, by simp [failure?]⟩

theorem active_reads (s : RuntimeSelector) : s.active.Reads := s.active_ensures.mono fun _ _ hl => hl.1

theorem pimaxIsActive_reads (s : RuntimeSelector) : s.pimaxIsActive.Reads := by
  refine s.active_reads.bind ?_
  rintro (e | _ | _ | manifest | _) <;> rfl

theorem classified_of_active (hst : st.Backed hive) {s : RuntimeSelector} {a : ActiveRuntime}
    (ha : (s.active.runOn st x).1.result = some (.ok a)) : s.classified (hive x) = some (.ok a) := by
  obtain ⟨r, hr, -, -, hclean⟩ := s.active_ensures.runOn st x
  obtain rfl : r = .ok a := Option.some.inj (hr.symm.trans ha)
  rw [classified, hst.runOn_of_clean _ (hclean a rfl), hr]

theorem pimaxIsActive_runOn {s : RuntimeSelector} {a : ActiveRuntime}
    (ha : (s.active.runOn st x).1.result = some (.ok a)) :
    (s.pimaxIsActive.runOn st x).1.result = some (decide (a = .pimaxXr)) ∧
      (s.pimaxIsActive.runOn st x).1.notices = a.warnings := by
  obtain ⟨-, -, -, hsilent, -⟩ := s.active_ensures.runOn st x
  rw [pimaxIsActive, runOn_bind_some ha]
  unfold Transcript.notices Transcript.events
  rw [List.filterMap_append, hsilent]
  cases a <;> exact ⟨rfl, rfl⟩

theorem pimaxIsActive_off (hst : st.Backed hive) {s : RuntimeSelector}
    (hoff : s.classified (hive x) ≠ some (.ok .pimaxXr)) : (s.pimaxIsActive.runOn st x).1.result = some false := by
  obtain ⟨r, hr, -⟩ := s.active_ensures.runOn st x
  cases r with
  | error e =>
    rw [pimaxIsActive, runOn_bind_some hr]
    rfl
  | ok a =>
    have hne : a ≠ .pimaxXr := by
      rintro rfl
      exact hoff (classified_of_active hst hr)
    rw [(pimaxIsActive_runOn hr).1, decide_eq_false hne]

end RuntimeSelector

end XrPanel
