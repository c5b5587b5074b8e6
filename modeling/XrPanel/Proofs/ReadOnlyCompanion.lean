import XrPanel.Command.Run
import XrPanel.Proofs.OpenedFile
import XrPanel.Proofs.ReadOnlyForms
import XrPanel.Proofs.RuntimeReading

namespace XrPanel

open Script Text

variable {σ : Type} {st : Store (StateM σ)} {hive : σ → Hive} {x : σ} {h : Hive}

namespace Form

def Action.restoring : Option String → Action
  | some group => .restoreGroup group
  | none => .restoreDefaults

def restoring (f : Form) : Option String → Script (Reply Unit)
  | some group => f.restoreGroup group
  | none => f.restoreDefaults

theorem restoring_restores {f : Form} (ht : f.table.Ordered) (group : Option String) :
    (f.restoring group).Ensures fun l r =>
      Restores f (f.table.restoredBy (.restoring group)) l r.form ∧ ∃ a, r.result = some a := by
  cases group with
  | none => exact reset_restores ht _ _
  | some group => exact restoreGroup_restores ht group

end Form

namespace Session

variable {s : Session}

def showReply (s : Session) (r : Reply Unit) : Script (Except Failure Unit) := do
  match ← assert r.result with
  | .error e => pure (.error (.ofForm e))
  | .ok _ =>
    s.printForm r.form
    pure (.ok ())

theorem reset_eq (s : Session) (p : Panel) (group : Option String) :
    s.reset p group = s.openForm p >>= fun f => f.restoring group >>= s.showReply := by
  unfold reset
  congr
  funext f
  cases group <;> rfl

theorem printForm_reads (s : Session) (f : Form) : (s.printForm f).Reads := by
  unfold printForm
  split <;> rfl

theorem showReply_reads (s : Session) {r : Reply Unit} {a : Except FormError Unit} (hr : r.result = some a) :
    (s.showReply r).Reads := by
  unfold showReply
  rw [hr]
  cases a with
  | error e => rfl
  | ok _ => exact (s.printForm_reads r.form).bind fun _ => rfl

theorem panel_loaded (p : Panel) (d : Deployment) : (p.openForm d).Ensures fun l f =>
    changeRequests l = [] ∧ f.table = p.table ∧ f.path = p.path d := by
  have hload := Form.load_quiet (f := Form.new p.table (p.path d)) (Values.lasting_of_ordered p.ordered)
  refine (Form.Invariant.settled hload).mono fun l f hf => ?_
  exact ⟨changeRequests_of_quiet hf.1, hf.2.table, hf.2.path⟩

theorem openForm_reads (s : Session) (p : Panel) : (s.openForm p).Reads := by
  have hloaded : (p.openForm s.deployment).Reads := (panel_loaded p s.deployment).mono fun _ _ hl => hl.1
  refine hloaded.bind fun f => ?_
  split
  case isTrue => exact s.selector.pimaxIsActive_reads.bind fun _ => rfl
  case isFalse => rfl

theorem openForm_companion (hst : st.Backed hive) (hfol : st.Follows hive)
    (hoff : s.selector.classified (hive x) ≠ some (.ok .pimaxXr)) :
    ∃ f, ((s.openForm .companion).runOn st x).1.result = some f ∧
      changeRequests ((s.openForm .companion).runOn st x).1.steps = [] ∧ f.table = Pimax.companion ∧
      f.path = Panel.companion.path s.deployment ∧ f.interactive = false := by
  obtain ⟨f, hf, hchanges, htable, hpath⟩ := (panel_loaded .companion s.deployment).runOn st x
  obtain ⟨-, -, hquiet⟩ := (s.openForm_reads .companion).runOn st x
  have hopen : (s.openForm .companion).runOn st x = _ := runOn_bind_some hf
  have hstays := hfol.unchanged_of_changeRequests _ hchanges
  rw [← hstays] at hoff
  -- loading has changed nothing, so the selector still finds the runtime of the hive at the start
  have hactive := runOn_bind_some (f := fun active => pure (f.setInteractive active))
    (RuntimeSelector.pimaxIsActive_off hst hoff)
  refine ⟨f.setInteractive false, ?_, hquiet, htable, hpath, rfl⟩
  rw [hopen, if_pos rfl, hactive]
  rfl

theorem change_companion (hst : st.Backed hive) (hfol : st.Follows hive)
    (hoff : s.selector.classified (hive x) ≠ some (.ok .pimaxXr)) (control value : String) :
    changeRequests ((s.change .companion control value).runOn st x).1.steps = [] := by
  obtain ⟨f, hf, hchanges, -, -, hinteractive⟩ := openForm_companion hst hfol hoff
  obtain ⟨e, he⟩ := Form.setText_refused hinteractive control value
  rw [change, runOn_bind_some hf, he]
  change changeRequests (_ ++ []) = []
  rw [List.append_nil, hchanges]

theorem reset_companion (hst : st.Backed hive) (hfol : st.Follows hive)
    (hoff : s.selector.classified (hive x) ≠ some (.ok .pimaxXr)) (group : Option String) :
    changeRequests ((s.reset .companion group).runOn st x).1.steps =
      (Pimax.companion.restoredBy (.restoring group)).map (.deleteValue (Panel.companion.path s.deployment)) := by
  obtain ⟨f, hf, hchanges, htable, hpath, -⟩ := openForm_companion hst hfol hoff
  have ht : f.table.Ordered := by
    rw [htable]
    decide
  obtain ⟨r, hr, hrestores, answer, hanswer⟩ :=
    (Form.restoring_restores ht group).runOn st ((s.openForm .companion).runOn st x).2
  obtain ⟨-, -, hshown⟩ := (s.showReply_reads hanswer).runOn st
    ((f.restoring group).runOn st ((s.openForm .companion).runOn st x).2).2
  rw [reset_eq, runOn_bind_some hf, changeRequests_append, hchanges, runOn_bind_some hr, changeRequests_append,
    hrestores.changes, hshown, htable, hpath, List.nil_append, List.append_nil]

end Session

namespace Invocation

open FileStore

variable {δ : Type} {d : Drive (StateM δ)} {path programDir : String} {file : δ → Option ByteArray}
variable {staged : δ → String → Option ByteArray} {i : Invocation} {z : δ}

theorem runOn_eq (d : Drive (StateM δ)) (i : Invocation) (installDir : String) (store : FileStore) (z : δ) :
    ∃ isFile z', (z' = z ∨ ∃ p, z' = (d.isFile p z).2) ∧
      let script := i.command.script ⟨i.deployment, i.json, ⟨installDir, isFile⟩⟩
      let ran := (opening store.path >>= fun _ => script).runOn (onDrive d) (store, z')
      i.runOn d installDir store z = (ran.1, ran.2.2) := by
  have hscript : ∀ (session : Session) (z' : δ),
      let script := opening store.path >>= fun _ => i.command.script session
      let ran := script.runOn (onDrive d) (store, z')
      (((script.run (fileStore d)).run store z').1.1, ((script.run (fileStore d)).run store z').2) =
        (ran.1, ran.2.2) := by
    intro session z' script ran
    rw [run_fileStore]
  unfold runOn
  cases steamVrCandidate? store.hive with
  | none => exact ⟨fun p => false && decide (none = some p), z, .inl rfl, hscript _ z⟩
  | some p =>
    exact ⟨fun p' => (d.isFile p z).1 && decide (some p = some p'), (d.isFile p z).2, .inr ⟨p, rfl⟩, hscript _ _⟩

section

variable (hstore : i.storeFile = some path) (hversion : i.command ≠ .version)

include hstore hversion

theorem run_eq (d : Drive (StateM δ)) (programDir : String) (z : δ) : i.run d programDir z =
    match contents path (d.read path z).1 with
    | .error e => (failed ⟨"failed to open " ++ path, e.message :: e.causes⟩, (d.read path z).2)
    | .ok h => i.runOn d (i.installDir.getD programDir) ⟨path, h⟩ (d.read path z).2 := by
  have helevation : i.needsElevation Elevation.isElevated ≠ true := by simp [needsElevation, hstore]
  have hopen : openAt d path z = ((contents path (d.read path z).1).map (⟨path, ·⟩), (d.read path z).2) := rfl
  unfold run
  rw [if_neg helevation, hstore]
  cases hc : i.command
  case version => exact absurd hc hversion
  all_goals
    dsimp only
    rw [stateM_bind, hopen]
    cases contents path (d.read path z).1 <;> rfl

variable (hd : d.KeepsFile path file staged)

include hd

theorem run_of_error {e : StoreError} (hheld : held path (file z) = .error e) : (i.run d programDir z).2 = z := by
  unfold held at hheld
  rw [run_eq hstore hversion, hd.read, hheld]

theorem run_of_off {isFile : String → Bool} (hheld : held path (file z) = .ok h)
    (hoff : (RuntimeSelector.mk (i.installDir.getD programDir) isFile).classified h ≠ some (.ok .pimaxXr)) :
    ∃ s : Session, s.deployment = i.deployment ∧ s.selector.classified h ≠ some (.ok .pimaxXr) ∧
      ∃ z', (z' = z ∨ ∃ p, z' = (d.isFile p z).2) ∧
        (i.run d programDir z).2 = ((i.command.script s).runOn (onDrive d) (⟨path, h⟩, z')).2.2 := by
  obtain ⟨isFile', z', hz', hrun⟩ := runOn_eq d i (i.installDir.getD programDir) ⟨path, h⟩ z
  unfold held at hheld
  rw [run_eq hstore hversion, hd.read, hheld]
  exact ⟨⟨i.deployment, i.json, _, isFile'⟩, rfl, mt (RuntimeSelector.classified_pimaxXr isFile) hoff, z', hz',
    congrArg Prod.snd hrun⟩

end

section

variable (hd : d.KeepsFile path file staged) (hfile : ∀ p z, file (d.isFile p z).2 = file z)
variable (hstore : i.storeFile = some path) {isFile : String → Bool} (hheld : held path (file z) = .ok h)
variable (hoff : (RuntimeSelector.mk (i.installDir.getD programDir) isFile).classified h ≠ some (.ok .pimaxXr))

include hd hfile hstore hheld hoff

theorem file_change_companion {control value : String} (hc : i.command = .change .companion control value) :
    file (i.run d programDir z).2 = file z := by
  have hversion : i.command ≠ .version := by simp [hc]
  obtain ⟨s, -, hoff, z', hz', hrun⟩ := run_of_off hstore hversion hd hheld hoff
  let w : FileStore × δ := (⟨path, h⟩, z')
  have hquiet := Session.change_companion (x := w) (onDrive_backed d) (onDrive_follows d) hoff control value
  have hstays : ((s.change .companion control value).runOn (onDrive d) w).2 = w := runOn_unchanged _ (by simp [hquiet])
  rw [hrun, hc, Command.script, hstays]
  rcases hz' with rfl | ⟨p, rfl⟩
  · rfl
  · exact hfile p z

theorem file_reset_companion {group : Option String} (hc : i.command = .reset .companion group) :
    let keys := Pimax.companion.restoredBy (.restoring group)
    let left := file (i.run d programDir z).2
    let pimax := Panel.companion.path i.deployment
    (∃ ks, ks.Sublist keys ∧ held path left = .ok (h.deleteEach pimax ks)) ∧
    ((∀ k ∈ keys, h.get? pimax k = none) → left = file z) ∧
    ∀ fit, d.Reliable path fit → fit z → held path left = .ok (h.deleteEach pimax keys) := by
  intro keys left pimax
  have hversion : i.command ≠ .version := by simp [hc]
  obtain ⟨s, hs, hoff, z', hz', hrun⟩ := run_of_off hstore hversion hd hheld hoff
  let w : FileStore × δ := (⟨path, h⟩, z')
  let run := (s.reset .companion group).runOn (onDrive d) w
  have hchanges := Session.reset_companion (x := w) (onDrive_backed d) (onDrive_follows d) hoff group
  have hsame : file z' = file z := by
    rcases hz' with rfl | ⟨p, rfl⟩
    · rfl
    · exact hfile p z
  have hleft : left = file run.2.2 := by
    change file (i.run d programDir z).2 = _
    rw [hrun, hc]
    rfl
  have hdurable : Durable path file w := ⟨rfl, by rw [hsame, hheld]⟩
  have hend : held path left = .ok run.2.1.hive := by
    rw [hleft]
    exact (hdurable.runOn hd _).held_eq
  rw [hs] at hchanges
  refine ⟨?_, fun habsent => ?_, fun fit hfit hz => ?_⟩
  · obtain ⟨ks, hks, hdeleted⟩ := (onDrive_follows d).deleteEach hchanges
    exact ⟨ks, hks, by rw [hend, hdeleted]⟩
  · have hstays : run.2 = w := by
      refine runOn_unchanged _ ?_
      rw [hchanges]
      intro r hr
      obtain ⟨k, hk, rfl⟩ := List.mem_map.1 hr
      have hnone : h.get? (Panel.companion.path i.deployment) k = none := habsent k hk
      simp [w, Hive.edit?, hnone]
    rw [hleft, hstays]
    exact hsame
  · have hfitted : fit z' := by
      rcases hz' with rfl | ⟨p, rfl⟩
      · exact hz
      · exact hfit.isFile hz p
    rw [hend, (onDrive_faultless hfit).deleteEach (onDrive_follows d) ⟨rfl, hfitted⟩ hchanges]

end

end Invocation

namespace Form

open FileStore

variable {f : Form} {as : List Action}

/-- A form that takes no input is still restored: of all that a user can ask of it, whatever requests fail, no more
comes than that entries of the groups that are restored are gone, which changes the store where no request fails and
one of them is there. So it is with the form of the companion while PimaxXR is not the active runtime: no value is
set in a store file, but restoring deletes. -/
theorem read_only_form_loses_what_is_restored (hfol : st.Follows hive) (ht : f.table.Ordered)
    (hoff : f.interactive = false) (has : .setInteractive true ∉ as) (x : σ) :
    (let keys := as.flatMap f.table.restoredBy
      let run := (performAll as f).runOn st x
      (∃ g, run.1.result = some g ∧ g.interactive = false) ∧
      (∃ ks : List String, ks.Sublist keys ∧ hive run.2 = (hive x).deleteEach f.path ks) ∧
      ((∀ k ∈ keys, (hive x).get? f.path k = none) → hive run.2 = hive x) ∧
      ∀ fit, st.Faultless hive fit → fit x → hive run.2 = (hive x).deleteEach f.path keys ∧
        (hive run.2 = hive x → ∀ k ∈ keys, (hive x).get? f.path k = none)) ∧
    ∀ {δ : Type} {d : Drive (StateM δ)} {path : String} {file : δ → Option ByteArray}
      {staged : δ → String → Option ByteArray}, d.KeepsFile path file staged →
      (∀ p z, file (d.isFile p z).2 = file z) →
      ∀ (i : Invocation) (programDir : String) (isFile : String → Bool) (z : δ), i.storeFile = some path →
      (∀ h, held path (file z) = .ok h →
        (RuntimeSelector.mk (i.installDir.getD programDir) isFile).classified h ≠ some (.ok .pimaxXr)) →
      let left := file (i.run d programDir z).2
      let pimax := Panel.companion.path i.deployment
      (∀ control value, i.command = .change .companion control value → left = file z) ∧
      ∀ group, i.command = .reset .companion group →
        let keys := Pimax.companion.restoredBy (.restoring group)
        match held path (file z) with
        | .error _ => left = file z
        | .ok h =>
          (∃ ks : List String, ks.Sublist keys ∧ held path left = .ok (h.deleteEach pimax ks)) ∧
          ((∀ k ∈ keys, h.get? pimax k = none) → left = file z) ∧
          ∀ fit, d.Reliable path fit → fit z → held path left = .ok (h.deleteEach pimax keys) := by
  constructor
  · intro keys run
    obtain ⟨g, hg, hrestores⟩ := (performAll_restores hoff ht has).runOn st x
    obtain ⟨ks, hks, hend⟩ := hfol.deleteEach hrestores.changes
    refine ⟨⟨g, hg, hrestores.interactive.trans hoff⟩, ⟨ks, hks, hend⟩, fun habsent => ?_, fun fit hst hx => ?_⟩
    · rw [hend, Hive.deleteEach_of_absent fun k hk => habsent k (hks.subset hk)]
    · have hall := hst.deleteEach hfol hx hrestores.changes
      exact ⟨hall, fun hsame => Hive.absent_of_deleteEach (hall.symm.trans hsame)⟩
  · intro δ d path file staged hd hfile i programDir isFile z hstore hoff left pimax
    cases hheld : held path (file z) with
    | error e =>
      have hnothing : ∀ c, i.command = c → c ≠ .version → left = file z := fun c hc hversion =>
        congrArg file (Invocation.run_of_error hstore (hc ▸ hversion) hd hheld)
      exact ⟨fun _ _ hc => hnothing _ hc (by simp), fun _ hc => hnothing _ hc (by simp)⟩
    | ok h =>
      have hoff := hoff h hheld
      exact ⟨fun _ _ hc => Invocation.file_change_companion hd hfile hstore hheld hoff hc,
        fun _ hc => Invocation.file_reset_companion hd hfile hstore hheld hoff hc⟩

def guardianOff : Hive := Hive.set .empty "SOFTWARE\\PimaxXR" "guardian" (.dword 0)

theorem get?_guardianOff (p n : String) : guardianOff.get? p n =
    if SameName "SOFTWARE\\PimaxXR" p ∧ SameName "guardian" n then some (.dword 0) else none := by
  rw [guardianOff, Hive.get?_set]
  rfl

theorem classified_guardianOff (s : RuntimeSelector) : s.classified guardianOff ≠ some (.ok .pimaxXr) := by
  have hruntime : ¬ SameName "SOFTWARE\\PimaxXR" khronosPath := by decide +kernel
  have hsteam : ¬ SameName "SOFTWARE\\PimaxXR" steamPath := by decide +kernel
  rw [RuntimeSelector.classified_eq, Hive.getString, Hive.getString, get?_guardianOff, get?_guardianOff,
    if_neg fun h => hruntime h.1, if_neg fun h => hsteam h.1]
  intro h
  cases h

theorem deleteEach_guardianOff {keys : List String} (hk : "guardian" ∈ keys) :
    guardianOff.deleteEach "SOFTWARE\\PimaxXR" keys ≠ guardianOff := by
  intro he
  have hnone := Hive.absent_of_deleteEach he _ hk
  rw [get?_guardianOff, if_pos ⟨SameName.refl _, SameName.refl _⟩] at hnone
  cases hnone

theorem held_guardianOff : held "store.json" (holding guardianOff).file = .ok guardianOff :=
  contents_holding "store.json" guardianOff

def resetCompanion : Invocation := ⟨false, some "store.json", false, false, none, .reset .companion none⟩

theorem read_only_form_loses_what_is_restored_guardian :
    let companion := (new Pimax.companion "SOFTWARE\\PimaxXR").setInteractive false
    let start : Memory := { hive := guardianOff }
    ((performAll [.set "guardian" 1, .restoreGroup "guardian"] companion).runOn memoryStore start).2.hive =
      start.hive.deleteEach companion.path ["guardian", "guardian_radius", "guardian_threshold"] ∧
    held "store.json" (resetCompanion.run PlannedFile.drive "" (holding guardianOff)).2.file =
      .ok (guardianOff.deleteEach (Panel.companion.path resetCompanion.deployment) Pimax.companion.ownedKeys) := by
  intro companion start
  have hactions : .setInteractive true ∉ [Action.set "guardian" 1, .restoreGroup "guardian"] := by simp
  have hoff : ∀ h, held "store.json" (holding guardianOff).file = .ok h →
      (RuntimeSelector.mk "" fun _ => false).classified h ≠ some (.ok .pimaxXr) := by
    rw [held_guardianOff]
    rintro _ ⟨⟩
    exact classified_guardianOff _
  obtain ⟨⟨-, -, -, hrestored⟩, hcommands⟩ :=
    read_only_form_loses_what_is_restored memoryStore_follows (f := companion) (by decide) rfl hactions start
  have hreset := (hcommands (PlannedFile.keepsFile "store.json") (fun _ _ => rfl) resetCompanion "" (fun _ => false)
    (holding guardianOff) rfl hoff).2 none rfl
  have hkeys : [Action.set "guardian" 1, .restoreGroup "guardian"].flatMap companion.table.restoredBy =
      ["guardian", "guardian_radius", "guardian_threshold"] := by decide
  rw [hkeys] at hrestored
  rw [held_guardianOff] at hreset
  obtain ⟨-, -, hdeleted⟩ := hreset
  have hform := (hrestored _ memoryStore_faultless ⟨rfl, rfl⟩).1
  exact ⟨hform, hdeleted _ (PlannedFile.reliable "store.json") rfl⟩

theorem restoring_guardianOff (ht : f.table.Ordered) (hpath : f.path = "SOFTWARE\\PimaxXR") (group : Option String)
    (hk : "guardian" ∈ f.table.restoredBy (.restoring group)) :
    ((f.restoring group).runOn hiveStore guardianOff).2 ≠ guardianOff := by
  obtain ⟨r, -, hrestores, -⟩ := (restoring_restores ht group).runOn hiveStore guardianOff
  have hfol : hiveStore.Follows id := fun _ _ => .inr rfl
  have hend := hiveStore_faultless.deleteEach hfol trivial hrestores.changes
  rw [hpath, id, id] at hend
  rw [hend]
  exact deleteEach_guardianOff hk

theorem restoring_changes_read_only_form :
    let companion := (new Pimax.companion "SOFTWARE\\PimaxXR").setInteractive false
    Pimax.companion.Ordered ∧
    (companion.restoreDefaults.runOn hiveStore guardianOff).2 ≠ guardianOff ∧
    ((companion.restoreGroup "guardian").runOn hiveStore guardianOff).2 ≠ guardianOff ∧
    held "store.json" (holding guardianOff).file = .ok guardianOff ∧
    (∀ s : RuntimeSelector, s.classified guardianOff ≠ some (.ok .pimaxXr)) ∧
    held "store.json" (resetCompanion.run PlannedFile.drive "" (holding guardianOff)).2.file ≠ .ok guardianOff := by
  intro companion
  have ht : companion.table.Ordered := by decide
  refine ⟨ht, restoring_guardianOff ht rfl none (by decide),
    restoring_guardianOff ht rfl (some "guardian") (by decide), held_guardianOff, classified_guardianOff, ?_⟩
  have hoff := classified_guardianOff ⟨"", fun _ => false⟩
  obtain ⟨-, -, hdeleted⟩ := Invocation.file_reset_companion (PlannedFile.keepsFile "store.json") (fun _ _ => rfl)
    (i := resetCompanion) rfl held_guardianOff hoff rfl
  rw [hdeleted _ (PlannedFile.reliable "store.json") rfl]
  intro hsame
  exact deleteEach_guardianOff (by decide) (Except.ok.inj hsame)

end Form

end XrPanel
