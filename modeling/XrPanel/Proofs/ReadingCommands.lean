import XrPanel.Command.Arguments
import XrPanel.Proofs.ReadOnlyCompanion
import XrPanel.Store.Disk

namespace XrPanel

open Script

namespace Session

theorem view_reads (s : Session) (p : Panel) : (s.view p).Reads :=
  (s.openForm_reads p).bind fun f => (s.printForm_reads f).bind fun _ => rfl

theorem active_reads (s : Session) : s.active.Reads := by
  refine s.selector.active_reads.bind ?_
  rintro (e | a) <;> rfl

theorem status_reads (s : Session) : s.status.Reads := by
  unfold status
  dsimp only
  split <;> rfl

end Session

theorem Command.reads {c : Command} (hc : c.writesStore = false) (s : Session) : (c.script s).Reads := by
  cases c with
  | view p => exact s.view_reads p
  | status => exact s.status_reads
  | active => exact s.active_reads
  | version => rfl
  | change p control value => cases hc
  | reset p group => cases hc
  | select choice => cases hc

namespace Invocation

open FileStore

variable {δ α : Type} {d : Drive (StateM δ)} {seen : δ → α} {i : Invocation}

theorem runOn_reads (hi : i.command.writesStore = false) (hfile : ∀ p z, seen (d.isFile p z).2 = seen z)
    (installDir : String) (store : FileStore) (z : δ) :
    changeRequests (i.runOn d installDir store z).1.steps = [] ∧ seen (i.runOn d installDir store z).2 = seen z := by
  obtain ⟨isFile, z', hz', hrun⟩ := runOn_eq d i installDir store z
  let s : Session := ⟨i.deployment, i.json, ⟨installDir, isFile⟩⟩
  obtain ⟨-, -, hreads⟩ := (Command.reads hi s).runOn (onDrive d) (store, z')
  have hstays : ((i.command.script s).runOn (onDrive d) (store, z')).2 = (store, z') :=
    runOn_unchanged _ (by simp [hreads])
  have hsame : seen z' = seen z := by
    rcases hz' with rfl | ⟨p, rfl⟩
    · rfl
    · exact hfile p z
  rw [hrun]
  refine ⟨hreads, ?_⟩
  change seen ((i.command.script s).runOn (onDrive d) (store, z')).2.2 = seen z
  rw [hstays, hsame]

theorem run_without_store (hi : i.command.writesStore = false) (h : i.command = .version ∨ i.storeFile = none)
    (d : Drive (StateM δ)) (programDir : String) (z : δ) :
    (i.run d programDir z).1.requests = [] ∧ (i.run d programDir z).2 = z := by
  have helevation : i.needsElevation Elevation.isElevated ≠ true := by simp [needsElevation, hi]
  unfold run
  rw [if_neg helevation]
  rcases h with hversion | hstore
  · rw [hversion]
    exact ⟨rfl, rfl⟩
  · rw [hstore]
    cases i.command <;> exact ⟨rfl, rfl⟩

theorem run_reads (hi : i.command.writesStore = false) (d : Drive (StateM δ)) (seen : δ → α)
    (hread : ∀ p z, seen (d.read p z).2 = seen z) (hfile : ∀ p z, seen (d.isFile p z).2 = seen z) (programDir : String)
    (z : δ) :
    (∀ r ∈ (i.run d programDir z).1.requests, r.writes = false) ∧ seen (i.run d programDir z).2 = seen z := by
  by_cases hnone : i.command = .version ∨ i.storeFile = none
  · obtain ⟨hrequests, hstays⟩ := run_without_store hi hnone d programDir z
    rw [hrequests, hstays]
    exact ⟨by simp, rfl⟩
  · obtain ⟨hversion, hstore⟩ := not_or.1 hnone
    obtain ⟨path, hstore⟩ := Option.ne_none_iff_exists'.1 hstore
    rw [run_eq hstore hversion]
    cases contents path (d.read path z).1 with
    | error e => exact ⟨fun r hr => (List.not_mem_nil hr).elim, hread path z⟩
    | ok h =>
      obtain ⟨hquiet, hsame⟩ := runOn_reads hi hfile (i.installDir.getD programDir) ⟨path, h⟩ (d.read path z).2
      exact ⟨changeRequests_eq_nil.1 hquiet, hsame.trans (hread path z)⟩

/-- A command that is not taken for one that writes asks no store for a change, whatever the store answers, and of the
drive it leaves everything that reading files and looking for them leave: no store file is written or made. -/
theorem reading_commands_change_nothing (hi : i.command.writesStore = false) :
    (∀ {σ : Type} (st : Store (StateM σ)) (s : Session) (x : σ),
      ∀ r ∈ ((i.command.script s).runOn st x).1.requests, r.writes = false) ∧
    (∀ {δ α : Type} (d : Drive (StateM δ)) (seen : δ → α), (∀ p z, seen (d.read p z).2 = seen z) →
      (∀ p z, seen (d.isFile p z).2 = seen z) → ∀ (programDir : String) (z : δ),
      (∀ r ∈ (i.run d programDir z).1.requests, r.writes = false) ∧ seen (i.run d programDir z).2 = seen z) ∧
    ∀ (programDir : String) (disk : Disk), (i.run diskDrive programDir disk).2 = disk := by
  refine ⟨?_, ?_, ?_⟩
  · intro σ st s x
    obtain ⟨-, -, hreads⟩ := (Command.reads hi s).runOn st x
    exact changeRequests_eq_nil.1 hreads
  · intro δ α d seen hread hfile programDir z
    exact run_reads hi d seen hread hfile programDir z
  · intro programDir disk
    exact (run_reads hi diskDrive id (fun _ _ => rfl) (fun _ _ => rfl) programDir disk).2

theorem reading_commands_change_nothing_show :
    let i : Invocation := ⟨false, some "store.json", false, true, none, .view .companion⟩
    (Arguments.parse ⟨none, none, none⟩ ["--store-file", "store.json", "--json", "show", "companion"]).toOption =
      some i ∧
    i.command.writesStore = false ∧ (i.run diskDrive "" {}).2 = {} ∧
    ∀ r ∈ ((i.command.script ⟨.bundled, true, ⟨"", fun _ => false⟩⟩).runOn memoryStore { denyAll := true }).1.requests,
      r.writes = false := by
  intro i
  obtain ⟨hscript, -, hdisk⟩ := reading_commands_change_nothing (i := i) rfl
  exact ⟨by decide +kernel, rfl, hdisk "" {}, hscript memoryStore _ _⟩

end Invocation

end XrPanel
