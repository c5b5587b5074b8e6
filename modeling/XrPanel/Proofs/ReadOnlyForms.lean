import XrPanel.Proofs.FormReach
import XrPanel.Proofs.StoreChanges

namespace XrPanel

open Script

variable {σ : Type} {f f' f'' : Form} {t : FormTable} {path : String} {keys keys' : List String} {l m : List Step}

def FormTable.restoredBy (t : FormTable) : Form.Action → List String
  | .restoreDefaults => t.ownedKeys
  | .restoreGroup group => if group ∈ t.groups then t.groupKeys group else []
  | .set .. | .setText .. | .load | .setInteractive _ => []

namespace Form

/-- The form is as before but for its values, and of the entries only those names have been asked to be deleted. -/
structure Restores (f : Form) (keys : List String) (l : List Step) (f' : Form) : Prop where
  changes : changeRequests l = keys.map (.deleteValue f.path)
  table : f'.table = f.table
  path : f'.path = f.path
  interactive : f'.interactive = f.interactive

theorem Restores.refl (f : Form) : Restores f [] [] f := ⟨rfl, rfl, rfl, rfl⟩

theorem Restores.trans (h : Restores f keys l f') (h' : Restores f' keys' m f'') :
    Restores f (keys ++ keys') (l ++ m) f'' where
  changes := by rw [changeRequests_append, h.changes, h'.changes, h.path, List.map_append]
  table := h'.table.trans h.table
  path := h'.path.trans h.path
  interactive := h'.interactive.trans h.interactive

theorem deleteKeys_changes (path : String) (keys : List String) :
    (deleteKeys path keys).Ensures fun l _ => changeRequests l = keys.map (.deleteValue path) := by
  induction keys with
  | nil => rfl
  | cons key keys ih =>
    rw [deleteKeys, ensures_bind, ensures_request]
    rintro (e | x)
    · exact ih.mono fun l _ hl => congrArg (_ :: ·) hl
    · exact ih.mono fun l _ hl => congrArg (_ :: ·) hl

theorem load_interactive : f.load.Ensures fun _ r => r.form.interactive = f.interactive := by
  unfold load
  rw [ensures_bind]
  refine (read_ensures _ _ _).mono ?_
  rintro l (e | s) -
  · rfl
  · dsimp only
    cases Values.ofSnapshot? f.table s <;> rfl

section

variable (ht : f.table.Ordered)

include ht

theorem load_restores : f.load.Ensures fun l r => Restores f [] l r.form ∧ ∃ x, r.result = some x := by
  refine ((load_quiet (Values.lasting_of_ordered ht)).and load_interactive).mono ?_
  rintro l r ⟨hr, hinteractive⟩
  exact ⟨⟨changeRequests_of_quiet hr.steps, hr.form.table, hr.form.path, hinteractive⟩, hr.settles⟩

theorem reset_restores (keys : List String) (e : Event) :
    (event e >>= fun _ => deleteKeys f.path keys >>= fun _ => f.load).Ensures fun l r =>
      Restores f keys l r.form ∧ ∃ x, r.result = some x := by
  change (deleteKeys f.path keys >>= fun _ => f.load).Ensures _
  rw [ensures_bind]
  refine (deleteKeys_changes _ _).mono fun l _ hl => (load_restores ht).mono fun m r hm => ⟨?_, hm.2⟩
  have hdeleted : Restores f keys (.told e :: l) f := ⟨hl, rfl, rfl, rfl⟩
  have hboth := hdeleted.trans hm.1
  rwa [List.append_nil] at hboth

theorem restoreDefaults_restores :
    f.restoreDefaults.Ensures fun l r => Restores f f.table.ownedKeys l r.form ∧ ∃ x, r.result = some x :=
  reset_restores ht _ _

theorem restoreGroup_restores (group : String) :
    (f.restoreGroup group).Ensures fun l r =>
      Restores f (f.table.restoredBy (.restoreGroup group)) l r.form ∧ ∃ x, r.result = some x := by
  unfold Form.restoreGroup
  split
  case isTrue hg =>
    have hkeys : f.table.restoredBy (.restoreGroup group) = f.table.groupKeys group := if_pos hg
    rw [hkeys]
    exact reset_restores ht _ _
  case isFalse hg =>
    have hkeys : f.table.restoredBy (.restoreGroup group) = [] := if_neg hg
    rw [hkeys]
    exact ⟨.refl f, _, rfl⟩

end

theorem settled_restores {α : Type} {p : Script (Reply α)}
    (hp : p.Ensures fun l r => Restores f keys l r.form ∧ ∃ x, r.result = some x) :
    (p >>= Reply.settled).Ensures (Restores f keys) := by
  rw [ensures_bind]
  refine hp.mono fun l r hr => ?_
  obtain ⟨hrestores, x, hx⟩ := hr
  rw [Reply.settled_of_some hx]
  change Restores f keys (l ++ []) r.form
  rwa [List.append_nil]

section

variable (hoff : f.interactive = false)

include hoff

theorem set_refused (id : String) (v : Int32) : ∃ e, f.set id v = pure ⟨f, some (.error e)⟩ := by
  unfold set
  cases f.binding id with
  | error e => exact ⟨e, rfl⟩
  | ok b =>
    have hdisabled : ¬ f.isEnabled b.id = true := by simp [isEnabled, hoff]
    exact ⟨.disabled b.id, if_neg hdisabled⟩

theorem setText_refused (id input : String) : ∃ e, f.setText id input = pure ⟨f, some (.error e)⟩ := by
  unfold setText
  cases f.binding id with
  | error e => exact ⟨e, rfl⟩
  | ok b =>
    dsimp only
    cases b.control.parse input with
    | error expected => exact ⟨_, rfl⟩
    | ok v => exact set_refused hoff id v

theorem perform_restores (ht : f.table.Ordered) {a : Action} (ha : a ≠ .setInteractive true) :
    (f.perform a).Ensures (Restores f (f.table.restoredBy a)) := by
  cases a with
  | set id v =>
    obtain ⟨e, he⟩ := set_refused hoff id v
    rw [perform, he]
    exact .refl f
  | setText id input =>
    obtain ⟨e, he⟩ := setText_refused hoff id input
    rw [perform, he]
    exact .refl f
  | load => exact settled_restores (load_restores ht)
  | restoreDefaults => exact settled_restores (restoreDefaults_restores ht)
  | restoreGroup group => exact settled_restores (restoreGroup_restores ht group)
  | setInteractive interactive =>
    cases interactive with
    | true => exact absurd rfl ha
    | false => exact ⟨rfl, rfl, rfl, hoff.symm⟩

theorem performAll_restores (ht : f.table.Ordered) {as : List Action} (has : .setInteractive true ∉ as) :
    (performAll as f).Ensures (Restores f (as.flatMap f.table.restoredBy)) := by
  induction as generalizing f with
  | nil => exact .refl f
  | cons a as ih =>
    obtain ⟨ha, has⟩ := not_or.1 (mt List.mem_cons.2 has)
    rw [performAll, ensures_bind]
    refine (perform_restores hoff ht (Ne.symm ha)).mono fun l f' hf' => ?_
    refine (ih (hf'.interactive.trans hoff) (hf'.table ▸ ht) has).mono fun m f'' hf'' => ?_
    rw [List.flatMap_cons]
    exact hf'.trans (hf'.table ▸ hf'')

end

end Form

end XrPanel
