import XrPanel.Proofs.FormReach
import XrPanel.Proofs.StoreChanges

namespace XrPanel

open Script

variable {σ : Type} {st : Store (StateM σ)} {t : FormTable} {path : String} {f g : Form} {l m : List Step}
variable {group : String}
variable {answers : List (Except StoreError (Option Int32))} {r r' : Reply Unit} {ns ns' : List Notice}

def noticesIn (l : List Step) : List Notice := (l.filterMap Step.event?).filterMap Event.notice?

@[simp]
theorem noticesIn_nil : noticesIn [] = [] := rfl

@[simp]
theorem noticesIn_asked (r : Request) (e : Option StoreError) (l : List Step) :
    noticesIn (.asked r e :: l) = noticesIn l := rfl

@[simp]
theorem noticesIn_notice (n : Notice) (l : List Step) : noticesIn (.told (.notice n) :: l) = n :: noticesIn l := rfl

@[simp]
theorem noticesIn_log (line : LogLine) (l : List Step) : noticesIn (.told (.log line) :: l) = noticesIn l := rfl

@[simp]
theorem noticesIn_append (l m : List Step) : noticesIn (l ++ m) = noticesIn l ++ noticesIn m := by simp [noticesIn]

theorem Script.runOn_log {α : Type} (level : LogLevel) (target message : String) (p : Script α) (st : Store (StateM σ))
    (s : σ) : (log level target message >>= fun _ => p).runOn st s =
      ((p.runOn st s).1.cons (.told (.log ⟨level, target, message⟩)), (p.runOn st s).2) := rfl

namespace Store

def readings (st : Store (StateM σ)) (path : String) : List String → σ → List (Except StoreError (Option Int32))
  | [], _ => []
  | key :: keys, s => (st (.getDword path key) s).1 :: st.readings path keys (st (.getDword path key) s).2

def pruned (st : Store (StateM σ)) (path : String) (keys : List String) (s : σ) : σ :=
  keys.foldl (fun s key => (st (.deleteValue path key) s).2) s

end Store

theorem Snapshot.read_answered (st : Store (StateM σ)) (path : String) (keys : List String) (acc : Snapshot) (s : σ) :
    (∃ raws : List (Option Int32), st.readings path keys s = raws.map .ok ∧
      ((read path keys acc).runOn st s).1.result =
        some (.ok ((keys.zip raws).foldl (fun m e => m.insert e.1 e.2) acc))) ∨
    ∃ (raws : List (Option Int32)) (e : StoreError) (rest : List (Except StoreError (Option Int32))),
      st.readings path keys s = raws.map .ok ++ .error e :: rest ∧
      ((read path keys acc).runOn st s).1.result = some (.error e) := by
  induction keys generalizing acc s with
  | nil => exact .inl ⟨[], rfl, rfl⟩
  | cons key keys ih =>
    rw [read_cons, runOn_ask, Store.readings]
    cases (st (.getDword path key) s).1 with
    | error e => exact .inr ⟨[], e, _, rfl, rfl⟩
    | ok raw =>
      rcases ih (acc.insert key raw) (st (.getDword path key) s).2 with
        ⟨raws, hraws, hresult⟩ | ⟨raws, e, rest, hraws, hresult⟩
      · exact .inl ⟨raw :: raws, by rw [hraws]; rfl, hresult⟩
      · exact .inr ⟨raw :: raws, e, rest, by rw [hraws]; rfl, hresult⟩

namespace Form

/-- What a load comes to, with what the user is told: the numbers that were read are shown, or, if a read failed, the
defaults, with none of the numbers that were read before. -/
inductive Loads (f : Form) (answers : List (Except StoreError (Option Int32))) : Reply Unit → List Notice → Prop
  | shown (raws : List (Option Int32)) (vs : Values) (h : answers = raws.map .ok)
    (hvs : Values.ofSnapshot? f.table (.ofList (f.table.ownedKeys.zip raws)) = some vs) :
    Loads f answers ⟨{ f with values := vs }, some (.ok ())⟩ []
  | failed (raws : List (Option Int32)) (e : StoreError) (rest : List (Except StoreError (Option Int32)))
    (h : answers = raws.map .ok ++ .error e :: rest) :
    Loads f answers ⟨{ f with values := .defaults f.table }, some (.error (.store e))⟩ [.storeAccess]

def firstError? (answers : List (Except StoreError (Option Int32))) : Option StoreError := answers.findSome? failure?

theorem firstError?_map (raws : List (Option Int32)) : firstError? (raws.map .ok) = none := by
  simp [firstError?, failure?]

theorem firstError?_stopped (raws : List (Option Int32)) (e : StoreError)
    (rest : List (Except StoreError (Option Int32))) : firstError? (raws.map .ok ++ .error e :: rest) = some e := by
  rw [firstError?, List.findSome?_append, ← firstError?, firstError?_map]
  rfl

theorem Loads.alike (hr : Loads f answers r ns) (hr' : Loads g answers r' ns') (ht : g.table = f.table) :
    r'.form.values = r.form.values ∧ r'.result = r.result ∧ ns' = ns := by
  cases hr with
  | shown raws vs h hvs =>
    cases hr' with
    | shown raws' vs' h' hvs' =>
      obtain rfl : raws = raws' := List.map_injective_iff.2 (fun _ _ => Except.ok.inj) (h.symm.trans h')
      rw [ht] at hvs'
      obtain rfl : vs' = vs := Option.some.inj (hvs'.symm.trans hvs)
      exact ⟨rfl, rfl, rfl⟩
    | failed raws' e rest h' =>
      have herror := congrArg firstError? (h.symm.trans h')
      rw [firstError?_map, firstError?_stopped] at herror
      cases herror
  | failed raws e rest h =>
    cases hr' with
    | shown raws' vs' h' hvs' =>
      have herror := congrArg firstError? (h.symm.trans h')
      rw [firstError?_map, firstError?_stopped] at herror
      cases herror
    | failed raws' e' rest' h' =>
      have herror := congrArg firstError? (h.symm.trans h')
      rw [firstError?_stopped, firstError?_stopped] at herror
      obtain rfl := Option.some.inj herror
      exact ⟨by rw [ht], rfl, rfl⟩

theorem read_silent (path : String) (keys : List String) (acc : Snapshot) :
    (Snapshot.read path keys acc).Ensures fun l _ => noticesIn l = [] := by
  refine (read_ensures path keys acc).mono fun l _ hl => ?_
  induction l with
  | nil => rfl
  | cons x l ih =>
    obtain ⟨⟨k, -, e, rfl⟩, hrest⟩ := List.forall_mem_cons.1 hl
    exact ih hrest

theorem load_answered (ht : f.table.Ordered) (st : Store (StateM σ)) (s : σ) :
    ∃ r, (f.load.runOn st s).1.result = some r ∧
      Loads f (st.readings f.path f.table.ownedKeys s) r (f.load.runOn st s).1.notices := by
  obtain ⟨-, -, hsilent⟩ := (read_silent f.path f.table.ownedKeys .empty).runOn st s
  unfold load Transcript.notices Transcript.events
  rcases Snapshot.read_answered st f.path f.table.ownedKeys .empty s with
    ⟨raws, hraws, hresult⟩ | ⟨raws, e, rest, hraws, hresult⟩
  · obtain ⟨vs, hvs⟩ := Values.ofSnapshot?_of_ordered ht (.ofList (f.table.ownedKeys.zip raws))
    rw [runOn_bind_some hresult]
    refine ⟨⟨{ f with values := vs }, some (.ok ())⟩, ?_, ?_⟩
    all_goals
      change Values.ofSnapshot? f.table (List.foldl _ _ _) = _ at hvs
      dsimp only
      rw [hvs]
    · rfl
    · change Loads f _ _ (noticesIn (_ ++ _))
      rw [noticesIn_append, hsilent]
      exact .shown raws vs hraws hvs
  · rw [runOn_bind_some hresult]
    refine ⟨_, rfl, ?_⟩
    change Loads f _ _ (noticesIn (_ ++ _))
    rw [noticesIn_append, hsilent]
    exact .failed raws e rest hraws

theorem Loads.form_eq (hr : Loads f answers r ns) : r.form = { f with values := r.form.values } := by cases hr <;> rfl

theorem Loads.settles (hr : Loads f answers r ns) : ∃ x, r.result = some x := by cases hr <;> exact ⟨_, rfl⟩

theorem loaded_answered (ht : t.Ordered) (path : String) (st : Store (StateM σ)) (s : σ) :
    ∃ r ns, ((loaded t path).runOn st s).1.result = some r.form ∧
      Loads (new t path) (st.readings path t.ownedKeys s) r ns := by
  obtain ⟨r, hr, hloads⟩ := load_answered (f := new t path) ht st s
  refine ⟨r, _, ?_, hloads⟩
  obtain ⟨x, hx⟩ := hloads.settles
  rw [loaded_eq, runOn_bind_some hr, Reply.settled_of_some hx]
  rfl

theorem deleteKeys_runOn (st : Store (StateM σ)) (path : String) (keys : List String) (s : σ) :
    ∃ l, (deleteKeys path keys).runOn st s = (⟨some (), l⟩, st.pruned path keys s) ∧ noticesIn l = [] := by
  induction keys generalizing s with
  | nil => exact ⟨[], rfl, rfl⟩
  | cons key keys ih =>
    obtain ⟨l, hrun, hsilent⟩ := ih (st (.deleteValue path key) s).2
    rw [deleteKeys, runOn_request]
    cases (st (.deleteValue path key) s).1 with
    | ok _ =>
      dsimp only
      rw [hrun]
      exact ⟨_, rfl, hsilent⟩
    | error e =>
      dsimp only
      rw [runOn_log, hrun]
      exact ⟨_, rfl, hsilent⟩

theorem reset_runOn (st : Store (StateM σ)) (s : σ) (f : Form) (level : LogLevel) (target message : String)
    (keys : List String) :
    let run := (log level target message >>= fun _ => deleteKeys f.path keys >>= fun _ => f.load).runOn st s
    let last := f.load.runOn st (st.pruned f.path keys s)
    run.1.result = last.1.result ∧ run.1.notices = last.1.notices ∧ run.2 = last.2 := by
  obtain ⟨l, hrun, hsilent⟩ := deleteKeys_runOn st f.path keys s
  have hresult : ((deleteKeys f.path keys).runOn st s).1.result = some () := by rw [hrun]
  dsimp only
  rw [runOn_log, runOn_bind_some hresult, hrun]
  refine ⟨rfl, ?_, rfl⟩
  change noticesIn (.told (.log _) :: (l ++ _)) = _
  rw [noticesIn_log, noticesIn_append, hsilent]
  rfl

theorem restoreGroup_of_unknown (h : ∀ b ∈ f.table.bindings, b.group ≠ group) :
    f.restoreGroup group = pure ⟨f, some (.error (.unknownGroup f.table.name group))⟩ := by
  rw [restoreGroup, if_neg]
  rw [FormTable.mem_groups]
  rintro ⟨b, hb, hgroup⟩
  exact h b hb hgroup

theorem restoreGroup_of_known (hg : group ∈ f.table.groups) :
    f.restoreGroup group =
      (log .info logTarget ("restoring group '" ++ group ++ "' of form '" ++ f.table.name ++ "'") >>=
      fun _ => deleteKeys f.path (f.table.groupKeys group) >>= fun _ => f.load) := if_pos hg

/-- A slider, and a box that pins it while it is checked. -/
def pinned : FormTable where
  name := "pinned"
  title := "Pinned"
  bindings := [⟨"a", some "A", "A", "g", .slider { min := 0, max := 9, default := 5 }⟩,
    ⟨"b", none, "B", "h", .checkbox false⟩]
  gates := []
  exclusives := [{ key := "B", none := 0, members := [("b", 1)], companions := [("A", 3)], shadowed := ["a"] }]

end Form

end XrPanel
