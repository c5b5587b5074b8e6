import XrPanel.Proofs.DocumentRoundTrip
import XrPanel.Proofs.ScriptCourses

namespace XrPanel

theorem stateM_bind {σ α β : Type} (x : StateM σ α) (f : α → StateM σ β) (s : σ) :
    (x >>= f) s = f (x s).1 (x s).2 := rfl

variable {δ : Type}

/-- What a file store takes for granted of the drive under one path: the file is read as it is, only a
staged file that takes its place changes it, and a stage that fails leaves it. Any stage may fail. -/
structure Drive.KeepsFile (d : Drive (StateM δ)) (path : String) (file : δ → Option ByteArray)
    (staged : δ → String → Option ByteArray) : Prop where
  read (s : δ) : d.read path s = ((file s).elim (.error .notFound) .ok, s)
  createParents (s : δ) : file (d.createParents path s).2 = file s
  stage (s : δ) : file (d.stage path s).2 = file s
  fill {s t : δ} {n : String} (hn : (d.stage path s).1 = .ok n) (bytes : ByteArray) :
    file (d.fill n bytes t).2 = file t
  filled {s t : δ} {n : String} {bytes : ByteArray} (hn : (d.stage path s).1 = .ok n)
    (ht : (d.fill n bytes t).1 = .ok ()) : staged (d.fill n bytes t).2 n = some bytes
  renamed {s t : δ} {n : String} (hn : (d.stage path s).1 = .ok n) (ht : (d.rename n path t).1 = .ok ()) :
    file (d.rename n path t).2 = staged t n
  notRenamed {s t : δ} {n : String} {e : DriveFault} (hn : (d.stage path s).1 = .ok n)
    (ht : (d.rename n path t).1 = .error e) : file (d.rename n path t).2 = file t
  discard {s t : δ} {n : String} (hn : (d.stage path s).1 = .ok n) : file (d.discard n t).2 = file t

inductive Drive.Replaced (d : Drive (StateM δ)) (path : String) (bytes : ByteArray) (s : δ) : δ → Prop
  | through {t u v w : δ} {n : String} (hcreate : d.createParents path s = (.ok (), t))
      (hstage : d.stage path t = (.ok n, u)) (hfill : d.fill n bytes u = (.ok (), v))
      (hrename : d.rename n path v = (.ok (), w)) : Replaced d path bytes s w

theorem Drive.Replaced.replace_eq {d : Drive (StateM δ)} {path : String} {bytes : ByteArray} {s w : δ}
    (h : d.Replaced path bytes s w) : d.replace path bytes s = (.ok (), w) := by
  obtain ⟨hcreate, hstage, hfill, hrename⟩ := h
  unfold Drive.replace Drive.settle
  simp only [stateM_bind, hcreate, hstage, hfill, hrename]
  rfl

structure PlannedFile where
  file : Option ByteArray := none
  staged : Option ByteArray := none
  /-- The faults of the next stages; those after them succeed. -/
  faults : List (Option DriveFault) := []

namespace PlannedFile

def attempt {α : Type} (a : α) (f : PlannedFile → PlannedFile) : StateM PlannedFile (Except DriveFault α) :=
  fun s =>
    match s.faults with
    | some e :: es => (.error e, { s with faults := es })
    | none :: es => (.ok a, f { s with faults := es })
    | [] => (.ok a, f s)

def drive : Drive (StateM PlannedFile) where
  read _ s := (s.file.elim (.error .notFound) .ok, s)
  isFile _ s := (s.file.isSome, s)
  createParents _ := attempt () id
  stage _ := attempt ".tmp" fun s => { s with staged := some .empty }
  fill _ bytes := attempt () fun s => { s with staged := some bytes }
  rename _ _ := attempt () fun s => { s with file := s.staged, staged := none }
  discard _ s := ((), { s with staged := none })

theorem attempt_cases {α : Type} (a : α) (f : PlannedFile → PlannedFile) (s : PlannedFile) :
    (∃ e es, attempt a f s = (.error e, { s with faults := es })) ∨
      ∃ es, attempt a f s = (.ok a, f { s with faults := es }) := by
  obtain ⟨file, staged, _ | ⟨_ | e, es⟩⟩ := s
  · exact .inr ⟨[], rfl⟩
  · exact .inr ⟨es, rfl⟩
  · exact .inl ⟨e, es, rfl⟩

theorem keepsFile (path : String) : drive.KeepsFile path file fun s _ => s.staged where
  read _ := rfl
  createParents s := by
    rcases attempt_cases () id s with ⟨e, es, h⟩ | ⟨es, h⟩ <;> simp [drive, h]
  stage s := by
    rcases attempt_cases ".tmp" (fun s => { s with staged := some .empty }) s with ⟨e, es, h⟩ | ⟨es, h⟩ <;>
      simp [drive, h]
  fill {s t n} _ bytes := by
    rcases attempt_cases () (fun s => { s with staged := some bytes }) t with ⟨e, es, h⟩ | ⟨es, h⟩ <;>
      simp [drive, h]
  filled {s t n bytes} _ ht := by
    rcases attempt_cases () (fun s => { s with staged := some bytes }) t with ⟨e, es, h⟩ | ⟨es, h⟩ <;>
      simp_all [drive]
  renamed {s t n} _ ht := by
    rcases attempt_cases () (fun s => { s with file := s.staged, staged := none }) t with
      ⟨e, es, h⟩ | ⟨es, h⟩ <;> simp_all [drive]
  notRenamed {s t n e} _ ht := by
    rcases attempt_cases () (fun s => { s with file := s.staged, staged := none }) t with
      ⟨e, es, h⟩ | ⟨es, h⟩ <;> simp_all [drive]
  discard _ := rfl

end PlannedFile

namespace FileStore

def held (path : String) (file : Option ByteArray) : Except StoreError Hive :=
  contents path (file.elim (.error .notFound) .ok)

inductive Call where
  | ask (r : Request)
  | reopen

abbrev Answered := (r : Request) × Except StoreError r.Answer

def ask (d : Drive (StateM δ)) (r : Request) (w : FileStore × δ) :
    Except StoreError r.Answer × FileStore × δ :=
  let x := fileStore d r w.1 w.2
  (x.1.1, x.1.2, x.2)

/-- A store that cannot be opened anew goes on as it is. -/
def call (d : Drive (StateM δ)) : Call → FileStore × δ → List Answered × FileStore × δ
  | .ask r, w => ([⟨r, (ask d r w).1⟩], (ask d r w).2)
  | .reopen, (fs, s) =>
    let (opened, s) := openAt d fs.path s
    ([], opened.toOption.getD fs, s)

def calls (d : Drive (StateM δ)) : List Call → FileStore × δ → List Answered × FileStore × δ
  | [], w => ([], w)
  | c :: cs, w =>
    let (as, w) := call d c w
    let (bs, w) := calls d cs w
    (as ++ bs, w)

structure Durable (path : String) (file : δ → Option ByteArray) (w : FileStore × δ) : Prop where
  path_eq : w.1.path = path
  held_eq : held path (file w.2) = .ok w.1.hive

end FileStore

namespace Drive.KeepsFile

variable {d : Drive (StateM δ)} {path : String} {file : δ → Option ByteArray}
variable {staged : δ → String → Option ByteArray} (hd : d.KeepsFile path file staged)

include hd

theorem file_settle {s : δ} {n : String} (hn : (d.stage path s).1 = .ok n) (bytes : ByteArray) (t : δ) :
    file (d.settle n path bytes t).2 =
      if (d.settle n path bytes t).1.isOk then some bytes else file t := by
  have hfill : file (d.fill n bytes t).2 = file t := hd.fill hn bytes
  cases hu : (d.fill n bytes t).1 with
  | error e =>
    rw [Drive.settle, stateM_bind, hu]
    exact (hd.discard hn).trans hfill
  | ok _ =>
    have hfilled : staged (d.fill n bytes t).2 n = some bytes := hd.filled hn hu
    cases hv : (d.rename n path (d.fill n bytes t).2).1 with
    | error e =>
      rw [Drive.settle, stateM_bind, hu]
      simp only [stateM_bind, hv]
      exact (hd.discard hn).trans ((hd.notRenamed hn hv).trans hfill)
    | ok _ =>
      rw [Drive.settle, stateM_bind, hu]
      simp only [stateM_bind, hv]
      exact (hd.renamed hn hv).trans hfilled

theorem file_replace (bytes : ByteArray) (s : δ) :
    file (d.replace path bytes s).2 =
      if (d.replace path bytes s).1.isOk then some bytes else file s := by
  have hcreate : file (d.createParents path s).2 = file s := hd.createParents s
  cases ht : (d.createParents path s).1 with
  | error e =>
    rw [Drive.replace, stateM_bind, ht]
    exact hcreate
  | ok _ =>
    let t := (d.createParents path s).2
    have hstage : file (d.stage path t).2 = file t := hd.stage t
    cases hn : (d.stage path t).1 with
    | error e =>
      rw [Drive.replace, stateM_bind, ht]
      simp only [stateM_bind, t, hn]
      exact hstage.trans hcreate
    | ok n =>
      have hsettle := hd.file_settle hn bytes (d.stage path t).2
      rw [Drive.replace, stateM_bind, ht]
      simp only [stateM_bind, t, hn]
      rw [hsettle, hstage, hcreate]

end Drive.KeepsFile

namespace FileStore

section

variable {d : Drive (StateM δ)} {r : Request} {fs : FileStore} {s : δ}

theorem ask_unchanged (h : fs.hive.edit? r = none) : ask d r (fs, s) = (fs.hive.answer r, fs, s) := by
  unfold ask fileStore
  rw [h]
  rfl

theorem answer_of_edit? {h next : Hive} (hn : h.edit? r = some next) : ∃ x, h.answer r = .ok x := by
  cases r with
  | getDword path name => cases hn
  | getString path name => cases hn
  | ensurePath path => exact ⟨(), rfl⟩
  | setDword path name v => exact ⟨(), rfl⟩
  | setString path name v => exact ⟨(), rfl⟩
  | deleteValue path name => exact ⟨(), rfl⟩

theorem ask_failed {next : Hive} {e : DriveFault} (h : fs.hive.edit? r = some next)
    (he : (d.replace fs.path (Document.write next).toUTF8 s).1 = .error e) :
    ask d r (fs, s) =
      (.error (storeError fs.path e), fs, (d.replace fs.path (Document.write next).toUTF8 s).2) := by
  unfold ask fileStore
  simp only [h, stateM_bind, he]
  rfl

theorem ask_replaced {next : Hive} (h : fs.hive.edit? r = some next)
    (he : (d.replace fs.path (Document.write next).toUTF8 s).1 = .ok ()) :
    ask d r (fs, s) =
      (fs.hive.answer r, { fs with hive := next }, (d.replace fs.path (Document.write next).toUTF8 s).2) := by
  unfold ask fileStore
  simp only [h, stateM_bind, he]
  rfl

theorem ask_written {next : Hive} {u : δ} (h : fs.hive.edit? r = some next)
    (hu : d.Replaced fs.path (Document.write next).toUTF8 s u) :
    ∃ x, ask d r (fs, s) = (.ok x, { fs with hive := next }, u) := by
  obtain ⟨x, hx⟩ := answer_of_edit? h
  have hreplace := hu.replace_eq
  refine ⟨x, ?_⟩
  rw [ask_replaced h (congrArg Prod.fst hreplace), hx, hreplace]

theorem ask_cases (d : Drive (StateM δ)) (r : Request) (fs : FileStore) (s : δ) :
    (fs.hive.edit? r = none ∧ ask d r (fs, s) = (fs.hive.answer r, fs, s)) ∨
    (∃ next e, fs.hive.edit? r = some next ∧
      (d.replace fs.path (Document.write next).toUTF8 s).1 = .error e ∧ ask d r (fs, s) =
        (.error (storeError fs.path e), fs, (d.replace fs.path (Document.write next).toUTF8 s).2)) ∨
    ∃ next, fs.hive.edit? r = some next ∧
      (d.replace fs.path (Document.write next).toUTF8 s).1 = .ok () ∧ ask d r (fs, s) =
        (fs.hive.answer r, { fs with hive := next },
          (d.replace fs.path (Document.write next).toUTF8 s).2) := by
  cases h : fs.hive.edit? r with
  | none => exact .inl ⟨rfl, ask_unchanged h⟩
  | some next =>
    cases he : (d.replace fs.path (Document.write next).toUTF8 s).1 with
    | error e => exact .inr (.inl ⟨next, e, rfl, he, ask_failed h he⟩)
    | ok _ => exact .inr (.inr ⟨next, rfl, he, ask_replaced h he⟩)

end

theorem calls_append (d : Drive (StateM δ)) (cs ds : List Call) (w : FileStore × δ) :
    calls d (cs ++ ds) w =
      ((calls d cs w).1 ++ (calls d ds (calls d cs w).2).1, (calls d ds (calls d cs w).2).2) := by
  induction cs generalizing w with
  | nil => rfl
  | cons c cs ih => simp only [List.cons_append, calls, ih, List.append_assoc]

theorem ask_ok {d : Drive (StateM δ)} {r : Request} {w v : FileStore × δ} {x : r.Answer}
    (h : ask d r w = (.ok x, v)) : w.1.hive.answer r = .ok x ∧ v.1.hive = w.1.hive.after r := by
  obtain ⟨fs, s⟩ := w
  rcases ask_cases d r fs s with ⟨hn, hr⟩ | ⟨next, e, -, -, hr⟩ | ⟨next, hn, -, hr⟩
  · rw [h, Prod.mk.injEq] at hr
    obtain ⟨ha, rfl⟩ := hr
    refine ⟨ha.symm, ?_⟩
    rw [Hive.after, hn, Option.getD_none]
  · rw [h, Prod.mk.injEq] at hr
    cases hr.1
  · rw [h, Prod.mk.injEq] at hr
    obtain ⟨ha, rfl⟩ := hr
    refine ⟨ha.symm, ?_⟩
    rw [Hive.after, hn, Option.getD_some]

theorem ask_hive (d : Drive (StateM δ)) (r : Request) (w : FileStore × δ) :
    (ask d r w).2.1.hive = w.1.hive ∨ (ask d r w).2.1.hive = w.1.hive.after r := by
  obtain ⟨fs, s⟩ := w
  rcases ask_cases d r fs s with ⟨-, hr⟩ | ⟨next, e, -, -, hr⟩ | ⟨next, hn, -, hr⟩
  · left
    rw [hr]
  · left
    rw [hr]
  · right
    rw [hr, Hive.after, hn, Option.getD_some]

theorem ask_backed (d : Drive (StateM δ)) : Store.Backed (fun r w => ask d r w) fun w : FileStore × δ => w.1.hive where
  answer h := (ask_ok (Prod.ext h rfl)).1
  after h := (ask_ok (Prod.ext h rfl)).2

theorem memoryStore_of_ok {d : Drive (StateM δ)} {r : Request} {w v : FileStore × δ} {x : r.Answer}
    (h : ask d r w = (.ok x, v)) {m : Memory} (hm : m.hive = w.1.hive) (hdeny : m.denies r = false) :
    (memoryStore r m).1 = .ok x ∧ (memoryStore r m).2.hive = v.1.hive := by
  obtain ⟨hanswer, hafter⟩ := ask_ok h
  have hmem : memoryStore r m = (m.hive.answer r, m.step r) := by simp [memoryStore, hdeny]
  rw [hmem, hm, hafter]
  exact ⟨hanswer, by rw [Memory.step, hm]⟩

section

variable {d : Drive (StateM δ)} {path : String} {file : δ → Option ByteArray}
variable {staged : δ → String → Option ByteArray} (hd : d.KeepsFile path file staged)

include hd

theorem openAt_eq (s : δ) : openAt d path s = ((held path (file s)).map (⟨path, ·⟩), s) := by
  unfold openAt
  rw [stateM_bind, hd.read]
  rfl

theorem Durable.reopen {w : FileStore × δ} (h : Durable path file w) : openAt d path w.2 = (.ok w.1, w.2) := by
  rw [openAt_eq hd, h.held_eq, ← h.path_eq]
  rfl

theorem unchanged_of_error {r : Request} {w v : FileStore × δ} {e : StoreError} (hw : w.1.path = path)
    (h : ask d r w = (.error e, v)) : v.1 = w.1 ∧ file v.2 = file w.2 := by
  obtain ⟨fs, s⟩ := w
  subst hw
  rcases ask_cases d r fs s with ⟨-, hr⟩ | ⟨next, e, -, he, hr⟩ | ⟨next, hn, -, hr⟩
  · rw [h, Prod.mk.injEq] at hr
    rw [hr.2]
    exact ⟨rfl, rfl⟩
  · rw [h, Prod.mk.injEq] at hr
    rw [hr.2]
    refine ⟨rfl, ?_⟩
    rw [hd.file_replace, he]
    rfl
  · obtain ⟨x, hx⟩ := answer_of_edit? hn
    rw [h, hx, Prod.mk.injEq] at hr
    cases hr.1

theorem Durable.ask {w : FileStore × δ} (h : Durable path file w) (r : Request) :
    Durable path file (ask d r w).2 := by
  obtain ⟨fs, s⟩ := w
  obtain ⟨rfl, hheld⟩ := h
  rcases ask_cases d r fs s with ⟨-, hr⟩ | ⟨next, e, -, he, hr⟩ | ⟨next, -, he, hr⟩
  · rw [hr]
    exact ⟨rfl, hheld⟩
  · have hfile := (unchanged_of_error hd rfl hr).2
    rw [hr]
    exact ⟨rfl, by rw [hfile, hheld]⟩
  · have hfile : file (d.replace fs.path (Document.write next).toUTF8 s).2 = some (Document.write next).toUTF8 := by
      rw [hd.file_replace, he]
      rfl
    rw [hr]
    refine ⟨rfl, ?_⟩
    rw [hfile]
    exact decode_write fs.path next

theorem call_reopen {w : FileStore × δ} (h : Durable path file w) : call d .reopen w = ([], w) := by
  have hopen := h.reopen hd
  rw [← h.path_eq] at hopen
  simp only [call, hopen]
  rfl

theorem Durable.call {w : FileStore × δ} (h : Durable path file w) (c : Call) :
    Durable path file (call d c w).2 := by
  cases c with
  | ask r => exact h.ask hd r
  | reopen =>
    rw [call_reopen hd h]
    exact h

theorem Durable.calls {w : FileStore × δ} (h : Durable path file w) (cs : List Call) :
    Durable path file (calls d cs w).2 := by
  induction cs generalizing w with
  | nil => exact h
  | cons c cs ih => exact ih (h.call hd c)

theorem durable_of_openAt {s : δ} {w : FileStore × δ} (h : openAt d path s = (.ok w.1, w.2)) :
    Durable path file w := by
  obtain ⟨fs, t⟩ := w
  have he : ((held path (file s)).map (⟨path, ·⟩), s) = (Except.ok fs, t) := (openAt_eq hd s).symm.trans h
  rw [Prod.mk.injEq] at he
  obtain ⟨hfs, rfl⟩ := he
  cases hh : held path (file s) with
  | error e =>
    rw [hh] at hfs
    cases hfs
  | ok hive =>
    rw [hh] at hfs
    cases hfs
    exact ⟨rfl, hh⟩

end

/-- After any calls on a store that was opened, whatever stages of writing failed, its file holds what the
store holds. A request that fails changes neither; one that succeeds answers and changes the hive as it does
in memory; nothing is written for a path that exists or an entry that does not; to open the file anew at any
point makes no difference to what follows; and a change succeeds if no stage of writing fails. -/
theorem file_keeps_hive {d : Drive (StateM δ)} {path : String} {file : δ → Option ByteArray}
    {staged : δ → String → Option ByteArray} (hd : d.KeepsFile path file staged) {s : δ} {w : FileStore × δ}
    (hw : openAt d path s = (.ok w.1, w.2)) (cs : List Call) :
    let v := (calls d cs w).2
    held path (file v.2) = .ok v.1.hive ∧
    (∀ r e u, ask d r v = (.error e, u) → u.1 = v.1 ∧ file u.2 = file v.2) ∧
    (∀ r x u (m : Memory), ask d r v = (.ok x, u) → m.hive = v.1.hive → m.denies r = false →
      (memoryStore r m).1 = .ok x ∧ (memoryStore r m).2.hive = u.1.hive) ∧
    (∀ p, v.1.hive.containsPath p = true → ask d (.ensurePath p) v = (.ok (), v)) ∧
    (∀ p n, v.1.hive.get? p n = none → ask d (.deleteValue p n) v = (.ok (), v)) ∧
    openAt d path v.2 = (.ok v.1, v.2) ∧
    (∀ ds, calls d (cs ++ .reopen :: ds) w = calls d (cs ++ ds) w) ∧
    (∀ r, v.1.hive.edit? r = none → ask d r v = (v.1.hive.answer r, v)) ∧
    ∀ r next u, v.1.hive.edit? r = some next → d.Replaced path (Document.write next).toUTF8 v.2 u →
      ∃ x, ask d r v = (.ok x, ⟨path, next⟩, u) := by
  intro v
  have hv : Durable path file v := (durable_of_openAt hd hw).calls hd cs
  refine ⟨hv.held_eq, ?_, ?_, ?_, ?_, hv.reopen hd, ?_, fun _ => ask_unchanged, ?_⟩
  · intro r e u h
    exact unchanged_of_error hd hv.path_eq h
  · intro r x u m h hm hdeny
    exact memoryStore_of_ok h hm hdeny
  · intro p hp
    exact ask_unchanged (by rw [Hive.edit?, if_pos hp])
  · intro p n hn
    exact ask_unchanged (by rw [Hive.edit?, hn]; rfl)
  · intro ds
    rw [calls_append, calls_append, calls, call_reopen hd hv]
    rfl
  · intro r next u hnext hu
    rw [← hv.path_eq] at hu ⊢
    exact ask_written hnext hu

/-- The first write is done, the second one fails when the staged file is to take the place of the first. -/
theorem file_keeps_hive_rename_denied :
    let planned : PlannedFile := { faults := [none, none, none, none, none, none, none, some .denied] }
    let w : FileStore × PlannedFile := (⟨"store.json", .empty⟩, planned)
    let v := (calls PlannedFile.drive
      [.ask (.setDword "P" "n" 7), .ask (.setString "P" "s" "x"), .reopen] w).2
    PlannedFile.drive.KeepsFile "store.json" PlannedFile.file (fun s _ => s.staged) ∧
    openAt PlannedFile.drive "store.json" planned = (.ok w.1, w.2) ∧
    held "store.json" v.2.file = .ok v.1.hive ∧
    openAt PlannedFile.drive "store.json" v.2 = (.ok v.1, v.2) ∧
    ∃ x u, ask PlannedFile.drive (.setDword "P" "n" 7) w = (.ok x, u) := by
  intro planned w v
  have hd := PlannedFile.keepsFile "store.json"
  have hw : openAt PlannedFile.drive "store.json" planned = (.ok w.1, w.2) := rfl
  have h := file_keeps_hive hd hw [.ask (.setDword "P" "n" 7), .ask (.setString "P" "s" "x"), .reopen]
  have hchange := (file_keeps_hive hd hw []).2.2.2.2.2.2.2.2
  obtain ⟨x, hx⟩ := hchange (.setDword "P" "n" 7) _ _ rfl (.through rfl rfl rfl rfl)
  exact ⟨hd, hw, h.1, h.2.2.2.2.2.1, x, _, hx⟩

end FileStore

end XrPanel
