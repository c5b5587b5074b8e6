import XrPanel.Proofs.HiveFrame

namespace XrPanel

open Text

variable {α β σ δ : Type}

def changeRequests (l : List Step) : List Request := (l.filterMap Step.request?).filter Request.writes

@[simp]
theorem changeRequests_nil : changeRequests [] = [] := rfl

@[simp]
theorem changeRequests_told (e : Event) (l : List Step) : changeRequests (.told e :: l) = changeRequests l := rfl

@[simp]
theorem changeRequests_asked (r : Request) (e : Option StoreError) (l : List Step) :
    changeRequests (.asked r e :: l) = if r.writes then r :: changeRequests l else changeRequests l := List.filter_cons

@[simp]
theorem changeRequests_append (l m : List Step) : changeRequests (l ++ m) = changeRequests l ++ changeRequests m := by
  simp [changeRequests]

theorem changeRequests_eq_nil {l : List Step} :
    changeRequests l = [] ↔ ∀ r ∈ l.filterMap Step.request?, r.writes = false := by
  simp [changeRequests, List.filter_eq_nil_iff]

theorem changeRequests_of_quiet {l : List Step} (h : ∀ x ∈ l, x.Quiet) : changeRequests l = [] := by
  induction l with
  | nil => rfl
  | cons x l ih =>
    obtain ⟨hx, hl⟩ := List.forall_mem_cons.1 h
    cases x with
    | told e => exact ih hl
    | asked r e =>
      have hquiet : r.writes = false := hx
      rw [changeRequests_asked, hquiet]
      exact ih hl

theorem Script.Ensures.and {p : Script α} {P Q : List Step → α → Prop} (hp : p.Ensures P) (hq : p.Ensures Q) :
    p.Ensures fun l a => P l a ∧ Q l a := by
  induction p generalizing P Q with
  | done a => exact ⟨hp, hq⟩
  | abort => exact hp
  | tell e next ih => exact ih hp hq
  | ask r next ih => exact fun a => ih a (hp a) (hq a)

def Script.Reads (p : Script α) : Prop := p.Ensures fun l _ => changeRequests l = []

theorem Script.reads_request {r : Request} (hr : r.writes = false) : (request r).Reads := by
  intro a
  change changeRequests [_] = []
  rw [changeRequests_asked, hr]
  rfl

theorem Script.Reads.bind {p : Script α} {f : α → Script β} (hp : p.Reads) (hf : ∀ a, (f a).Reads) :
    (p >>= f).Reads := by
  unfold Reads
  rw [ensures_bind]
  refine hp.mono fun l a hl => (hf a).mono fun m _ hm => ?_
  rw [changeRequests_append, hl, hm]
  rfl

namespace Store

variable {st : Store (StateM σ)} {hive : σ → Hive} {fit : σ → Prop} {s : σ}

theorem Follows.changeRequests (hst : st.Follows hive) (p : Script α) (s : σ) :
    ∃ rs : List Request, rs.Sublist (changeRequests (p.runOn st s).1.steps) ∧
      hive (p.runOn st s).2 = rs.foldl Hive.after (hive s) := by
  induction p generalizing s with
  | done a => exact ⟨[], List.Sublist.refl _, rfl⟩
  | abort => exact ⟨[], List.Sublist.refl _, rfl⟩
  | tell e next ih => exact ih s
  | ask r next ih =>
    obtain ⟨rs, hrs, hend⟩ := ih (st r s).1 (st r s).2
    rw [Script.runOn_ask]
    dsimp only [Transcript.cons]
    rw [changeRequests_asked, hend]
    cases hw : r.writes with
    | false =>
      have hstays : hive (st r s).2 = hive s := (hst r s).elim id fun h => h.trans (Hive.after_of_quiet _ hw)
      exact ⟨rs, hrs, by rw [hstays]⟩
    | true =>
      rcases hst r s with hstays | hafter
      · exact ⟨rs, hrs.cons r, by rw [hstays]⟩
      · exact ⟨r :: rs, hrs.cons_cons r, by rw [hafter]; rfl⟩

theorem Follows.unchanged_of_changeRequests (hst : st.Follows hive) (p : Script α)
    (hp : XrPanel.changeRequests (p.runOn st s).1.steps = []) : hive (p.runOn st s).2 = hive s := by
  obtain ⟨rs, hrs, hend⟩ := hst.changeRequests p s
  rw [hp] at hrs
  rw [hend, List.eq_nil_of_sublist_nil hrs]
  rfl

theorem Faultless.changeRequests (hst : st.Faultless hive fit) (hfol : st.Follows hive) (p : Script α) (hs : fit s) :
    hive (p.runOn st s).2 = (changeRequests (p.runOn st s).1.steps).foldl Hive.after (hive s) := by
  induction p generalizing s with
  | done a => rfl
  | abort => rfl
  | tell e next ih => exact ih hs
  | ask r next ih =>
    have hrest := ih (st r s).1 (hst.stays hs r)
    rw [hst.hive_after hfol hs] at hrest
    rw [Script.runOn_ask]
    dsimp only [Transcript.cons]
    rw [changeRequests_asked, hrest]
    cases hw : r.writes with
    | false =>
      rw [Hive.after_of_quiet _ hw]
      rfl
    | true => rfl

end Store

namespace Hive

variable {h : Hive} {path k : String} {ks : List String} {r : Request}

theorem edit?_of_quiet (h : Hive) (hr : r.writes = false) : h.edit? r = none := by
  cases r <;> first | rfl | cases hr

def deleteEach (h : Hive) (path : String) (ks : List String) : Hive := ks.foldl (fun h k => h.delete path k) h

theorem deleteEach_cons (h : Hive) (path k : String) (ks : List String) :
    h.deleteEach path (k :: ks) = (h.delete path k).deleteEach path ks := rfl

theorem foldl_after_deletes (h : Hive) (path : String) (ks : List String) :
    (ks.map (.deleteValue path)).foldl Hive.after h = h.deleteEach path ks := by
  rw [List.foldl_map, deleteEach]
  simp only [after_deleteValue]

theorem delete_of_absent (hk : h.get? path k = none) : h.delete path k = h := if_neg (by simp [hk])

theorem deleteEach_of_absent (hks : ∀ k ∈ ks, h.get? path k = none) : h.deleteEach path ks = h := by
  induction ks with
  | nil => rfl
  | cons k ks ih =>
    obtain ⟨hk, hks⟩ := List.forall_mem_cons.1 hks
    rw [deleteEach_cons, delete_of_absent hk, ih hks]

theorem pruned_deleteEach (h : Hive) (path : String) (ks : List String) : Pruned h (h.deleteEach path ks) := by
  induction ks generalizing h with
  | nil => exact .refl h
  | cons k ks ih => exact (pruned_delete h path k).trans (ih _)

theorem absent_of_deleteEach (he : h.deleteEach path ks = h) : ∀ k ∈ ks, h.get? path k = none := by
  induction ks with
  | nil => simp
  | cons k ks ih =>
    have hk : h.get? path k = none := by
      rw [Option.eq_none_iff_forall_ne_some]
      intro v hv
      rw [get?_eq, ← mem_entries] at hv
      rw [deleteEach_cons] at he
      have hmem : (SortedMap.spelling h path, (h.valuesAt path).spelling k, v) ∈
          ((h.delete path k).deleteEach path ks).entries := by
        rw [he]
        exact hv
      -- what the first deletion takes away none of the others brings back
      have hkept := (pruned_deleteEach (h.delete path k) path ks).entries hmem
      rw [mem_entries, at?_delete, if_pos ⟨rfl, rfl⟩] at hkept
      cases hkept
    refine List.forall_mem_cons.2 ⟨hk, ih ?_⟩
    rwa [deleteEach_cons, delete_of_absent hk] at he

end Hive

structure Drive.Reliable (d : Drive (StateM δ)) (path : String) (fit : δ → Prop) : Prop where
  isFile {z : δ} (hz : fit z) (p : String) : fit (d.isFile p z).2
  replace {z : δ} (hz : fit z) (bytes : ByteArray) :
    (d.replace path bytes z).1 = .ok () ∧ fit (d.replace path bytes z).2

theorem PlannedFile.reliable (path : String) : drive.Reliable path fun s => s.faults = [] where
  isFile hz _ := hz
  replace {z} hz bytes := by
    obtain ⟨file, staged, faults⟩ := z
    obtain rfl : faults = [] := hz
    exact ⟨rfl, rfl⟩

namespace Store

variable {st : Store (StateM σ)} {hive : σ → Hive} {fit : σ → Prop} {s : σ} {p : Script α}
variable {path : String} {keys : List String}

theorem Follows.deleteEach (hst : st.Follows hive)
    (hp : XrPanel.changeRequests (p.runOn st s).1.steps = keys.map (.deleteValue path)) :
    ∃ ks : List String, ks.Sublist keys ∧ hive (p.runOn st s).2 = (hive s).deleteEach path ks := by
  obtain ⟨rs, hrs, hend⟩ := hst.changeRequests p s
  rw [hp] at hrs
  obtain ⟨ks, hks, rfl⟩ := List.sublist_map_iff.1 hrs
  exact ⟨ks, hks, by rw [hend, Hive.foldl_after_deletes]⟩

theorem Faultless.deleteEach (hst : st.Faultless hive fit) (hfol : st.Follows hive) (hs : fit s)
    (hp : XrPanel.changeRequests (p.runOn st s).1.steps = keys.map (.deleteValue path)) :
    hive (p.runOn st s).2 = (hive s).deleteEach path keys := by
  rw [hst.changeRequests hfol p hs, hp, Hive.foldl_after_deletes]

end Store

namespace FileStore

abbrev onDrive (d : Drive (StateM δ)) : Store (StateM (FileStore × δ)) := fun r w => ask d r w

variable {d : Drive (StateM δ)} {w : FileStore × δ}

theorem stateT_bind (x : StateT FileStore (StateM δ) α) (f : α → StateT FileStore (StateM δ) β) (fs : FileStore)
    (s : δ) : (x >>= f).run fs s = (f (x.run fs s).1.1).run (x.run fs s).1.2 (x.run fs s).2 := rfl

theorem onDrive_backed (d : Drive (StateM δ)) : (onDrive d).Backed fun w => w.1.hive := ask_backed d

theorem onDrive_follows (d : Drive (StateM δ)) : (onDrive d).Follows fun w => w.1.hive := ask_follows d

theorem onDrive_faultless {path : String} {fit : δ → Prop} (hd : d.Reliable path fit) :
    (onDrive d).Faultless (fun w => w.1.hive) fun w => w.1.path = path ∧ fit w.2 where
  toBacked := onDrive_backed d
  answers {w} hw r := by
    obtain ⟨fs, z⟩ := w
    obtain ⟨rfl, hz⟩ := hw
    rcases ask_cases d r fs z with ⟨-, hr⟩ | ⟨next, e, -, he, -⟩ | ⟨next, -, -, hr⟩
    · rw [onDrive, hr]
    · rw [(hd.replace hz _).1] at he
      cases he
    · rw [onDrive, hr]
  stays {w} hw r := by
    obtain ⟨fs, z⟩ := w
    obtain ⟨rfl, hz⟩ := hw
    rcases ask_cases d r fs z with ⟨-, hr⟩ | ⟨next, e, -, he, -⟩ | ⟨next, -, -, hr⟩
    · rw [onDrive, hr]
      exact ⟨rfl, hz⟩
    · rw [(hd.replace hz _).1] at he
      cases he
    · rw [onDrive, hr]
      exact ⟨rfl, (hd.replace hz _).2⟩

theorem run_fileStore (d : Drive (StateM δ)) (p : Script α) (fs : FileStore) (x : δ) :
    (p.run (fileStore d)).run fs x =
      (((p.runOn (onDrive d) (fs, x)).1, (p.runOn (onDrive d) (fs, x)).2.1), (p.runOn (onDrive d) (fs, x)).2.2) := by
  induction p generalizing fs x with
  | done a => rfl
  | abort => rfl
  | tell e next ih =>
    rw [Script.runOn_tell, Script.run, stateT_bind, ih]
    rfl
  | ask r next ih =>
    have hask : onDrive d r (fs, x) =
        (((fileStore d r).run fs x).1.1, ((fileStore d r).run fs x).1.2, ((fileStore d r).run fs x).2) := rfl
    rw [Script.runOn_ask, Script.run, stateT_bind, stateT_bind, ih, hask]
    obtain ⟨⟨a, fs'⟩, x'⟩ := (fileStore d r).run fs x
    cases a <;> rfl

theorem runOn_unchanged (p : Script α)
    (hp : ∀ r ∈ changeRequests (p.runOn (onDrive d) w).1.steps, w.1.hive.edit? r = none) :
    (p.runOn (onDrive d) w).2 = w := by
  induction p with
  | done a => rfl
  | abort => rfl
  | tell e next ih => exact ih hp
  | ask r next ih =>
    have hedit : w.1.hive.edit? r = none := by
      cases hw : r.writes with
      | false => exact Hive.edit?_of_quiet _ hw
      | true =>
        apply hp
        rw [Script.runOn_ask]
        dsimp only [Transcript.cons]
        rw [changeRequests_asked, hw]
        exact List.mem_cons_self
    have hstays : (onDrive d r w).2 = w := congrArg Prod.snd (ask_unchanged hedit)
    rw [Script.runOn_ask] at hp ⊢
    dsimp only [Transcript.cons] at hp ⊢
    -- the hypothesis is about the hive at the start, so the induction needs that nothing has moved
    rw [hstays] at hp ⊢
    refine ih _ fun r' hr' => hp r' ?_
    rw [changeRequests_asked]
    split
    · exact List.mem_cons_of_mem _ hr'
    · exact hr'

theorem Durable.runOn {path : String} {file : δ → Option ByteArray} {staged : δ → String → Option ByteArray}
    (hd : d.KeepsFile path file staged) (h : Durable path file w) (p : Script α) :
    Durable path file (p.runOn (onDrive d) w).2 := by
  induction p generalizing w with
  | done a => exact h
  | abort => exact h
  | tell e next ih => exact ih h
  | ask r next ih =>
    rw [Script.runOn_ask]
    exact ih _ (h.ask hd r)

end FileStore

end XrPanel
