import XrPanel.Proofs.FormLoading
import XrPanel.Proofs.StoreFaults

namespace XrPanel

open Script Text

variable {path p n q k : String} {ks ks' : List String} {v : Value}

theorem reaches_nil : ¬ Reaches path [] p n := by simp [Reaches]

theorem reaches_cons : Reaches path (k :: ks) p n ↔ (SameName p path ∧ SameName n k) ∨ Reaches path ks p n := by
  simp [Reaches, and_or_left]

theorem reaches_congr (hks : ∀ k, k ∈ ks ↔ k ∈ ks') : Reaches path ks p n ↔ Reaches path ks' p n := by
  simp only [Reaches, hks]

namespace Hive

variable {h : Hive}

theorem Distinct.deleteEach (hd : h.Distinct) (path : String) (ks : List String) : (h.deleteEach path ks).Distinct :=
  List.foldlRecOn ks _ hd fun _ hd k _ => hd.delete path k

theorem mem_names_deleteEach : q ∈ SortedMap.names (h.deleteEach path ks) ↔ q ∈ SortedMap.names h :=
  (pruned_deleteEach h path ks).paths q

namespace Distinct

variable (hd : h.Distinct)

include hd

theorem mem_entries_delete :
    (p, n, v) ∈ (h.delete path k).entries ↔ (p, n, v) ∈ h.entries ∧ ¬ (SameName p path ∧ SameName n k) := by
  rw [mem_entries, mem_entries, at?_delete]
  split
  case isTrue hpn =>
    obtain ⟨rfl, rfl⟩ := hpn
    refine iff_of_false (fun hv => by cases hv) fun hout => hout.2 ⟨?_, ?_⟩
    · exact SortedMap.sameName_spelling h path
    · exact SortedMap.sameName_spelling _ k
  case isFalse hne =>
    refine (and_iff_left_of_imp fun hv => ?_).symm
    rintro ⟨hp, hn⟩
    obtain rfl : SortedMap.spelling h path = p := hd.paths.spelling_eq (mem_names_of_at? hv) hp
    -- no other name of the same letters is there, so the entry would be the one that was deleted
    exact hne ⟨rfl, (hd.valuesAt path).spelling_eq (SortedMap.mem_names.2 ⟨v, by rw [find?_valuesAt, hv]⟩) hn⟩

theorem mem_entries_deleteEach :
    (p, n, v) ∈ (h.deleteEach path ks).entries ↔ (p, n, v) ∈ h.entries ∧ ¬ Reaches path ks p n := by
  induction ks generalizing h with
  | nil => simp [Hive.deleteEach, reaches_nil]
  | cons k ks ih => rw [deleteEach_cons, ih (hd.delete path k), hd.mem_entries_delete, and_assoc, reaches_cons, not_or]

theorem get?_deleteEach (hk : k ∈ ks) : (h.deleteEach path ks).get? path k = none := by
  rw [Option.eq_none_iff_forall_ne_some]
  intro v hv
  obtain ⟨p, n, hp, hn, hat⟩ := (hd.deleteEach path ks).get?_eq_some.1 hv
  rw [← mem_entries, hd.mem_entries_deleteEach] at hat
  exact hat.2 ⟨hp, k, hk, hn⟩

theorem deleteEach_congr (hks : ∀ k, k ∈ ks ↔ k ∈ ks') : h.deleteEach path ks = h.deleteEach path ks' := by
  apply ext_at?
  · intro q
    rw [mem_names_deleteEach, mem_names_deleteEach]
  · intro p n
    apply Option.ext
    intro v
    rw [← mem_entries, ← mem_entries, hd.mem_entries_deleteEach, hd.mem_entries_deleteEach, reaches_congr hks]

end Distinct

end Hive

variable {α σ : Type} {l : List Step}

theorem mem_passed {cs : List (Request × Option StoreError)} {r : Request} : r ∈ passed cs ↔ (r, none) ∈ cs := by
  simp [passed]

theorem attempt_of_changeRequests {r : Request} (hr : r ∈ changeRequests l) :
    ∃ e, (r, e) ∈ attempts l ∧ r.writes = true := by
  obtain ⟨hasked, hw⟩ := List.mem_filter.1 hr
  rw [← map_fst_attempts] at hasked
  obtain ⟨⟨r, e⟩, hmem, rfl⟩ := List.mem_map.1 hasked
  exact ⟨e, hmem, hw⟩

theorem passed_writes_sublist (l : List Step) :
    ((passed (attempts l)).filter Request.writes).Sublist (changeRequests l) := by
  rw [changeRequests, ← map_fst_attempts]
  exact (List.filter_sublist.map _).filter _

theorem Hive.foldl_after_writes (rs : List Request) (h : Hive) :
    (rs.filter Request.writes).foldl Hive.after h = rs.foldl Hive.after h := by
  induction rs generalizing h with
  | nil => rfl
  | cons r rs ih =>
    cases hw : r.writes with
    | true => rw [List.filter_cons_of_pos hw, List.foldl_cons, List.foldl_cons, ih]
    | false => rw [List.filter_cons_of_neg (by simp [hw]), List.foldl_cons, Hive.after_of_quiet _ hw, ih]

namespace Store

variable {st : Store (StateM σ)} {hive : σ → Hive} {fit : σ → Prop} {s : σ}

/-- From a state that is fit on, nothing is denied to be read. -/
structure Legible (st : Store (StateM σ)) (hive : σ → Hive) (fit : σ → Prop) : Prop where
  answers {s : σ} (hs : fit s) {r : Request} (hr : r.writes = false) : (st r s).1 = (hive s).answer r
  stays {s : σ} (hs : fit s) (r : Request) : fit (st r s).2

theorem Faultless.legible (hst : st.Faultless hive fit) : st.Legible hive fit :=
  ⟨fun hs r _ => hst.answers hs r, hst.stays⟩

theorem Backed.follows (hst : st.Backed hive) (hintact : st.Intact hive) : st.Follows hive := by
  intro r s
  cases ha : (st r s).1 with
  | ok a => exact .inr (hst.after ha)
  | error e => exact .inl (hintact r s e ha)

theorem readings_eq (hst : st.Legible hive fit) (hfol : st.Follows hive) (path : String) (keys : List String)
    (hs : fit s) : st.readings path keys s = keys.map ((hive s).getDword path) := by
  induction keys generalizing s with
  | nil => rfl
  | cons key keys ih =>
    have hstays : hive (st (.getDword path key) s).2 = hive s := (hfol _ s).elim id id
    rw [readings, ih (hst.stays hs _), hstays, hst.answers hs rfl]
    rfl

theorem Backed.deleteEach {p : Script α} {keys : List String} (hst : st.Backed hive) (hintact : st.Intact hive)
    (hp : changeRequests (p.runOn st s).1.steps = keys.map (.deleteValue path)) :
    ∃ ks : List String, (∀ k, k ∈ ks ↔ (.deleteValue path k, none) ∈ attempts (p.runOn st s).1.steps) ∧
      hive (p.runOn st s).2 = (hive s).deleteEach path ks := by
  have hsub := passed_writes_sublist (p.runOn st s).1.steps
  rw [hp] at hsub
  obtain ⟨ks, -, hks⟩ := List.sublist_map_iff.1 hsub
  refine ⟨ks, fun k => ?_, ?_⟩
  · have hmem : .deleteValue path k ∈ (passed (attempts (p.runOn st s).1.steps)).filter Request.writes ↔ k ∈ ks := by
      rw [hks]
      simp
    rw [← hmem, List.mem_filter, mem_passed]
    exact and_iff_left rfl
  · rw [hst.hive_passed hintact, ← Hive.foldl_after_writes, hks, Hive.foldl_after_deletes]

end Store

namespace Form

variable {f : Form} {st : Store (StateM σ)} {hive : σ → Hive} {fit : σ → Prop} {s : σ}

section

variable (ht : f.table.Ordered) (hst : st.Legible hive fit) (hfol : st.Follows hive) (hs : fit s)

include ht hst hfol hs

theorem reset_answered (level : LogLevel) (target message : String) (keys : List String) :
    let run := (log level target message >>= fun _ => deleteKeys f.path keys >>= fun _ => f.load).runOn st s
    ∃ r, run.1.result = some r ∧
      Loads f (f.table.ownedKeys.map ((hive run.2).getDword f.path)) r run.1.notices := by
  intro run
  obtain ⟨hresult, hnotices, hend⟩ := reset_runOn st s f level target message keys
  have hfit : fit (st.pruned f.path keys s) := List.foldlRecOn keys _ hs fun _ hs key _ => hst.stays hs _
  obtain ⟨r, hr, hloads⟩ := load_answered ht st (st.pruned f.path keys s)
  rw [Store.readings_eq hst hfol _ _ hfit] at hloads
  have hhive : hive run.2 = hive (st.pruned f.path keys s) := by rw [hend, load_unchanged hfol ht]
  rw [hhive, hnotices]
  exact ⟨r, hresult.trans hr, hloads⟩

theorem restoreDefaults_answered :
    let run := f.restoreDefaults.runOn st s
    ∃ r, run.1.result = some r ∧
      Loads f (f.table.ownedKeys.map ((hive run.2).getDword f.path)) r run.1.notices :=
  reset_answered ht hst hfol hs _ _ _ _

theorem restoreGroup_answered {group : String} (hgroup : group ∈ f.table.groups) :
    let run := (f.restoreGroup group).runOn st s
    ∃ r, run.1.result = some r ∧
      Loads f (f.table.ownedKeys.map ((hive run.2).getDword f.path)) r run.1.notices := by
  rw [restoreGroup_of_known hgroup]
  exact reset_answered ht hst hfol hs _ _ _ _

end

end Form

end XrPanel
