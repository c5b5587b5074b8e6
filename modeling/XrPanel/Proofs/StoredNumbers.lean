import XrPanel.Form.Values
import XrPanel.Proofs.HiveLookup
import XrPanel.Proofs.ScriptCourses

namespace XrPanel

open Text

variable {h : Hive} {path k : String} {ws : List (String × Int32)}

namespace Hive

def dword? (h : Hive) (path name : String) : Option Int32 :=
  match h.get? path name with
  | some (.dword n) => some n
  | _ => none

def Readable (h : Hive) (path name : String) : Prop := ∀ s, h.get? path name ≠ some (.string s)

theorem getDword_of_readable (hr : h.Readable path k) : h.getDword path k = .ok (h.dword? path k) := by
  unfold getDword dword?
  cases hv : h.get? path k with
  | none => rfl
  | some v =>
    cases v with
    | dword n => rfl
    | string s => exact absurd hv (hr s)

theorem readable_of_getDword {x : Option Int32} (hx : h.getDword path k = .ok x) :
    h.Readable path k ∧ x = h.dword? path k := by
  have hr : h.Readable path k := by
    intro s hs
    rw [getDword, hs] at hx
    cases hx
  rw [getDword_of_readable hr] at hx
  exact ⟨hr, (Except.ok.inj hx).symm⟩

def setEach (h : Hive) (path : String) (ws : List (String × Int32)) : Hive :=
  ws.foldl (fun h w => h.set path w.1 (.dword w.2)) h

def write (h : Hive) (path : String) (ws : List (String × Int32)) : Hive :=
  if ws.isEmpty then h else (h.after (.ensurePath path)).setEach path ws

theorem get?_setEach_of_not_mem (hw : ∀ w ∈ ws, ¬ SameName w.1 k) :
    (h.setEach path ws).get? path k = h.get? path k := by
  induction ws generalizing h with
  | nil => rfl
  | cons w ws ih =>
    obtain ⟨hn, hws⟩ := List.forall_mem_cons.1 hw
    change ((h.set path w.1 (.dword w.2)).setEach path ws).get? path k = _
    rw [ih hws, get?_set, if_neg fun hk => hn hk.2]

theorem get?_setEach_of_mem {v : Int32} (hv : ∀ w ∈ ws, SameName w.1 k → w.2 = v)
    (hk : (∃ w ∈ ws, SameName w.1 k) ∨ h.get? path k = some (.dword v)) :
    (h.setEach path ws).get? path k = some (.dword v) := by
  induction ws generalizing h with
  | nil =>
    rcases hk with ⟨w, hw, -⟩ | hk
    · cases hw
    · exact hk
  | cons w ws ih =>
    obtain ⟨hw, hws⟩ := List.forall_mem_cons.1 hv
    refine ih (h := h.set path w.1 (.dword w.2)) hws ?_
    rw [get?_set]
    by_cases hn : SameName w.1 k
    · exact .inr (by rw [if_pos ⟨SameName.refl path, hn⟩, hw hn])
    · rw [if_neg fun hk => hn hk.2]
      refine hk.imp_left ?_
      rintro ⟨w', hmem, hn'⟩
      rcases List.mem_cons.1 hmem with rfl | hmem
      · exact absurd hn' hn
      · exact ⟨w', hmem, hn'⟩

theorem get?_write_of_not_mem (hw : ∀ w ∈ ws, ¬ SameName w.1 k) :
    (h.write path ws).get? path k = h.get? path k := by
  unfold write
  split
  · rfl
  · rw [get?_setEach_of_not_mem hw, get?_after_ensurePath]

theorem get?_write_of_mem {v : Int32} (hv : ∀ w ∈ ws, SameName w.1 k → w.2 = v)
    (hk : ∃ w ∈ ws, SameName w.1 k) : (h.write path ws).get? path k = some (.dword v) := by
  obtain ⟨w, hw, hn⟩ := hk
  rw [write, if_neg fun he => List.ne_nil_of_mem hw (List.isEmpty_iff.1 he)]
  exact get?_setEach_of_mem hv (.inl ⟨w, hw, hn⟩)

theorem dword?_write_of_not_mem (hw : ∀ w ∈ ws, ¬ SameName w.1 k) :
    (h.write path ws).dword? path k = h.dword? path k := by
  rw [dword?, get?_write_of_not_mem hw, dword?]

theorem dword?_write_of_mem {v : Int32} (hv : ∀ w ∈ ws, SameName w.1 k → w.2 = v)
    (hk : ∃ w ∈ ws, SameName w.1 k) : (h.write path ws).dword? path k = some v := by
  rw [dword?, get?_write_of_mem hv hk]

theorem readable_empty (path k : String) : Readable .empty path k := by
  intro s hs
  cases hs

theorem Readable.setDword (hr : h.Readable path k) (q n : String) (v : Int32) :
    (h.set q n (.dword v)).Readable path k := by
  intro s hs
  rw [get?_set] at hs
  split at hs
  · cases hs
  · exact hr s hs

theorem Readable.setEach (hr : h.Readable path k) (ws : List (String × Int32)) :
    (h.setEach path ws).Readable path k := by
  induction ws generalizing h with
  | nil => exact hr
  | cons w ws ih => exact ih (hr.setDword path w.1 w.2)

theorem Readable.write (hr : h.Readable path k) (ws : List (String × Int32)) : (h.write path ws).Readable path k := by
  unfold Hive.write
  split
  · exact hr
  · apply Readable.setEach
    intro s hs
    rw [get?_after_ensurePath] at hs
    exact hr s hs

end Hive

namespace Snapshot

def collect (h : Hive) (path : String) (keys : List String) (s : Snapshot) : Snapshot :=
  keys.foldl (fun s key => s.insert key (h.dword? path key)) s

theorem raw?_collect (h : Hive) (path : String) (keys : List String) (s : Snapshot) (k : String) :
    (collect h path keys s).raw? k = if k ∈ keys then h.dword? path k else s.raw? k := by
  induction keys generalizing s with
  | nil => rfl
  | cons key keys ih =>
    change (collect h path keys (s.insert key (h.dword? path key))).raw? k = _
    rw [ih, raw?, SortedMap.find?_insert]
    by_cases hk : k ∈ keys
    · simp [hk]
    · by_cases hkey : key = k
      · simp [hkey, hk]
      · simp [hk, hkey, Ne.symm hkey, raw?]

def readOn (path key : String) (keys : List String) (acc : Snapshot) :
    Except StoreError (Option Int32) → Script (Except StoreError Snapshot)
  | .ok raw => read path keys (acc.insert key raw)
  | .error e => .done (.error e)

theorem read_cons (path key : String) (keys : List String) (acc : Snapshot) :
    read path (key :: keys) acc = .ask (.getDword path key) (readOn path key keys acc) := by
  rw [read]
  change Script.bind (.ask _ _) _ = _
  rw [Script.bind]
  congr 1
  funext a
  cases a <;> rfl

variable {σ : Type}

theorem read_runOn {st : Store (StateM σ)} {hive : σ → Hive} (hst : st.Backed hive) (path : String)
    (keys : List String) (acc : Snapshot) (s : σ) (hc : Clean ((read path keys acc).runOn st s).1.steps) :
    ((read path keys acc).runOn st s).1.result = some (.ok (collect (hive s) path keys acc)) ∧
      hive ((read path keys acc).runOn st s).2 = hive s ∧ ∀ k ∈ keys, (hive s).Readable path k := by
  induction keys generalizing acc s with
  | nil => exact ⟨rfl, rfl, fun k hk => nomatch hk⟩
  | cons key keys ih =>
    rw [read_cons, Script.runOn_ask] at hc ⊢
    obtain ⟨hok, hrest⟩ := (clean_asked _ _ _).1 hc
    obtain ⟨raw, hraw⟩ := failure?_eq_none.1 hok
    have hafter : hive (st (.getDword path key) s).2 = hive s := hst.after hraw
    obtain ⟨hreadable, rfl⟩ := Hive.readable_of_getDword (hst.answer hraw)
    have hnext : readOn path key keys acc (st (.getDword path key) s).1 =
        read path keys (acc.insert key ((hive s).dword? path key)) := congrArg (readOn path key keys acc) hraw
    rw [hnext] at hrest ⊢
    obtain ⟨hresult, hhive, hkeys⟩ := ih _ _ hrest
    rw [hafter] at hresult hhive hkeys
    exact ⟨hresult, hhive, List.forall_mem_cons.2 ⟨hreadable, hkeys⟩⟩

theorem clean_read {st : Store (StateM σ)} {hive : σ → Hive} {fit : σ → Prop} (hst : st.Faultless hive fit) {s : σ}
    (hs : fit s) {path : String} {keys : List String} (hr : ∀ k ∈ keys, (hive s).Readable path k) (acc : Snapshot) :
    Clean ((read path keys acc).runOn st s).1.steps := by
  induction keys generalizing acc s with
  | nil => exact clean_nil
  | cons key keys ih =>
    obtain ⟨hkey, hkeys⟩ := List.forall_mem_cons.1 hr
    have hraw : (st (.getDword path key) s).1 = .ok ((hive s).dword? path key) :=
      (hst.answers hs _).trans (Hive.getDword_of_readable hkey)
    have hafter : hive (st (.getDword path key) s).2 = hive s := hst.after hraw
    have hnext : readOn path key keys acc (st (.getDword path key) s).1 =
        read path keys (acc.insert key ((hive s).dword? path key)) := congrArg (readOn path key keys acc) hraw
    rw [read_cons, Script.runOn_ask, hnext]
    refine (clean_asked _ _ _).2 ⟨failure?_eq_none.2 ⟨_, hraw⟩, ih (hst.stays hs _) ?_ _⟩
    rw [hafter]
    exact hkeys

end Snapshot

end XrPanel
