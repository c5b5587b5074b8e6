import XrPanel.Proofs.FileDurability
import XrPanel.Proofs.HiveDistinct

namespace XrPanel

open Text

namespace SortedMap

variable {β : Type} {m : SortedMap β} {a b k : String}

theorem spelled?_self (hk : k ∈ m.names) : m.spelled? k = some k ↔ m.spelling k = k := by
  unfold spelling
  cases h : m.spelled? k with
  | none => exact absurd hk (not_mem_of_spelled? h)
  | some k' => simp

theorem spelled?_put_of_some (v : β) (h : m.spelled? b = some k) : (m.put a v).spelled? b = some k := by
  rw [spelled?_put]
  split
  case isTrue hab => rw [spelling, spelled?_congr hab, h, Option.getD_some]
  case isFalse => exact h

theorem spelled?_drop_of_some (h : m.spelled? b = some k) (hk : m.spelling a ≠ k) :
    (m.drop a).spelled? b = some k := by
  have hnames : (m.drop a).names = m.names.filter fun x => x ≠ m.spelling a := by
    simp [names, SortedMap.drop, erase, List.filter_map, Function.comp_def]
  obtain ⟨hname, before, after, hsplit, hbefore⟩ := List.find?_eq_some_iff_append.1 h
  rw [spelled?, hnames, hsplit, List.filter_append, List.filter_cons_of_pos (by simpa using hk.symm)]
  refine List.find?_eq_some_iff_append.2 ⟨hname, _, _, rfl, fun x hx => ?_⟩
  exact hbefore x (List.mem_filter.1 hx).1

end SortedMap

namespace Hive

variable {h : Hive} {p n q k : String} {v : Value}

/-- No entry is behind another spelling of its path or of its name, where a look-up does not come to it. -/
def Exposed (h : Hive) : Prop :=
  ∀ e ∈ h.entries, SortedMap.spelled? h e.1 = some e.1 ∧ (h.valuesAt e.1).spelled? e.2.1 = some e.2.1

instance (h : Hive) : Decidable h.Exposed := inferInstanceAs (Decidable (∀ e ∈ h.entries, _ ∧ _))

theorem exposed_of_spelling
    (hs : ∀ p n v, h.at? p n = some v → SortedMap.spelling h p = p ∧ (h.valuesAt p).spelling n = n) : h.Exposed := by
  rintro ⟨p, n, v⟩ hmem
  have hv := mem_entries.1 hmem
  obtain ⟨hp, hn⟩ := hs p n v hv
  have hname : n ∈ (h.valuesAt p).names := SortedMap.mem_names.2 ⟨v, by rw [find?_valuesAt, hp, hv]⟩
  exact ⟨(SortedMap.spelled?_self (mem_names_of_at? hv)).2 hp, (SortedMap.spelled?_self hname).2 hn⟩

theorem Distinct.exposed (hd : h.Distinct) : h.Exposed := by
  apply exposed_of_spelling
  intro p n v hv
  have hp : SortedMap.spelling h p = p := hd.paths.spelling_eq (mem_names_of_at? hv) (SameName.refl p)
  refine ⟨hp, (hd.valuesAt p).spelling_eq ?_ (SameName.refl n)⟩
  exact SortedMap.mem_names.2 ⟨v, by rw [find?_valuesAt, hp, hv]⟩

theorem get?_of_getDword (hr : h.getDword p n = .ok none) : h.get? p n = none := by
  unfold getDword at hr
  split at hr
  case h_1 hnone => exact hnone
  case h_2 => cases hr
  case h_3 => cases hr

namespace Exposed

variable (he : h.Exposed)

include he

theorem spelling_eq (hv : h.at? p n = some v) (hp : SameName q p) (hn : SameName k n) :
    SortedMap.spelling h q = p ∧ (h.valuesAt q).spelling k = n := by
  obtain ⟨hpath, hname⟩ := he _ (mem_entries.2 hv)
  constructor
  · rw [SortedMap.spelling, SortedMap.spelled?_congr hp, hpath, Option.getD_some]
  · rw [valuesAt_congr hp, SortedMap.spelling, SortedMap.spelled?_congr hn, hname, Option.getD_some]

theorem get?_of_at? (hv : h.at? p n = some v) : h.get? p n = some v := by
  obtain ⟨hp, hn⟩ := he.spelling_eq hv (SameName.refl p) (SameName.refl n)
  rw [get?_eq, hp, hn, hv]

theorem get?_delete (hp : SameName p q) (hn : SameName n k) : (h.delete p n).get? q k = none := by
  rw [get?_eq, at?_delete]
  split
  case isTrue => rfl
  case isFalse hne =>
    rw [Option.eq_none_iff_forall_ne_some]
    intro v hv
    exact hne (he.spelling_eq hv (hp.trans (SortedMap.sameName_spelling _ q).symm)
      (hn.trans (SortedMap.sameName_spelling _ k).symm))

theorem ensurePath (path : String) : (h.ensurePath path).Exposed := by
  rintro ⟨p, n, v⟩ hmem
  have hv := mem_entries.1 hmem
  rw [at?_ensurePath] at hv
  obtain ⟨hpath, hname⟩ := he _ (mem_entries.2 hv)
  refine ⟨SortedMap.spelled?_put_of_some _ hpath, ?_⟩
  rw [Hive.ensurePath, valuesAt_put]
  split
  case isTrue hp =>
    rw [valuesAt_congr hp]
    exact hname
  case isFalse => exact hname

theorem set (path name : String) (x : Value) : (h.set path name x).Exposed := by
  rintro ⟨p, n, v⟩ hmem
  have hv := mem_entries.1 hmem
  rw [at?_set] at hv
  rw [Hive.set, valuesAt_put]
  split at hv
  case isTrue hpn =>
    -- the entry that is set is kept under the spelling that look-ups come to
    obtain ⟨rfl, rfl⟩ := hpn
    have hpath := (SortedMap.sameName_spelling h path).symm
    have hname := (SortedMap.sameName_spelling (h.valuesAt path) name).symm
    rw [if_pos hpath, SortedMap.spelled?_put, if_pos hpath, SortedMap.spelled?_put, if_pos hname]
    exact ⟨rfl, rfl⟩
  case isFalse =>
    obtain ⟨hpath, hname⟩ := he _ (mem_entries.2 hv)
    refine ⟨SortedMap.spelled?_put_of_some _ hpath, ?_⟩
    split
    case isTrue hp =>
      rw [valuesAt_congr hp]
      exact SortedMap.spelled?_put_of_some _ hname
    case isFalse => exact hname

theorem delete (path name : String) : (h.delete path name).Exposed := by
  rintro ⟨p, n, v⟩ hmem
  have hv := mem_entries.1 hmem
  rw [at?_delete] at hv
  split at hv
  case isTrue => cases hv
  case isFalse hne =>
    obtain ⟨hpath, hname⟩ := he _ (mem_entries.2 hv)
    unfold Hive.delete
    split
    case isFalse => exact ⟨hpath, hname⟩
    case isTrue =>
      refine ⟨SortedMap.spelled?_put_of_some _ hpath, ?_⟩
      rw [valuesAt_put]
      split
      case isFalse => exact hname
      case isTrue hp =>
        have hspelling := (he.spelling_eq hv hp (SameName.refl n)).1
        rw [valuesAt_congr hp] at hne ⊢
        exact SortedMap.spelled?_drop_of_some hname fun hn => hne ⟨hspelling, hn⟩

theorem after (r : Request) : (h.after r).Exposed := by
  rcases h.after_cases r with ha | ⟨p, -, ha⟩ | ⟨p, n, v, -, ha⟩ | ⟨p, n, -, ha⟩ <;> rw [ha]
  · exact he
  · exact he.ensurePath p
  · exact he.set p n v
  · exact he.delete p n

end Exposed

end Hive

namespace FileStore

variable {δ : Type} {d : Drive (StateM δ)} {v w : FileStore × δ}

structure Matching (d : Drive (StateM δ)) (v : FileStore × δ) : Prop where
  dword {p n : String} {i : Int32} (he : (p, n, .dword i) ∈ v.1.hive.entries) :
    (ask d (.getDword p n) v).1 = .ok (some i)
  string {p n s : String} (he : (p, n, .string s) ∈ v.1.hive.entries) :
    (ask d (.getString p n) v).1 = .ok (some s)
  deleted {p n q k : String} {u : FileStore × δ} (hu : ask d (.deleteValue p n) v = (.ok (), u))
    (hp : SameName p q) (hn : SameName n k) :
    (ask d (.getDword q k) u).1 = .ok none ∧ (ask d (.getString q k) u).1 = .ok none

theorem ask_getDword (d : Drive (StateM δ)) (v : FileStore × δ) (p n : String) :
    ask d (.getDword p n) v = (v.1.hive.getDword p n, v) := ask_unchanged rfl

theorem ask_getString (d : Drive (StateM δ)) (v : FileStore × δ) (p n : String) :
    ask d (.getString p n) v = (v.1.hive.getString p n, v) := ask_unchanged rfl

theorem ask_getDword_of_get? {p n : String} {i : Int32} (h : v.1.hive.get? p n = some (.dword i)) :
    (ask d (.getDword p n) v).1 = .ok (some i) := by rw [ask_getDword, Hive.getDword, h]

theorem hive_deleteValue {p n : String} (h : ask d (.deleteValue p n) w = (.ok (), v)) :
    v.1.hive = w.1.hive.delete p n := by
  rw [(ask_ok h).2, Hive.after_deleteValue]

theorem matching_of_exposed (he : v.1.hive.Exposed) : Matching d v := by
  constructor
  · intro p n i hmem
    exact ask_getDword_of_get? (he.get?_of_at? (Hive.mem_entries.1 hmem))
  · intro p n s hmem
    rw [ask_getString, Hive.getString, he.get?_of_at? (Hive.mem_entries.1 hmem)]
  · intro p n q k u hu hp hn
    have hnone : u.1.hive.get? q k = none := by
      rw [hive_deleteValue hu]
      exact he.get?_delete hp hn
    rw [ask_getDword, ask_getString, Hive.getDword, Hive.getString, hnone]
    exact ⟨rfl, rfl⟩

theorem exposed_calls (he : w.1.hive.Exposed) (rs : List Request) :
    (calls d (rs.map .ask) w).2.1.hive.Exposed := by
  induction rs generalizing w with
  | nil => exact he
  | cons r rs ih =>
    apply ih
    rcases ask_hive d r w with hstays | hafter
    · rw [hstays]
      exact he
    · rw [hafter]
      exact he.after r

theorem Matching.get?_of_at? (hv : Matching d v) {p n : String} {x : Value} (hx : v.1.hive.at? p n = some x) :
    v.1.hive.get? p n = some x := by
  cases x with
  | dword i =>
    have hread := hv.dword (Hive.mem_entries.2 hx)
    rw [ask_getDword, Hive.getDword] at hread
    split at hread <;> simp_all
  | string s =>
    have hread := hv.string (Hive.mem_entries.2 hx)
    rw [ask_getString, Hive.getString] at hread
    split at hread <;> simp_all

theorem openAt_of_contents {path : String} {s : δ} {h : Hive} (hread : contents path (d.read path s).1 = .ok h) :
    openAt d path s = (.ok ⟨path, h⟩, (d.read path s).2) := by
  unfold openAt
  rw [stateM_bind, hread]
  rfl

theorem Matching.spelling_eq (hv : Matching d v) (hw : Matching d w) {p n : String} {x : Value}
    (hdel : ask d (.deleteValue p n) v = (.ok (), w)) (hx : v.1.hive.at? p n = some x) :
    SortedMap.spelling v.1.hive p = p ∧ (v.1.hive.valuesAt p).spelling n = n := by
  have hgone : w.1.hive.at? p n = none := by
    have hnone := (hv.deleted hdel (SameName.refl p) (SameName.refl n)).1
    rw [ask_getDword] at hnone
    have hread : w.1.hive.get? p n = none := Hive.get?_of_getDword hnone
    rw [Option.eq_none_iff_forall_ne_some]
    intro y hy
    rw [hw.get?_of_at? hy] at hread
    cases hread
  rw [hive_deleteValue hdel, Hive.at?_delete] at hgone
  split at hgone
  case isTrue hpn => exact hpn
  case isFalse =>
    rw [hx] at hgone
    cases hgone

/-- A store that was opened from any document matches names without regard to case, whatever is asked of it, if no
entry of the document is behind another spelling; and where entries can be deleted, only then. No entry is if all
names differ by more than case. -/
theorem opened_file_matches {d : Drive (StateM δ)} {path : String} {s : δ} {h : Hive}
    (hread : contents path (d.read path s).1 = .ok h) :
    let w : FileStore × δ := (⟨path, h⟩, (d.read path s).2)
    openAt d path s = (.ok w.1, w.2) ∧
    (h.Exposed → ∀ rs : List Request, Matching d (calls d (rs.map .ask) w).2) ∧
    ((∀ p n, (ask d (.deleteValue p n) w).1 = .ok ()) →
      (∀ rs : List Request, Matching d (calls d (rs.map .ask) w).2) → h.Exposed) ∧
    (h.Distinct → h.Exposed) := by
  intro w
  refine ⟨openAt_of_contents hread, fun he rs => matching_of_exposed (exposed_calls he rs), ?_, Hive.Distinct.exposed⟩
  intro hdelete hm
  apply Hive.exposed_of_spelling
  intro p n x hx
  have hu : ask d (.deleteValue p n) w = (.ok (), (ask d (.deleteValue p n) w).2) := Prod.ext (hdelete p n) rfl
  have hw : Matching d w := hm []
  have hafter : Matching d (ask d (.deleteValue p n) w).2 := hm [.deleteValue p n]
  exact hw.spelling_eq hafter hu hx

def holding (h : Hive) : PlannedFile := { file := some (Document.write h).toUTF8 }

theorem contents_holding (path : String) (h : Hive) :
    contents path (PlannedFile.drive.read path (holding h)).1 = .ok h := decode_write path h

/-- The second spelling of the path has no entries that could be missed. -/
theorem opened_file_matches_empty_path :
    let h : Hive := Document.hiveOf [("P", [("A", .dword 1)]), ("p", [])]
    let w : FileStore × PlannedFile := (⟨"store.json", h⟩, holding h)
    contents "store.json" (PlannedFile.drive.read "store.json" w.2).1 = .ok h ∧
    openAt PlannedFile.drive "store.json" w.2 = (.ok w.1, w.2) ∧
    Matching PlannedFile.drive
      (calls PlannedFile.drive [.ask (.deleteValue "p" "a"), .ask (.setDword "p" "b" 2)] w).2 := by
  intro h w
  have hread := contents_holding "store.json" h
  have hopened := opened_file_matches hread
  have he : h.Exposed := by decide +kernel
  exact ⟨hread, hopened.1, hopened.2.1 he [.deleteValue "p" "a", .setDword "p" "b" 2]⟩

theorem second_spelling_is_missed :
    let h : Hive := Document.hiveOf [("P", [("A", .dword 1), ("a", .dword 2)])]
    let w : FileStore × PlannedFile := (⟨"store.json", h⟩, holding h)
    Document.write h = "\x7b\n  \"P\": \x7b\n    \"A\": 1,\n    \"a\": 2\n  \x7d\n\x7d" ∧
    openAt PlannedFile.drive "store.json" w.2 = (.ok w.1, w.2) ∧
    ("P", "a", .dword 2) ∈ h.entries ∧
    (ask PlannedFile.drive (.getDword "P" "a") w).1 = .ok (some 1) ∧
    ∃ u, ask PlannedFile.drive (.deleteValue "P" "a") w = (.ok (), u) ∧
      (ask PlannedFile.drive (.getDword "P" "a") u).1 = .ok (some 2) := by
  intro h w
  have hopened := openAt_of_contents (contents_holding "store.json" h)
  have hnames : (h.valuesAt "P").names = ["A", "a"] := by decide +kernel
  have hsame : SameName "A" "a" := by decide +kernel
  have hspelled : (h.valuesAt "P").spelled? "a" = some "A" := by
    rw [SortedMap.spelled?, hnames]
    exact List.find?_cons_of_pos (by simpa using hsame)
  have hfirst : h.get? "P" "a" = some (.dword 1) := by
    rw [Hive.get?, SortedMap.look, hspelled]
    decide +kernel
  have hsome : (h.get? "P" "a").isSome := by
    rw [hfirst]
    rfl
  have hsecond : (h.delete "P" "a").get? "P" "a" = some (.dword 2) := by
    rw [Hive.get?, Hive.delete, if_pos hsome, Hive.valuesAt_put, if_pos (SameName.refl "P"), SortedMap.drop,
      SortedMap.spelling, hspelled]
    decide +kernel
  refine ⟨by decide +kernel, hopened, by decide +kernel, ?_, _, ask_replaced (if_pos hsome) rfl, ?_⟩
  · exact ask_getDword_of_get? hfirst
  · exact ask_getDword_of_get? hsecond

end FileStore

end XrPanel
