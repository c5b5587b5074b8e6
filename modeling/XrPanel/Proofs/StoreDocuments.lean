import XrPanel.Proofs.DocumentGrammar
import XrPanel.Proofs.FileDurability
import XrPanel.Proofs.HiveEntries

namespace XrPanel

open Text

variable {α β δ : Type}

def lastOf (k : String) (ms : List (String × α)) : Option α := (ms.reverse.find? fun m => m.1 = k).map (·.2)

theorem lastOf_cons (k : String) (m : String × α) (ms : List (String × α)) :
    lastOf k (m :: ms) = (lastOf k ms).or (if m.1 = k then some m.2 else none) := by
  rw [lastOf, List.reverse_cons, List.find?_append, lastOf]
  cases ms.reverse.find? fun m => m.1 = k with
  | some n => rfl
  | none =>
    by_cases hm : m.1 = k <;> simp [hm]

theorem lastOf_map (k : String) (f : α → β) (ms : List (String × α)) :
    lastOf k (ms.map fun m => (m.1, f m.2)) = (lastOf k ms).map f := by
  simp only [lastOf, ← List.map_reverse, List.find?_map, Option.map_map]
  rfl

namespace SortedMap

theorem find?_foldl_insert (es : List (String × β)) (m : SortedMap β) (k : String) :
    (es.foldl (fun m e => m.insert e.1 e.2) m).find? k = (lastOf k es).or (m.find? k) := by
  induction es generalizing m with
  | nil => rfl
  | cons e es ih =>
    rw [List.foldl_cons, ih, find?_insert, lastOf_cons, Option.or_assoc]
    split <;> rfl

theorem find?_ofList (es : List (String × β)) (k : String) : (ofList es).find? k = lastOf k es := by
  rw [ofList, find?_foldl_insert, find?_empty, Option.or_none]

end SortedMap

namespace Document

open JsonGrammar

/-- The hive has the members of a document: on both levels the last of those with one name. -/
structure Holds (h : Hive) (ms : List (String × List (String × Value))) : Prop where
  path (p : String) : p ∈ SortedMap.names h ↔ (lastOf p ms).isSome
  value (p n : String) : h.at? p n = (lastOf p ms).bind (lastOf n)

variable {h h' : Hive} {ms : List (String × List (String × Value))}

theorem find?_hiveOf (ms : List (String × List (String × Value))) (p : String) :
    SortedMap.find? (hiveOf ms) p = (lastOf p ms).map .ofList := by
  rw [hiveOf, SortedMap.find?_ofList, lastOf_map]

theorem holds_hiveOf (ms : List (String × List (String × Value))) : Holds (hiveOf ms) ms where
  path p := by
    rw [SortedMap.mem_names, find?_hiveOf]
    cases lastOf p ms <;> simp
  value p n := by
    rw [Hive.at?, find?_hiveOf]
    cases lastOf p ms with
    | none => rfl
    | some es => exact SortedMap.find?_ofList es n

theorem Holds.eq (hh : Holds h ms) (hh' : Holds h' ms) : h = h' :=
  Hive.ext_at? (fun p => (hh.path p).trans (hh'.path p).symm) fun p n => (hh.value p n).trans (hh'.value p n).symm

theorem mem_of_blanks {c : Char} {cs rest : List Char} (h : Blanks cs rest) (hc : c ∈ rest) : c ∈ cs := by
  induction h with
  | none => exact hc
  | more _ _ ih => exact List.mem_cons_of_mem _ (ih hc)

theorem not_blank_of_object {cs : List Char} {x : Tree} {R : Tree → α → Prop} {xs : List (String × α)}
    (hx : JsonText cs x) (hr : IsObject R x xs) : ¬ ∀ c ∈ cs, isBlank c = true := by
  obtain ⟨as, bs, hb, hw, -⟩ := hx
  obtain ⟨ms, rfl, -⟩ := hr
  cases hw with
  | object ho =>
    obtain ⟨mid, hb', -⟩ := ho
    intro hblank
    have hbrace := hblank '\x7b' (mem_of_blanks hb (mem_of_blanks hb' List.mem_cons_self))
    cases hbrace

theorem read?_eq_some {text : String} : read? text = some h ↔
    (∀ c ∈ text.toList, isBlank c = true) ∧ h = .empty ∨
      ∃ x ms, JsonText text.toList x ∧ IsObject (IsObject IsValue) x ms ∧ Holds h ms := by
  have hblank : isBlankText text = true ↔ ∀ c ∈ text.toList, isBlank c = true := List.all_eq_true
  unfold read?
  split
  case isTrue hall =>
    constructor
    · intro hread
      exact .inl ⟨hblank.1 hall, (Option.some.inj hread).symm⟩
    · rintro (⟨-, rfl⟩ | ⟨x, ms, hx, hr, -⟩)
      · rfl
      · exact absurd (hblank.1 hall) (not_blank_of_object hx hr)
  case isFalse hall =>
    constructor
    · intro hread
      obtain ⟨ms, hms, rfl⟩ := Option.map_eq_some_iff.1 hread
      obtain ⟨x, hx, hr⟩ := members?_of_lex.1 hms
      exact .inr ⟨x, ms, hx, hr, holds_hiveOf ms⟩
    · rintro (⟨hall', -⟩ | ⟨x, ms, hx, hr, hh⟩)
      · exact absurd (hblank.2 hall') hall
      · rw [members?_of_lex.2 ⟨x, hx, hr⟩, Option.map_some, (holds_hiveOf ms).eq hh]

end Document

namespace FileStore

open Document JsonGrammar

theorem openAt_text {d : Drive (StateM δ)} {path text : String} {s : δ}
    (hread : (d.read path s).1 = .ok text.toUTF8) :
    (openAt d path s).1 = match read? text with
      | none => .error (.corrupt (path ++ ": not a store document"))
      | some h => .ok ⟨path, h⟩ := by
  unfold openAt
  rw [stateM_bind, hread, contents, decode, fromUTF8?_toUTF8]
  dsimp only
  cases read? text <;> rfl

/-- A file is opened if its text is blank or a JSON text that is an object of objects of strings and whole numbers, and
only then. What is opened is empty, or has the members of the text. -/
theorem opens_blank_texts_and_documents {d : Drive (StateM δ)} {path text : String} {s : δ}
    (hread : (d.read path s).1 = .ok text.toUTF8) :
    let opened := (openAt d path s).1
    let Blank := ∀ c ∈ text.toList, isBlank c = true
    ((∃ fs, opened = .ok fs) ↔ Blank ∨ ∃ x ms, JsonText text.toList x ∧ IsObject (IsObject IsValue) x ms) ∧
    (∀ h, opened = .ok ⟨path, h⟩ ↔
      Blank ∧ h = .empty ∨ ∃ x ms, JsonText text.toList x ∧ IsObject (IsObject IsValue) x ms ∧ Holds h ms) ∧
    ((¬ ∃ fs, opened = .ok fs) → ∃ detail, opened = .error (.corrupt detail)) := by
  intro opened Blank
  have hopened : opened = _ := openAt_text hread
  have hhive : ∀ h, opened = .ok ⟨path, h⟩ ↔ read? text = some h := by
    intro h
    rw [hopened]
    cases read? text <;> simp
  refine ⟨⟨?_, ?_⟩, fun h => (hhive h).trans read?_eq_some, ?_⟩
  · rintro ⟨fs, hfs⟩
    rw [hopened] at hfs
    cases hr : read? text with
    | none =>
      rw [hr] at hfs
      cases hfs
    | some h =>
      rcases read?_eq_some.1 hr with ⟨hblank, -⟩ | ⟨x, ms, hx, hobject, -⟩
      · exact .inl hblank
      · exact .inr ⟨x, ms, hx, hobject⟩
  · rintro (hblank | ⟨x, ms, hx, hr⟩)
    · exact ⟨_, (hhive _).2 (read?_eq_some.2 (.inl ⟨hblank, rfl⟩))⟩
    · exact ⟨_, (hhive _).2 (read?_eq_some.2 (.inr ⟨x, ms, hx, hr, holds_hiveOf ms⟩))⟩
  · intro hnone
    rw [hopened] at hnone ⊢
    cases hr : read? text with
    | none => exact ⟨_, rfl⟩
    | some h =>
      rw [hr] at hnone
      exact absurd ⟨_, rfl⟩ hnone

theorem opens_blank_texts_and_documents_negative :
    let h : Hive := hiveOf [("P", [("n", .dword (-7))])]
    let planned : PlannedFile := { file := some (write h).toUTF8 }
    write h = "\x7b\n  \"P\": \x7b\n    \"n\": -7\n  \x7d\n\x7d" ∧
    (openAt PlannedFile.drive "store.json" planned).1 = .ok ⟨"store.json", h⟩ ∧
    ∃ x ms, JsonText (write h).toList x ∧ IsObject (IsObject IsValue) x ms ∧ Holds h ms := by
  intro h planned
  have hread : (PlannedFile.drive.read "store.json" planned).1 = .ok (write h).toUTF8 := rfl
  have hopened : (openAt PlannedFile.drive "store.json" planned).1 = .ok ⟨"store.json", h⟩ := by
    rw [openAt_text hread, read?_write]
  obtain ⟨-, hcontents, -⟩ := opens_blank_texts_and_documents hread
  refine ⟨by decide +kernel, hopened, ?_⟩
  rcases (hcontents h).1 hopened with ⟨-, hempty⟩ | hdocument
  · exact absurd hempty (by decide +kernel)
  · exact hdocument

end FileStore

end XrPanel
