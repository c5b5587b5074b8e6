import XrPanel.Proofs.DocumentText
import XrPanel.Store.File

namespace XrPanel

open Text

namespace SortedMap

variable {β : Type}

theorem insertEntry_last {k : String} {v : β} {es : List (String × β)} (h : ∀ e ∈ es, e.1 < k) :
    insertEntry k v es = es ++ [(k, v)] := by
  induction es with
  | nil => rfl
  | cons e es ih =>
    have he : e.1 < k := h e (by simp)
    have hlt : ¬ k < e.1 := fun hk => String.lt_irrefl k (String.lt_trans hk he)
    have hne : k ≠ e.1 := by rintro rfl; exact String.lt_irrefl _ he
    have ht := ih fun x hx => h x (List.mem_cons_of_mem _ hx)
    simp only [insertEntry, hlt, hne, ↓reduceIte, ht, List.cons_append]

theorem entries_foldl_insert {es : List (String × β)} {m : SortedMap β}
    (h : (m.entries ++ es).Pairwise fun a b => a.1 < b.1) :
    (es.foldl (fun m e => m.insert e.1 e.2) m).entries = m.entries ++ es := by
  induction es generalizing m with
  | nil => simp
  | cons e es ih =>
    have hlt : ∀ x ∈ m.entries, x.1 < e.1 := by
      intro x hx
      exact (List.pairwise_append.1 h).2.2 x hx e (by simp)
    have he : (m.insert e.1 e.2).entries = m.entries ++ [e] := insertEntry_last hlt
    rw [List.foldl_cons, ih]
    · rw [he, List.append_assoc, List.singleton_append]
    · rw [he, List.append_assoc, List.singleton_append]
      exact h

theorem ofList_entries (m : SortedMap β) : ofList m.entries = m := by
  apply ext_entries
  exact entries_foldl_insert (m := empty) m.ordered

end SortedMap

namespace Document

def entriesTokens (es : List (String × Value)) : List Token := objectTokens (es.map fun e => (e.1, [valueToken e.2]))

def documentTokens (ms : List (String × List (String × Value))) : List Token :=
  objectTokens (ms.map fun m => (m.1, entriesTokens m.2))

def valuesTokens (m : SortedMap Value) : List Token := entriesTokens m.entries

def hiveTokens (h : Hive) : List Token :=
  objectTokens (SortedMap.entries h |>.map fun p => (p.1, valuesTokens p.2))

def valuesJson (m : SortedMap Value) : Json := .object (m.entries.map fun e => (e.1, valueJson e.2))

theorem reads_valuesJson (m : SortedMap Value) : Reads (valuesJson m) (valuesTokens m) :=
  @reads_object _ valueJson (fun v => [valueToken v]) _ fun e _ => reads_valueJson e.2

theorem reads_hiveJson (h : Hive) : Reads (hiveJson h) (hiveTokens h) :=
  @reads_object _ valuesJson valuesTokens _ fun p _ => reads_valuesJson p.2

theorem lex_write (h : Hive) : lex (write h).toList = some (hiveTokens h) := by
  have hl := reads_hiveJson h 0 [] (by simp [EndsNumber])
  have hnil : lex [] = some [] := by rw [lex]
  rw [List.append_nil, hnil, Option.map_some, List.append_nil] at hl
  rw [write, Json.pretty, String.toList_ofList, hl]

theorem value?_valueToken (v : Value) : (valueToken v).value? = some v := by
  cases v <;> rfl

theorem entries?_memberTokens {es : List (String × Value)} (he : es ≠ []) (rest : List Token) :
    entries? (memberTokens (es.map fun e => (e.1, [valueToken e.2])) ++ .closeBrace :: rest) =
      some (es, rest) := by
  induction es with
  | nil => exact absurd rfl he
  | cons e es ih =>
    cases es with
    | nil => simp [memberTokens, entries?, value?_valueToken]
    | cons e' es =>
      have ht := ih (by simp)
      simp only [List.map_cons] at ht
      simp [memberTokens, entries?, value?_valueToken, ht]

theorem memberTokens_cons (m : String × List Token) (ms : List (String × List Token)) :
    ∃ ts, memberTokens (m :: ms) = .string m.1 :: ts := by
  cases ms <;> exact ⟨_, rfl⟩

theorem values?_entriesTokens (es : List (String × Value)) (rest : List Token) :
    values? (entriesTokens es ++ rest) = some (es, rest) := by
  cases es with
  | nil => simp [entriesTokens, objectTokens, memberTokens, values?]
  | cons e es =>
    have ht := entries?_memberTokens (List.cons_ne_nil e es) rest
    simp only [List.map_cons] at ht
    obtain ⟨ts, hts⟩ := memberTokens_cons (e.1, [valueToken e.2]) (es.map fun e => (e.1, [valueToken e.2]))
    simp only [entriesTokens, objectTokens, List.map_cons, hts, List.cons_append, List.append_assoc,
      List.nil_append] at ht ⊢
    rw [values?, ht]
    simp

theorem paths?_last {path : String} {rest : List Token} {es : List (String × Value)}
    (h : values? rest = some (es, [.closeBrace])) :
    paths? (.string path :: .colon :: rest) = some [(path, es)] := by
  rw [paths?]
  split <;> simp_all

theorem paths?_more {path : String} {rest after : List Token} {es : List (String × Value)}
    (h : values? rest = some (es, .comma :: after)) :
    paths? (.string path :: .colon :: rest) = (paths? after).map ((path, es) :: ·) := by
  rw [paths?]
  split <;> simp_all

theorem paths?_memberTokens {ms : List (String × List (String × Value))} (hm : ms ≠ []) :
    paths? (memberTokens (ms.map fun m => (m.1, entriesTokens m.2)) ++ [.closeBrace]) = some ms := by
  induction ms with
  | nil => exact absurd rfl hm
  | cons m ms ih =>
    cases ms with
    | nil =>
      simp only [List.map_cons, List.map_nil, memberTokens, List.cons_append]
      exact paths?_last (values?_entriesTokens m.2 [.closeBrace])
    | cons n ms =>
      have ht := ih (by simp)
      simp only [List.map_cons, memberTokens, List.cons_append, List.append_assoc] at ht ⊢
      rw [paths?_more (values?_entriesTokens m.2 _), ht, Option.map_some]

theorem members?_documentTokens (ms : List (String × List (String × Value))) :
    members? (documentTokens ms) = some ms := by
  cases ms with
  | nil => simp [documentTokens, objectTokens, memberTokens, members?]
  | cons m ms =>
    have ht := paths?_memberTokens (List.cons_ne_nil m ms)
    simp only [List.map_cons] at ht
    obtain ⟨ts, hts⟩ := memberTokens_cons (m.1, entriesTokens m.2) (ms.map fun m => (m.1, entriesTokens m.2))
    simp only [documentTokens, objectTokens, List.map_cons, hts, List.cons_append] at ht ⊢
    rw [members?, ht]
    simp

theorem members?_hiveTokens (h : Hive) :
    members? (hiveTokens h) = some (SortedMap.entries h |>.map fun p => (p.1, p.2.entries)) := by
  have hdocument : hiveTokens h = documentTokens (SortedMap.entries h |>.map fun p => (p.1, p.2.entries)) := by
    rw [documentTokens, List.map_map]
    rfl
  rw [hdocument]
  exact members?_documentTokens _

theorem hiveOf_entries (h : Hive) :
    hiveOf (SortedMap.entries h |>.map fun p => (p.1, p.2.entries)) = h := by
  simp only [hiveOf, List.map_map, Function.comp_def, SortedMap.ofList_entries]
  simpa using SortedMap.ofList_entries h

theorem not_isBlankText_write (h : Hive) : isBlankText (write h) = false := by
  have hf : ∃ cs, Json.layout 0 (hiveJson h) = '\x7b' :: cs := by
    simp only [hiveJson, Json.layout]
    split <;> exact ⟨_, rfl⟩
  obtain ⟨cs, hcs⟩ := hf
  rw [isBlankText, write, Json.pretty, String.toList_ofList, hcs, List.all_cons]
  rfl

theorem read?_write (h : Hive) : read? (write h) = some h := by
  rw [read?, not_isBlankText_write, lex_write, Option.bind_some, members?_hiveTokens, Option.map_some,
    hiveOf_entries]
  rfl

end Document

namespace FileStore

theorem fromUTF8?_toUTF8 (s : String) : String.fromUTF8? s.toUTF8 = some s := by
  have hs := s.isValidUTF8
  simp only [String.fromUTF8?, String.toUTF8_eq_toByteArray, hs, ↓reduceDIte]
  rfl

theorem decode_write (path : String) (h : Hive) : decode path (Document.write h).toUTF8 = .ok h := by
  rw [decode, fromUTF8?_toUTF8]
  simp only [Document.read?_write, Option.elim_some]

/-- A file that holds what was written for a hive is opened with that hive: with the same spellings, kinds
and values, and with the paths that have no values. -/
theorem contents_write (path : String) (h : Hive) :
    contents path (.ok (Document.write h).toUTF8) = .ok h := by
  rw [contents]
  exact decode_write path h

end FileStore

end XrPanel
