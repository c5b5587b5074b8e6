import Mathlib.Data.List.Forall2
import XrPanel.Proofs.DocumentLexing
import XrPanel.Proofs.DocumentRoundTrip

namespace XrPanel.Document

open Text JsonGrammar

variable {α : Type}

theorem value?_eq_some {t : Token} {v : Value} : t.value? = some v ↔ t = valueToken v := by
  constructor
  · intro h
    cases t <;> cases h <;> rfl
  · rintro rfl
    exact value?_valueToken v

theorem memberTokens_more {ms : List (String × List Token)} (h : ms ≠ []) (m : String × List Token) :
    memberTokens (m :: ms) = .string m.1 :: .colon :: m.2 ++ .comma :: memberTokens ms := by
  cases ms with
  | nil => exact absurd rfl h
  | cons n ms => rfl

theorem entries?_eq_some {ts rest : List Token} {es : List (String × Value)} (h : entries? ts = some (es, rest)) :
    es ≠ [] ∧ ts = memberTokens (es.map fun e => (e.1, [valueToken e.2])) ++ .closeBrace :: rest := by
  fun_induction entries? ts generalizing es rest with
  | case1 name t r v es' r' hr hv ih =>
    cases h
    obtain ⟨hne, hts⟩ := ih hr
    refine ⟨by simp, ?_⟩
    rw [List.map_cons, memberTokens_more (by simpa using hne), hts, value?_eq_some.1 hv]
    simp
  | case2 => cases h
  | case3 name t r =>
    simp only [Option.map_eq_some_iff] at h
    obtain ⟨v, hv, he⟩ := h
    cases he
    refine ⟨by simp, ?_⟩
    rw [value?_eq_some.1 hv]
    rfl
  | case4 => cases h

theorem values?_eq_some {ts rest : List Token} {es : List (String × Value)} (h : values? ts = some (es, rest)) :
    ts = entriesTokens es ++ rest := by
  unfold values? at h
  split at h
  case h_1 =>
    cases h
    rfl
  case h_2 =>
    obtain ⟨-, hts⟩ := entries?_eq_some h
    rw [hts]
    simp [entriesTokens, objectTokens]
  case h_3 => cases h

theorem paths?_eq_some {ts : List Token} {ms : List (String × List (String × Value))} (h : paths? ts = some ms) :
    ms ≠ [] ∧ ts = memberTokens (ms.map fun m => (m.1, entriesTokens m.2)) ++ [.closeBrace] := by
  fun_induction paths? ts generalizing ms with
  | case1 path rest es hes =>
    cases h
    refine ⟨by simp, ?_⟩
    rw [values?_eq_some hes]
    rfl
  | case2 path rest es after hes hlt ih =>
    simp only [Option.map_eq_some_iff] at h
    obtain ⟨ms, hms, rfl⟩ := h
    obtain ⟨hne, hts⟩ := ih hms
    refine ⟨by simp, ?_⟩
    rw [List.map_cons, memberTokens_more (by simpa using hne), values?_eq_some hes, hts]
    simp
  | case3 => cases h
  | case4 => cases h

theorem members?_eq_some {ts : List Token} {ms : List (String × List (String × Value))} :
    members? ts = some ms ↔ ts = documentTokens ms := by
  constructor
  · intro h
    unfold members? at h
    split at h
    case h_1 =>
      cases h
      rfl
    case h_2 =>
      obtain ⟨-, hts⟩ := paths?_eq_some h
      rw [hts]
      simp [documentTokens, objectTokens]
    case h_3 => cases h
  · rintro rfl
    exact members?_documentTokens ms

inductive IsValue : Tree → Value → Prop
  | string (s : String) : IsValue (.string s) (.string s)
  | dword {negative : Bool} {whole : List Char} {v : Int32} (hz : ¬ (negative = true ∧ whole = ['0']))
      (hv : v.toInt = integer negative whole) : IsValue (.number negative whole [] []) (.dword v)

def IsObject (R : Tree → α → Prop) (x : Tree) (ms : List (String × α)) : Prop :=
  ∃ xs, x = .object xs ∧ List.Forall₂ (fun m n => m.1 = n.1 ∧ R m.2 n.2) xs ms

/-- Texts of values of one kind and the words of the values come from each other. -/
structure Spells (R : Tree → α → Prop) (toks : α → List Token) : Prop where
  sound {cs : List Char} {a : α} {ts : List Token} (h : lex cs = some (toks a ++ ts)) :
    ∃ as x rest, Blanks cs as ∧ Written as x rest ∧ R x a ∧ lex rest = some ts
  complete {cs rest : List Char} {x : Tree} {a : α} (h : Written cs x rest) (hr : R x a) (he : EndsNumber rest) :
    lex cs = (lex rest).map (toks a ++ ·)

section

variable {c : Char} {t : Token} {cs rest : List Char} {ts : List Token}

theorem mark_of_lex (hm : (c, t) ∈ marks) (h : lex cs = some (t :: ts)) :
    ∃ rest, Blanks cs (c :: rest) ∧ lex rest = some ts := by
  cases lexed_of_lex h with
  | cons hb hw hrest =>
    cases hw with
    | @mark c' _ hm' _ =>
      have hc : c' = c := by
        simp only [marks, List.mem_cons, Prod.mk.injEq, List.not_mem_nil, or_false] at hm hm'
        rcases hm with ⟨rfl, rfl⟩ | ⟨rfl, rfl⟩ | ⟨rfl, rfl⟩ | ⟨rfl, rfl⟩ <;> simpa using hm'
      exact ⟨_, hc ▸ hb, hrest⟩
    | string => simp [marks] at hm
    | int => simp [marks] at hm

theorem chars_of_lex {k : String} (h : lex cs = some (.string k :: ts)) :
    ∃ as s rest, Blanks cs ('"' :: as) ∧ Chars as s rest ∧ k = String.ofList s ∧ lex rest = some ts := by
  cases lexed_of_lex h with
  | cons hb hw hrest =>
    cases hw with
    | mark hm => simp [marks] at hm
    | string hs => exact ⟨_, _, _, hb, hs, rfl, hrest⟩

theorem lex_of_mark (hm : (c, t) ∈ marks) (h : Mark c cs rest) : lex cs = (lex rest).map (t :: ·) := by
  obtain ⟨mid, hb, hb'⟩ := h
  rw [lex_blanks hb, lex_mark mid hm, lex_blanks hb']

theorem endsNumber_of_blanks (h : Blanks cs rest) (hr : EndsNumber rest) : EndsNumber cs := by
  cases h with
  | none => exact hr
  | @more c cs _ hc h =>
    apply endsNumber_cons
    simp only [List.mem_cons, List.not_mem_nil, or_false] at hc
    rcases hc with rfl | rfl | rfl | rfl <;> rfl

theorem endsNumber_of_mark (hc : c.isDigit = false) (h : Mark c cs rest) : EndsNumber cs := by
  obtain ⟨mid, hb, -⟩ := h
  exact endsNumber_of_blanks hb (endsNumber_cons hc mid)

end

theorem spells_value : Spells IsValue fun v => [valueToken v] where
  sound {cs v ts} h := by
    cases v with
    | string s =>
      obtain ⟨as, s, rest, hb, hs, rfl, hrest⟩ := chars_of_lex h
      exact ⟨_, _, rest, hb, .string hs, .string _, hrest⟩
    | dword v =>
      cases lexed_of_lex h with
      | cons hb hw hrest =>
        cases hw with
        | mark hm => simp [marks, valueToken] at hm
        | int hm hw hz hv => exact ⟨_, _, _, hb, .number hm hw (.none _) (.none _), .dword hz hv, hrest⟩
  complete {cs rest x v} h hr he := by
    cases hr with
    | string s =>
      cases h with
      | string hs => exact lex_word (.string hs) he
    | dword hz hv =>
      cases h with
      | number hm hw hf he' =>
        cases hf
        cases he'
        exact lex_word (.int hm hw hz hv) he

section

variable {R : Tree → α → Prop} {toks : α → List Token} (hR : Spells R toks)

include hR

theorem member_of_lex {k : String} {a : α} {cs : List Char} {ts : List Token}
    (h : lex cs = some (.string k :: .colon :: (toks a ++ ts))) :
    ∃ as s bs ds x rest, Blanks cs ('"' :: as) ∧ Chars as s bs ∧ Mark ':' bs ds ∧ Written ds x rest ∧
      String.ofList s = k ∧ R x a ∧ lex rest = some ts := by
  obtain ⟨as, s, bs, hb, hs, rfl, hbs⟩ := chars_of_lex h
  obtain ⟨mid, hcolon, hmid⟩ := mark_of_lex (c := ':') (by simp [marks]) hbs
  obtain ⟨ds, x, rest, hb', hw, hx, hrest⟩ := hR.sound hmid
  exact ⟨as, s, bs, ds, x, rest, hb, hs, ⟨mid, hcolon, hb'⟩, hw, rfl, hx, hrest⟩

theorem members_of_lex {ms : List (String × α)} {cs : List Char} {ts : List Token}
    (h : lex cs = some (memberTokens (ms.map fun m => (m.1, toks m.2)) ++ .closeBrace :: ts)) :
    ∃ as xs bs rest, Blanks cs as ∧ Members as xs bs ∧ Mark '\x7d' bs rest ∧
      List.Forall₂ (fun m n => m.1 = n.1 ∧ R m.2 n.2) xs ms ∧ lex rest = some ts := by
  induction ms generalizing cs with
  | nil =>
    obtain ⟨rest, hb, hrest⟩ := mark_of_lex (c := '\x7d') (by simp [marks]) h
    exact ⟨cs, [], cs, rest, .none cs, .none cs, ⟨rest, hb, .none rest⟩, .nil, hrest⟩
  | cons m ms ih =>
    -- after the last member stands the brace, after any other one a comma and a further member
    cases ms with
    | nil =>
      obtain ⟨as, s, bs, ds, x, es, hb, hs, hcolon, hw, hk, hx, hes⟩ := member_of_lex hR h
      obtain ⟨rest, hclose, hrest⟩ := mark_of_lex (c := '\x7d') (by simp [marks]) hes
      exact ⟨'"' :: as, [(String.ofList s, x)], es, rest, hb, .one hs hcolon hw, ⟨rest, hclose, .none rest⟩,
        .cons ⟨hk, hx⟩ .nil, hrest⟩
    | cons n ms =>
      rw [List.map_cons, memberTokens_more (by simp), List.append_assoc] at h
      obtain ⟨as, s, bs, ds, x, es, hb, hs, hcolon, hw, hk, hx, hes⟩ := member_of_lex hR h
      obtain ⟨mid, hcomma, hmid⟩ := mark_of_lex (c := ',') (by simp [marks]) hes
      obtain ⟨ns, xs, fs, rest, hb', hmembers, hclose, hforall, hrest⟩ := ih hmid
      cases hforall with
      | cons hy hforall =>
        exact ⟨'"' :: as, (String.ofList s, x) :: _, fs, rest, hb, .more hs hcolon hw ⟨mid, hcomma, hb'⟩ hmembers,
          hclose, .cons ⟨hk, hx⟩ (.cons hy hforall), hrest⟩

theorem lex_one_member {a : α} {x : Tree} {cs s as bs rest : List Char} (hs : Chars cs s as) (hc : Mark ':' as bs)
    (hw : Written bs x rest) (hx : R x a) (he : EndsNumber rest) :
    lex ('"' :: cs) = (lex rest).map (.string (String.ofList s) :: .colon :: toks a ++ ·) := by
  rw [lex_string (stringBody?_eq_some.2 hs), lex_of_mark (t := .colon) (by simp [marks]) hc, hR.complete hw hx he]
  simp [Function.comp_def]

theorem lex_members {xs : List (String × Tree)} {ms : List (String × α)} {cs rest : List Char} (h : Members cs xs rest)
    (hm : List.Forall₂ (fun m n => m.1 = n.1 ∧ R m.2 n.2) xs ms) (he : EndsNumber rest) :
    lex cs = (lex rest).map (memberTokens (ms.map fun m => (m.1, toks m.2)) ++ ·) := by
  induction hm generalizing cs with
  | nil =>
    cases h
    simp [memberTokens]
  | @cons x m xs ms hx hxs ih =>
    obtain ⟨hname, hvalue⟩ := hx
    cases h with
    | one hs hc hw =>
      cases hxs
      dsimp only at hname
      rw [lex_one_member hR hs hc hw hvalue he, hname]
      rfl
    | more hs hc hw hm hrest =>
      have hne : ms ≠ [] := by
        rintro rfl
        cases hxs
      dsimp only at hname
      rw [lex_one_member hR hs hc hw hvalue (endsNumber_of_mark rfl hm), lex_of_mark (t := .comma) (by simp [marks]) hm,
        ih hrest, List.map_cons, memberTokens_more (by simpa using hne), hname]
      simp [Function.comp_def]

theorem spells_object : Spells (IsObject R) fun ms => objectTokens (ms.map fun m => (m.1, toks m.2)) where
  sound {cs ms ts} h := by
    have hopen : lex cs =
        some (.openBrace :: (memberTokens (ms.map fun m => (m.1, toks m.2)) ++ .closeBrace :: ts)) := by
      simpa [objectTokens] using h
    obtain ⟨mid, hb, hmid⟩ := mark_of_lex (c := '\x7b') (by simp [marks]) hopen
    obtain ⟨as, xs, bs, rest, hb', hmembers, hclose, hforall, hrest⟩ := members_of_lex hR hmid
    exact ⟨cs, .object xs, rest, .none cs, .object ⟨mid, hb, hb'⟩ hmembers hclose, ⟨xs, rfl, hforall⟩, hrest⟩
  complete {cs rest x ms} h hr _ := by
    obtain ⟨xs, rfl, hforall⟩ := hr
    cases h with
    | object ho hmembers hc =>
      have hclose := lex_of_mark (t := .closeBrace) (by simp [marks]) hc
      rw [lex_of_mark (t := .openBrace) (by simp [marks]) ho,
        lex_members hR hmembers hforall (endsNumber_of_mark rfl hc), hclose]
      simp [objectTokens, Function.comp_def]

end

theorem members?_of_lex {cs : List Char} {ms : List (String × List (String × Value))} :
    (lex cs).bind members? = some ms ↔ ∃ x, JsonText cs x ∧ IsObject (IsObject IsValue) x ms := by
  have hspells : Spells (IsObject (IsObject IsValue)) documentTokens := spells_object (spells_object spells_value)
  rw [Option.bind_eq_some_iff]
  simp only [members?_eq_some]
  constructor
  · rintro ⟨ts, hts, rfl⟩
    rw [← List.append_nil (documentTokens ms)] at hts
    obtain ⟨as, x, rest, hb, hw, hx, hrest⟩ := hspells.sound hts
    cases lexed_of_lex hrest with
    | nil hb' => exact ⟨x, ⟨as, rest, hb, hw, hb'⟩, hx⟩
  · rintro ⟨x, ⟨as, bs, hb, hw, hb'⟩, hx⟩
    have hnil : lex [] = some [] := by rw [lex]
    -- no digit may follow a number, and after the whole value only blanks are left
    have hend : EndsNumber bs := endsNumber_of_blanks hb' (by simp [EndsNumber])
    refine ⟨_, ?_, rfl⟩
    rw [lex_blanks hb, hspells.complete hw hx hend, lex_blanks hb', hnil, Option.map_some, List.append_nil]

end XrPanel.Document
