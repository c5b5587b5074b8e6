import XrPanel.Proofs.Numerals
import XrPanel.Store.Document

namespace XrPanel.Document

open Text

theorem hexValue?_hexDigit : ∀ n < 16, hexValue? (Json.hexDigit n) = some n := by decide

theorem codeUnit?_low {n : Nat} (h : n < 0x20) (rest : List Char) :
    codeUnit? ('0' :: '0' :: Json.hexDigit (n / 16) :: Json.hexDigit (n % 16) :: rest) = some (n, rest) := by
  have hz : hexValue? '0' = some 0 := by decide
  have hh : hexValue? (Json.hexDigit (n / 16)) = some (n / 16) := hexValue?_hexDigit _ (by omega)
  have hl : hexValue? (Json.hexDigit (n % 16)) = some (n % 16) := hexValue?_hexDigit _ (by omega)
  have he : n / 16 * 16 + n % 16 = n := by omega
  simp [codeUnit?, hz, hh, hl, he]

theorem numbered?_low {c : Char} (h : c.toNat < 0x20) (rest : List Char) :
    numbered? ('0' :: '0' :: Json.hexDigit (c.toNat / 16) :: Json.hexDigit (c.toNat % 16) :: rest) =
      some (c, rest) := by
  have hl : isLeading c.toNat = false := by simp [isLeading]; omega
  have ht : isTrailing c.toNat = false := by simp [isTrailing]; omega
  simp [numbered?, codeUnit?_low h, hl, ht]

theorem stringBody?_backslash {rest after : List Char} {c : Char} (h : escaped? rest = some (c, after)) :
    stringBody? ('\\' :: rest) = (stringBody? after).map fun s => (c :: s.1, s.2) := by
  rw [stringBody?]
  simp only [Char.reduceEq, ↓reduceIte]
  split
  case h_1 x a hx =>
    obtain ⟨rfl, rfl⟩ : x = c ∧ a = after := by simpa [h] using hx.symm
    rfl
  case h_2 hx => simp [h] at hx

theorem stringBody?_plain {c : Char} (hq : c ≠ '"') (hb : c ≠ '\\') (hc : ¬ c.toNat < 0x20)
    (rest : List Char) : stringBody? (c :: rest) = (stringBody? rest).map fun s => (c :: s.1, s.2) := by
  rw [stringBody?]
  simp only [hq, hb, hc, ↓reduceIte]

theorem escape_cases (c : Char) :
    (∃ es, Json.escape c = '\\' :: es ∧ ∀ rest, escaped? (es ++ rest) = some (c, rest)) ∨
      (Json.escape c = [c] ∧ c ≠ '"' ∧ c ≠ '\\' ∧ ¬ c.toNat < 0x20) := by
  by_cases hs : c ∈ ['"', '\\', '\x08', '\x0c', '\n', '\r', '\t']
  · simp only [List.mem_cons, List.not_mem_nil, or_false] at hs
    rcases hs with rfl | rfl | rfl | rfl | rfl | rfl | rfl <;> exact .inl ⟨_, rfl, fun _ => rfl⟩
  · simp only [List.mem_cons, List.not_mem_nil, or_false, not_or] at hs
    obtain ⟨hq, hb, h8, hf, hn, hr, ht⟩ := hs
    by_cases hc : c.toNat < 0x20
    · left
      refine ⟨['u', '0', '0', Json.hexDigit (c.toNat / 16), Json.hexDigit (c.toNat % 16)], ?_, ?_⟩
      · simp only [Json.escape, hq, hb, h8, hf, hn, hr, ht, hc, ↓reduceIte]
      · intro rest
        exact numbered?_low hc rest
    · right
      refine ⟨?_, hq, hb, hc⟩
      simp only [Json.escape, hq, hb, h8, hf, hn, hr, ht, hc, ↓reduceIte]

theorem stringBody?_escape (c : Char) (rest : List Char) :
    stringBody? (Json.escape c ++ rest) = (stringBody? rest).map fun s => (c :: s.1, s.2) := by
  rcases escape_cases c with ⟨es, he, hes⟩ | ⟨he, hq, hb, hc⟩
  · rw [he, List.cons_append]
    exact stringBody?_backslash (hes rest)
  · rw [he, List.singleton_append]
    exact stringBody?_plain hq hb hc rest

theorem stringBody?_quoted (cs rest : List Char) :
    stringBody? (cs.flatMap Json.escape ++ '"' :: rest) = some (cs, rest) := by
  induction cs with
  | nil => rw [List.flatMap_nil, List.nil_append, stringBody?]; rfl
  | cons c cs ih => rw [List.flatMap_cons, List.append_assoc, stringBody?_escape, ih]; rfl

theorem lex_string {rest cs after : List Char} (h : stringBody? rest = some (cs, after)) :
    lex ('"' :: rest) = (lex after).map (.string (String.ofList cs) :: ·) := by
  rw [lex]
  simp only [isSeparator, Char.reduceEq, decide_false, Bool.or_self, Bool.false_eq_true, ↓reduceIte]
  split
  case h_1 x a hx =>
    obtain ⟨rfl, rfl⟩ : x = cs ∧ a = after := by simpa [h] using hx.symm
    rfl
  case h_2 hx => simp [h] at hx

theorem lex_quote (s : String) (rest : List Char) :
    lex (Json.quote s ++ rest) = (lex rest).map (.string s :: ·) := by
  have he : Json.quote s ++ rest = '"' :: (s.toList.flatMap Json.escape ++ '"' :: rest) := by
    simp [Json.quote]
  rw [he, lex_string (stringBody?_quoted s.toList rest), String.ofList_toList]

theorem dword?_natDigits {negative : Bool} {n : Nat} (h : negative = true → 0 < n) :
    dword? negative (natDigits n) = int32? (if negative then -(n : Int) else n) := by
  by_cases hn : n = 0
  · subst hn
    have hneg : negative = false := by cases negative <;> simp_all
    subst hneg
    rw [natDigits_zero]
    rfl
  · obtain ⟨c, cs, he, hc⟩ := natDigits_front (Nat.pos_of_ne_zero hn)
    have hr := readDigits_natDigits n
    rw [he] at hr ⊢
    unfold dword?
    split <;> simp_all

def EndsNumber (rest : List Char) : Prop := ∀ c ∈ rest.head?, c.isDigit = false

theorem endsNumber_cons {c : Char} (h : c.isDigit = false) (rest : List Char) : EndsNumber (c :: rest) := by
  intro x hx
  simp only [List.head?_cons, Option.mem_def, Option.some.injEq] at hx
  rw [← hx, h]

section

variable {ds rest : List Char} (hds : ∀ d ∈ ds, d.isDigit = true) (hr : EndsNumber rest)

include hds hr

theorem takeWhile_digits : (ds ++ rest).takeWhile Char.isDigit = ds := by
  rw [List.takeWhile_append_of_pos hds]
  cases rest with
  | nil => simp
  | cons c cs => simp [hr c rfl]

theorem dropWhile_digits : (ds ++ rest).dropWhile Char.isDigit = rest := by
  rw [List.dropWhile_append_of_pos hds]
  cases rest with
  | nil => rfl
  | cons c cs => simp [hr c rfl]

theorem lex_minus : lex ('-' :: ds ++ rest) = (dword? true ds).bind fun v => (lex rest).map (.int v :: ·) := by
  rw [List.cons_append, lex]
  simp only [isSeparator, Char.reduceEq, decide_false, Bool.or_self, Bool.false_eq_true, ↓reduceIte,
    takeWhile_digits hds hr, dropWhile_digits hds hr]
  cases dword? true ds <;> rfl

theorem lex_digits (hne : ds ≠ []) :
    lex (ds ++ rest) = (dword? false ds).bind fun v => (lex rest).map (.int v :: ·) := by
  obtain ⟨d, ds, rfl⟩ := List.exists_cons_of_ne_nil hne
  obtain ⟨hdigit, hds⟩ := List.forall_mem_cons.1 hds
  have hother : ∀ x : Char, x.isDigit = false → d ≠ x := by
    rintro x hx rfl
    simp [hx] at hdigit
  rw [List.cons_append, lex]
  simp only [isSeparator, hother ' ' rfl, hother '\t' rfl, hother '\n' rfl, hother '\r' rfl, hother '\x7b' rfl,
    hother '\x7d' rfl, hother ':' rfl, hother ',' rfl, hother '"' rfl, hother '-' rfl, hdigit, decide_false,
    Bool.or_self, Bool.false_eq_true, ↓reduceIte, takeWhile_digits hds hr, dropWhile_digits hds hr]
  cases dword? false (d :: ds) <;> rfl

end

section

variable {rest : List Char} (hr : EndsNumber rest)

include hr

theorem lex_intDigits (v : Int32) : lex (intDigits v.toInt ++ rest) = (lex rest).map (.int v :: ·) := by
  have hv := int32?_toInt v
  cases hn : v.toInt with
  | ofNat n =>
    have hd : dword? false (natDigits n) = some v := by
      rw [dword?_natDigits (by simp), ← hv, hn]
      rfl
    have hne : natDigits n ≠ [] := Nat.toDigits_ne_nil
    rw [intDigits, lex_digits (fun _ => isDigit_of_mem_natDigits) hr hne, hd, Option.bind_some]
  | negSucc n =>
    have hd : dword? true (natDigits (n + 1)) = some v := by
      rw [dword?_natDigits fun _ => Nat.succ_pos n, ← hv, hn]
      rfl
    rw [intDigits, lex_minus (fun _ => isDigit_of_mem_natDigits) hr, hd, Option.bind_some]

end

def Reads (j : Json) (ts : List Token) : Prop :=
  ∀ depth rest, EndsNumber rest → lex (Json.layout depth j ++ rest) = (lex rest).map (ts ++ ·)

def valueToken : Value → Token
  | .dword n => .int n
  | .string s => .string s

theorem reads_valueJson (v : Value) : Reads (valueJson v) [valueToken v] := by
  intro depth rest hr
  cases v with
  | dword n => exact lex_intDigits hr n
  | string s => exact lex_quote s rest

theorem lex_separators (cs rest : List Char) (h : ∀ c ∈ cs, isSeparator c = true) :
    lex (cs ++ rest) = lex rest := by
  induction cs with
  | nil => rfl
  | cons c cs ih =>
    rw [List.cons_append, lex]
    simp only [h c (by simp), ↓reduceIte]
    exact ih fun x hx => h x (List.mem_cons_of_mem _ hx)

theorem lex_newLine (depth : Nat) (rest : List Char) : lex (Json.newLine depth ++ rest) = lex rest := by
  apply lex_separators
  intro c hc
  simp only [Json.newLine, List.mem_cons, List.mem_replicate] at hc
  rcases hc with rfl | ⟨_, rfl⟩ <;> decide

theorem lex_mark {c : Char} {t : Token} (rest : List Char)
    (h : (c, t) ∈ [('\x7b', Token.openBrace), ('\x7d', .closeBrace), (':', .colon), (',', .comma)]) :
    lex (c :: rest) = (lex rest).map (t :: ·) := by
  simp only [List.mem_cons, Prod.mk.injEq, List.not_mem_nil, or_false] at h
  rw [lex]
  rcases h with ⟨rfl, rfl⟩ | ⟨rfl, rfl⟩ | ⟨rfl, rfl⟩ | ⟨rfl, rfl⟩ <;> simp [isSeparator]

def memberTokens : List (String × List Token) → List Token
  | [] => []
  | [m] => .string m.1 :: .colon :: m.2
  | m :: n :: ms => .string m.1 :: .colon :: m.2 ++ .comma :: memberTokens (n :: ms)

def objectTokens (ms : List (String × List Token)) : List Token :=
  .openBrace :: memberTokens ms ++ [.closeBrace]

section

variable {α : Type} {json : α → Json} {toks : α → List Token}

theorem lex_member {k : String} {x : α} (h : Reads (json x) (toks x)) (depth : Nat) {rest : List Char}
    (hr : EndsNumber rest) :
    lex (Json.newLine depth ++ (Json.quote k ++ ':' :: ' ' :: (Json.layout depth (json x) ++ rest))) =
      (lex rest).map (.string k :: .colon :: toks x ++ ·) := by
  have hblank : ∀ cs, lex (' ' :: cs) = lex cs := fun cs => lex_separators [' '] cs (List.forall_mem_singleton.2 rfl)
  rw [lex_newLine, lex_quote, lex_mark (t := .colon) _ (by simp), hblank, h depth rest hr]
  simp [Function.comp_def]

theorem lex_layoutFields {xs : List (String × α)} (hx : xs ≠ []) (h : ∀ x ∈ xs, Reads (json x.2) (toks x.2))
    (depth outer : Nat) (rest : List Char) :
    lex (Json.layoutFields depth (xs.map fun x => (x.1, json x.2)) ++ (Json.newLine outer ++ rest)) =
      (lex rest).map (memberTokens (xs.map fun x => (x.1, toks x.2)) ++ ·) := by
  induction xs with
  | nil => exact absurd rfl hx
  | cons x xs ih =>
    cases xs with
    | nil =>
      have hr : EndsNumber (Json.newLine outer ++ rest) := endsNumber_cons rfl _
      have hm := lex_member (k := x.1) (h x (by simp)) depth hr
      rw [lex_newLine outer] at hm
      simp [Json.layoutFields, memberTokens, hm]
    | cons y ys =>
      have ht := ih (by simp) fun z hz => h z (List.mem_cons_of_mem _ hz)
      have hm := lex_member (k := x.1) (h x (by simp)) depth (endsNumber_cons (c := ',') rfl
        (Json.layoutFields depth ((y :: ys).map fun x => (x.1, json x.2)) ++ (Json.newLine outer ++ rest)))
      rw [lex_mark (t := .comma) _ (by simp), ht] at hm
      simp only [List.map_cons] at hm ⊢
      rw [Json.layoutFields]
      simp only [List.isEmpty_cons, Bool.false_eq_true, ↓reduceIte, List.append_assoc, List.cons_append,
        List.nil_append]
      rw [hm]
      simp [memberTokens, Function.comp_def]

theorem reads_object {xs : List (String × α)} (h : ∀ x ∈ xs, Reads (json x.2) (toks x.2)) :
    Reads (.object (xs.map fun x => (x.1, json x.2))) (objectTokens (xs.map fun x => (x.1, toks x.2))) := by
  intro depth rest _
  by_cases hx : xs = []
  · subst hx
    simp only [Json.layout, List.map_nil, List.isEmpty_nil, ↓reduceIte, List.cons_append, List.nil_append]
    rw [lex_mark (t := .openBrace) _ (by simp), lex_mark (t := .closeBrace) _ (by simp)]
    simp [objectTokens, memberTokens, Function.comp_def]
  · have hf := lex_layoutFields hx h (depth + 1) depth ('\x7d' :: rest)
    rw [lex_mark (t := .closeBrace) _ (by simp)] at hf
    have he : (xs.map fun x => (x.1, json x.2)).isEmpty = false := by simpa using hx
    simp only [Json.layout, he, Bool.false_eq_true, ↓reduceIte, List.cons_append, List.append_assoc,
      List.nil_append]
    rw [lex_mark (t := .openBrace) _ (by simp), hf]
    simp [objectTokens, Function.comp_def]

end

end XrPanel.Document
