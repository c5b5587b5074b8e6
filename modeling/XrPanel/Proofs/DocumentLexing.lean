import XrPanel.Proofs.DocumentText
import XrPanel.Proofs.JsonGrammar

namespace XrPanel.Document

open Text JsonGrammar

variable {cs rest s : List Char} {c : Char} {n : Nat}

theorem hexDigit_of_range {base first count : Nat} (hall : ∀ k < count, HexDigit (Char.ofNat (first + k)) (base + k))
    (hl : first ≤ c.toNat) (hu : c.toNat < first + count) (hn : n + first = base + c.toNat) : HexDigit c n := by
  have h := hall (c.toNat - first) (by omega)
  rw [Nat.add_sub_cancel' hl, Char.ofNat_toNat] at h
  obtain rfl : n = base + (c.toNat - first) := by omega
  exact h

theorem hexValue?_of_hexDigit (h : HexDigit c n) : hexValue? c = some n := by
  have hsmall : ∀ k (hk : k < "0123456789abcdef".toList.length), hexValue? ("0123456789abcdef".toList[k]) = some k := by
    decide
  have hcapital : ∀ k (hk : k < "0123456789ABCDEF".toList.length),
      hexValue? ("0123456789ABCDEF".toList[k]) = some k := by
    decide
  rcases h with h | h
  · obtain ⟨hn, rfl⟩ := List.getElem?_eq_some_iff.1 h
    exact hsmall n hn
  · obtain ⟨hn, rfl⟩ := List.getElem?_eq_some_iff.1 h
    exact hcapital n hn

theorem hexValue?_eq_some : hexValue? c = some n ↔ HexDigit c n := by
  refine ⟨fun h => ?_, hexValue?_of_hexDigit⟩
  have hdigits : ∀ k < 10, HexDigit (Char.ofNat (48 + k)) (0 + k) := by decide
  have hsmall : ∀ k < 6, HexDigit (Char.ofNat (97 + k)) (10 + k) := by decide
  have hcapital : ∀ k < 6, HexDigit (Char.ofNat (65 + k)) (10 + k) := by decide
  have hrange : ∀ {a b : Char}, a ≤ c ∧ c ≤ b → a.toNat ≤ c.toNat ∧ c.toNat < b.toNat + 1 :=
    fun h => ⟨h.1, Nat.lt_succ_of_le h.2⟩
  unfold hexValue? at h
  split at h
  case isTrue hc =>
    obtain ⟨hl, hu⟩ := hrange hc
    have hn := Option.some.inj h
    exact hexDigit_of_range hdigits hl hu (by simp only [Char.reduceToNat] at hl; omega)
  case isFalse =>
    split at h
    case isTrue hc =>
      obtain ⟨hl, hu⟩ := hrange hc
      have hn := Option.some.inj h
      exact hexDigit_of_range hsmall hl hu (by simp only [Char.reduceToNat] at hl; omega)
    case isFalse =>
      split at h
      case isTrue hc =>
        obtain ⟨hl, hu⟩ := hrange hc
        have hn := Option.some.inj h
        exact hexDigit_of_range hcapital hl hu (by simp only [Char.reduceToNat] at hl; omega)
      case isFalse => cases h

theorem codeUnit?_eq_some : codeUnit? cs = some (n, rest) ↔ CodeUnit cs n rest := by
  constructor
  · intro h
    unfold codeUnit? at h
    split at h
    case h_1 a b c d cs =>
      simp only [Option.bind_eq_bind, Option.bind_eq_some_iff, Option.some.injEq, Prod.mk.injEq, hexValue?_eq_some] at h
      obtain ⟨i, hi, j, hj, k, hk, l, hl, rfl, rfl⟩ := h
      exact .digits hi hj hk hl cs
    case h_2 => cases h
  · rintro ⟨ha, hb, hc, hd⟩
    simp [codeUnit?, hexValue?_eq_some.2 ha, hexValue?_eq_some.2 hb, hexValue?_eq_some.2 hc, hexValue?_eq_some.2 hd]

theorem trailing?_eq_some :
    trailing? cs = some (n, rest) ↔
      (∃ mid, cs = '\\' :: 'u' :: mid ∧ CodeUnit mid n rest) ∧ 0xDC00 ≤ n ∧ n < 0xE000 := by
  constructor
  · intro h
    unfold trailing? at h
    split at h
    case h_1 mid =>
      split at h
      case h_1 m r hm =>
        split at h
        case isTrue ht =>
          cases h
          simp only [isTrailing, Bool.and_eq_true, decide_eq_true_eq] at ht
          exact ⟨⟨mid, rfl, codeUnit?_eq_some.1 hm⟩, ht⟩
        case isFalse => cases h
      case h_2 => cases h
    case h_2 => cases h
  · rintro ⟨⟨mid, rfl, hm⟩, ht⟩
    have htrail : isTrailing n = true := by simp [isTrailing, ht]
    simp [trailing?, codeUnit?_eq_some.2 hm, htrail]

theorem numbered?_eq_some : numbered? cs = some (c, rest) ↔ Escape ('u' :: cs) c rest := by
  constructor
  · intro h
    unfold numbered? at h
    split at h
    case h_1 m mid hm =>
      have hunit := codeUnit?_eq_some.1 hm
      split at h
      case isTrue hlead =>
        simp only [isLeading, Bool.and_eq_true, decide_eq_true_eq] at hlead
        obtain ⟨⟨k, after⟩, ht, he⟩ := Option.map_eq_some_iff.1 h
        obtain ⟨⟨mid', rfl, htrail⟩, hrange⟩ := trailing?_eq_some.1 ht
        obtain ⟨rfl, rfl⟩ := Prod.mk.inj he
        exact .pair hunit htrail hlead hrange
      case isFalse hlead =>
        split at h
        case isTrue => cases h
        case isFalse htrail =>
          cases h
          refine .unit hunit ?_
          simp only [isLeading, isTrailing, Bool.and_eq_true, decide_eq_true_eq] at hlead htrail
          omega
    case h_2 => cases h
  · intro h
    -- the text is generalized for the case analysis, and each case gives its first character back
    generalize hx : 'u' :: cs = xs at h
    cases h with
    | short hshort rest =>
      obtain ⟨rfl, -⟩ := List.cons.inj hx
      simp [shortEscapes] at hshort
    | @unit _ _ n h hn =>
      obtain ⟨-, rfl⟩ := List.cons.inj hx
      have hlead : isLeading n = false := by
        simp only [isLeading, Bool.and_eq_false_iff, decide_eq_false_iff_not]
        omega
      have htrail : isTrailing n = false := by
        simp only [isTrailing, Bool.and_eq_false_iff, decide_eq_false_iff_not]
        omega
      simp [numbered?, codeUnit?_eq_some.2 h, hlead, htrail]
    | @pair _ mid rest lead trail hl ht hlead htrail =>
      obtain ⟨-, rfl⟩ := List.cons.inj hx
      have hleading : isLeading lead = true := by
        simp only [isLeading, Bool.and_eq_true, decide_eq_true_eq]
        exact hlead
      have htrailing : trailing? ('\\' :: 'u' :: mid) = some (trail, rest) :=
        trailing?_eq_some.2 ⟨⟨mid, rfl, ht⟩, htrail⟩
      simp only [numbered?, codeUnit?_eq_some.2 hl]
      rw [if_pos hleading, htrailing, Option.map_some]
      dsimp only [pairValue]

theorem escaped?_of_short {x : Char} (h : (x, c) ∈ shortEscapes) : escaped? (x :: cs) = some (c, cs) := by
  simp only [shortEscapes, List.mem_cons, Prod.mk.injEq, List.not_mem_nil, or_false] at h
  rcases h with ⟨rfl, rfl⟩ | ⟨rfl, rfl⟩ | ⟨rfl, rfl⟩ | ⟨rfl, rfl⟩ | ⟨rfl, rfl⟩ | ⟨rfl, rfl⟩ | ⟨rfl, rfl⟩ | ⟨rfl, rfl⟩
  all_goals rfl

theorem escaped?_of_not_short {x : Char} (h : ∀ y, (x, y) ∉ shortEscapes) :
    escaped? (x :: cs) = if x = 'u' then numbered? cs else none := by
  have hne : ∀ p ∈ shortEscapes, x ≠ p.1 := fun p hp he => h p.2 (he ▸ hp)
  simp only [shortEscapes, List.forall_mem_cons, List.not_mem_nil, false_implies, implies_true] at hne
  simp [escaped?, hne]

theorem escaped?_eq_some : escaped? cs = some (c, rest) ↔ Escape cs c rest := by
  constructor
  · intro h
    cases cs with
    | nil => cases h
    | cons x cs =>
      by_cases hshort : ∃ y, (x, y) ∈ shortEscapes
      · obtain ⟨y, hy⟩ := hshort
        rw [escaped?_of_short hy] at h
        cases h
        exact .short hy _
      · rw [escaped?_of_not_short fun y hy => hshort ⟨y, hy⟩] at h
        split at h
        case isTrue hu =>
          rw [hu]
          exact numbered?_eq_some.1 h
        case isFalse => cases h
  · intro h
    cases h with
    | short hy rest => exact escaped?_of_short hy
    | unit h hn => exact numbered?_eq_some.2 (.unit h hn)
    | pair hl ht hlead htrail => exact numbered?_eq_some.2 (.pair hl ht hlead htrail)

theorem stringBody?_eq_some : stringBody? cs = some (s, rest) ↔ Chars cs s rest := by
  constructor
  · intro h
    fun_induction stringBody? cs generalizing s rest with
    | case1 => cases h
    | case2 cs =>
      cases h
      exact .close _
    | case3 cs x after hx hlt _ ih =>
      simp only [Option.map_eq_some_iff] at h
      obtain ⟨t, ht, he⟩ := h
      cases he
      exact .escape (escaped?_eq_some.1 hx) (ih ht)
    | case4 => cases h
    | case5 => cases h
    | case6 c cs hq hb hc ih =>
      simp only [Option.map_eq_some_iff] at h
      obtain ⟨t, ht, he⟩ := h
      cases he
      exact .plain (Nat.le_of_not_lt hc) hq hb (ih ht)
  · intro h
    induction h with
    | close rest =>
      rw [stringBody?]
      rfl
    | plain hc hq hb h ih => rw [stringBody?_plain hq hb (Nat.not_lt.2 hc), ih, Option.map_some]
    | escape he h ih => rw [stringBody?_backslash (escaped?_eq_some.2 he), ih, Option.map_some]

theorem digits_iff {ds : List Char} : Digits cs ds rest ↔ cs = ds ++ rest ∧ ∀ d ∈ ds, d.isDigit = true := by
  constructor
  · intro h
    induction h with
    | none rest => exact ⟨rfl, by simp⟩
    | more hc h ih => exact ⟨by rw [ih.1]; rfl, List.forall_mem_cons.2 ⟨hc, ih.2⟩⟩
  · rintro ⟨rfl, hds⟩
    induction ds with
    | nil => exact .none rest
    | cons d ds ih =>
      obtain ⟨hd, hds⟩ := List.forall_mem_cons.1 hds
      exact .more hd (ih hds)

def NoLeadingZero (ds : List Char) : Prop := ds = ['0'] ∨ ∃ c ds', ds = c :: ds' ∧ c ≠ '0'

theorem NoLeadingZero.ne_nil {ds : List Char} (h : NoLeadingZero ds) : ds ≠ [] := by
  rcases h with rfl | ⟨c, ds', rfl, -⟩ <;> simp

theorem whole_iff {ds : List Char} :
    Whole cs ds rest ↔ cs = ds ++ rest ∧ (∀ d ∈ ds, d.isDigit = true) ∧ NoLeadingZero ds := by
  constructor
  · intro h
    cases h with
    | zero rest => exact ⟨rfl, by simp, .inl rfl⟩
    | digits hc hz h =>
      obtain ⟨rfl, hds⟩ := digits_iff.1 h
      exact ⟨rfl, List.forall_mem_cons.2 ⟨hc, hds⟩, .inr ⟨_, _, rfl, hz⟩⟩
  · rintro ⟨rfl, hds, rfl | ⟨c, ds, rfl, hz⟩⟩
    · exact .zero rest
    · obtain ⟨hc, hds⟩ := List.forall_mem_cons.1 hds
      exact .digits hc hz (digits_iff.2 ⟨rfl, hds⟩)

theorem dword?_eq_some {negative : Bool} {ds : List Char} {v : Int32} :
    dword? negative ds = some v ↔
      NoLeadingZero ds ∧ ¬ (negative = true ∧ ds = ['0']) ∧ v.toInt = integer negative ds := by
  unfold dword?
  split
  case h_1 => simp [NoLeadingZero]
  case h_2 =>
    cases negative with
    | true => simp
    | false =>
      have hzero : int32? (integer false ['0']) = some 0 := by decide
      simp [NoLeadingZero, ← int32?_eq_some, hzero]
  case h_3 cs hne =>
    have hlead : ¬ NoLeadingZero ('0' :: cs) := by simp_all [NoLeadingZero]
    simp [hlead]
  case h_4 _ hnil hone hzero =>
    have hlead : NoLeadingZero ds := by
      cases ds with
      | nil => exact absurd rfl hnil
      | cons c ds =>
        refine .inr ⟨c, ds, rfl, ?_⟩
        rintro rfl
        exact hzero _ rfl
    have hplain : ¬ (negative = true ∧ ds = ['0']) := fun h => hone h.2
    simp [hlead, hplain, integer, int32?_eq_some]

def marks : List (Char × Token) := [('\x7b', .openBrace), ('\x7d', .closeBrace), (':', .colon), (',', .comma)]

inductive Word : List Char → Token → List Char → Prop
  | mark {c : Char} {t : Token} (h : (c, t) ∈ marks) (rest : List Char) : Word (c :: rest) t rest
  | string {cs s rest : List Char} (h : Chars cs s rest) : Word ('"' :: cs) (.string (String.ofList s)) rest
  | int {cs as ds rest : List Char} {negative : Bool} {v : Int32} (hm : Minus cs negative as) (hw : Whole as ds rest)
      (hz : ¬ (negative = true ∧ ds = ['0'])) (hv : v.toInt = integer negative ds) : Word cs (.int v) rest

theorem lex_blanks (h : Blanks cs rest) : lex cs = lex rest := by
  induction h with
  | none rest => rfl
  | @more c cs rest hc h ih =>
    have hsep : ∀ x ∈ [c], isSeparator x = true := by
      simp only [List.mem_cons, List.not_mem_nil, or_false] at hc
      rintro x hx
      rw [List.mem_singleton.1 hx]
      rcases hc with rfl | rfl | rfl | rfl <;> rfl
    rw [← ih]
    exact lex_separators [c] cs hsep

theorem lex_word {t : Token} (h : Word cs t rest) (hr : EndsNumber rest) : lex cs = (lex rest).map (t :: ·) := by
  cases h with
  | mark h rest => exact lex_mark rest h
  | string h => exact lex_string (stringBody?_eq_some.2 h)
  | int hm hw hz hv =>
    obtain ⟨rfl, hds, hzero⟩ := whole_iff.1 hw
    have hdword := dword?_eq_some.2 ⟨hzero, hz, hv⟩
    cases hm with
    | absent => rw [lex_digits hds hr hzero.ne_nil, hdword, Option.bind_some]
    | present => exact (lex_minus hds hr).trans (by rw [hdword, Option.bind_some])

inductive Lexed : List Char → List Token → Prop
  | nil {cs : List Char} (h : Blanks cs []) : Lexed cs []
  | cons {cs as rest : List Char} {t : Token} {ts : List Token} (hb : Blanks cs as) (hw : Word as t rest)
      (h : lex rest = some ts) : Lexed cs (t :: ts)

theorem Lexed.of_word {t : Token} {ts : List Token} (hw : Word cs t rest) (h : (lex rest).map (t :: ·) = some ts) :
    Lexed cs ts := by
  obtain ⟨ts, hts, rfl⟩ := Option.map_eq_some_iff.1 h
  exact .cons (.none _) hw hts

theorem word_of_dword? {negative : Bool} {as : List Char} {v : Int32} (hm : Minus cs negative as)
    (h : dword? negative (as.takeWhile Char.isDigit) = some v) : Word cs (.int v) (as.dropWhile Char.isDigit) := by
  obtain ⟨hzero, hz, hv⟩ := dword?_eq_some.1 h
  refine .int hm (whole_iff.2 ⟨List.takeWhile_append_dropWhile.symm, ?_, hzero⟩) hz hv
  exact List.all_eq_true.1 List.all_takeWhile

theorem lexed_of_lex {ts : List Token} (h : lex cs = some ts) : Lexed cs ts := by
  fun_induction lex cs generalizing ts with
  | case1 =>
    cases h
    exact .nil (.none [])
  | case2 c cs hc ih =>
    have hblank : c ∈ [' ', '\t', '\n', '\r'] := by simpa [isSeparator, or_assoc] using hc
    cases ih h with
    | nil hb => exact .nil (.more hblank hb)
    | cons hb hw hrest => exact .cons (.more hblank hb) hw hrest
  | case3 | case4 | case5 | case6 => exact .of_word (.mark (by simp [marks]) _) h
  | case7 cs s after hs => exact .of_word (.string (stringBody?_eq_some.1 hs)) h
  | case9 cs _ n hn => exact .of_word (word_of_dword? (.present cs) hn) h
  | case11 c cs _ _ _ _ _ _ _ hdigit _ n hn =>
    have htake : (c :: cs).takeWhile Char.isDigit = c :: cs.takeWhile Char.isDigit := List.takeWhile_cons_of_pos hdigit
    have hdrop : (c :: cs).dropWhile Char.isDigit = cs.dropWhile Char.isDigit := List.dropWhile_cons_of_pos hdigit
    rw [← htake] at hn
    rw [← hdrop] at h
    exact .of_word (word_of_dword? (.absent (c :: cs)) hn) h
  | case8 | case10 | case12 | case13 => cases h

end XrPanel.Document
