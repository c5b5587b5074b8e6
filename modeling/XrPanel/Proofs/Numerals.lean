import Mathlib.Data.List.Induction
import XrPanel.Text.Word

namespace XrPanel.Text

theorem int32?_eq_some {k : Int} {v : Int32} : int32? k = some v ↔ v.toInt = k := by
  refine ⟨toInt_of_int32?, ?_⟩
  rintro rfl
  exact int32?_toInt v

theorem readDigits_natDigits (n : Nat) : readDigits (natDigits n) = n := Nat.ofDigitChars_ten_toDigits

theorem isDigit_of_mem_natDigits {n : Nat} {c : Char} (h : c ∈ natDigits n) : c.isDigit = true :=
  Nat.isDigit_of_mem_toDigits (by decide) (by decide) h

theorem natDigits_zero : natDigits 0 = ['0'] := Nat.toDigits_zero 10

theorem digitChar_ne_zero {d : Nat} (hd : 0 < d) (h : d < 10) : Nat.digitChar d ≠ '0' := by
  have hall : ∀ d < 10, 0 < d → Nat.digitChar d ≠ '0' := by decide
  exact hall d h hd

theorem natDigits_front {n : Nat} (h : 0 < n) : ∃ c cs, natDigits n = c :: cs ∧ c ≠ '0' := by
  induction n using Nat.strongRecOn with
  | _ n ih =>
    by_cases hn : n < 10
    · refine ⟨Nat.digitChar n, [], ?_, digitChar_ne_zero h hn⟩
      exact Nat.toDigits_of_lt_base hn
    · have hq : 0 < n / 10 := by omega
      obtain ⟨c, cs, he, hc⟩ := ih (n / 10) (by omega) hq
      refine ⟨c, cs ++ [Nat.digitChar (n % 10)], ?_, hc⟩
      have hs : natDigits n = natDigits (n / 10) ++ [Nat.digitChar (n % 10)] :=
        Nat.toDigits_of_base_le (by decide) (by omega)
      rw [hs, he, List.cons_append]

theorem exists_ofNat_of_isDigit {c : Char} (h : c.isDigit = true) : ∃ k < 10, Char.ofNat (48 + k) = c := by
  obtain ⟨hlow, hhigh⟩ : 48 ≤ c.toNat ∧ c.toNat ≤ 57 := by
    simp only [Char.isDigit, Bool.and_eq_true, decide_eq_true_eq] at h
    exact h
  refine ⟨c.toNat - 48, by omega, ?_⟩
  rw [Nat.add_sub_cancel' hlow, Char.ofNat_toNat]

def DecimalDigit (c : Char) (d : Nat) : Prop := "0123456789".toList[d]? = some c

theorem decimalDigit_iff {c : Char} {d : Nat} : DecimalDigit c d ↔ c.isDigit = true ∧ digitValue c = d := by
  unfold DecimalDigit
  constructor
  · intro h
    have hd : d < 10 := (List.getElem?_eq_some_iff.1 h).1
    have hall : ∀ d < 10, "0123456789".toList[d]?.all (fun c => c.isDigit && digitValue c == d) = true := by decide
    have hdigit := hall d hd
    rw [h] at hdigit
    simpa using hdigit
  · rintro ⟨hc, rfl⟩
    have hall : ∀ k < 10, DecimalDigit (Char.ofNat (48 + k)) (digitValue (Char.ofNat (48 + k))) := by
      unfold DecimalDigit
      decide
    obtain ⟨k, hk, rfl⟩ := exists_ofNat_of_isDigit hc
    exact hall k hk

theorem readDigits_concat (cs : List Char) (c : Char) :
    readDigits (cs ++ [c]) = 10 * readDigits cs + digitValue c := by
  simp [readDigits]

inductive NatNumeral : List Char → Nat → Prop
  | one {c : Char} {d : Nat} (hc : DecimalDigit c d) : NatNumeral [c] d
  | more {cs : List Char} {c : Char} {n d : Nat} (h : NatNumeral cs n) (hc : DecimalDigit c d) :
      NatNumeral (cs ++ [c]) (10 * n + d)

theorem natNumeral_iff {cs : List Char} {n : Nat} :
    NatNumeral cs n ↔ cs ≠ [] ∧ (∀ c ∈ cs, c.isDigit = true) ∧ readDigits cs = n := by
  constructor
  · intro h
    induction h with
    | one hc =>
      obtain ⟨hdigit, rfl⟩ := decimalDigit_iff.1 hc
      exact ⟨by simp, by simpa using hdigit, by simp [readDigits]⟩
    | more h hc ih =>
      obtain ⟨hdigit, rfl⟩ := decimalDigit_iff.1 hc
      obtain ⟨-, hall, rfl⟩ := ih
      refine ⟨by simp, ?_, readDigits_concat _ _⟩
      simpa [or_imp, forall_and] using ⟨hall, hdigit⟩
  · rintro ⟨hne, hall, rfl⟩
    induction cs using List.reverseRecOn with
    | nil => exact absurd rfl hne
    | append_singleton cs c ih =>
      have hc : DecimalDigit c (digitValue c) := decimalDigit_iff.2 ⟨hall c (by simp), rfl⟩
      rcases eq_or_ne cs [] with rfl | hcs
      · simpa [readDigits] using NatNumeral.one hc
      · rw [readDigits_concat]
        exact .more (ih hcs fun x hx => hall x (by simp [hx])) hc

theorem readNat?_eq_some {cs : List Char} {n : Nat} : readNat? cs = some n ↔ NatNumeral cs n := by
  simp [readNat?, natNumeral_iff, and_assoc]

inductive IntNumeral : List Char → Int → Prop
  | plain {cs : List Char} {n : Nat} (h : NatNumeral cs n) : IntNumeral cs n
  | plus {cs : List Char} {n : Nat} (h : NatNumeral cs n) : IntNumeral ('+' :: cs) n
  | minus {cs : List Char} {n : Nat} (h : NatNumeral cs n) : IntNumeral ('-' :: cs) (-n)

theorem IntNumeral.mem {cs : List Char} {n : Int} {c : Char} (h : IntNumeral cs n) (hc : c ∈ cs) :
    c.isDigit = true ∨ c = '+' ∨ c = '-' := by
  cases h with
  | plain h => exact .inl ((natNumeral_iff.1 h).2.1 c hc)
  | plus h =>
    rcases List.mem_cons.1 hc with rfl | hc
    · exact .inr (.inl rfl)
    · exact .inl ((natNumeral_iff.1 h).2.1 c hc)
  | minus h =>
    rcases List.mem_cons.1 hc with rfl | hc
    · exact .inr (.inr rfl)
    · exact .inl ((natNumeral_iff.1 h).2.1 c hc)

theorem IntNumeral.not_alpha {cs : List Char} {n : Int} (h : IntNumeral cs n) : ∀ c ∈ cs, c.isAlpha = false := by
  have hall : ∀ k < 10, (Char.ofNat (48 + k)).isAlpha = false := by decide
  intro c hc
  rcases h.mem hc with hdigit | rfl | rfl
  · obtain ⟨k, hk, rfl⟩ := exists_ofNat_of_isDigit hdigit
    exact hall k hk
  · decide
  · decide

theorem IntNumeral.not_blank {cs : List Char} {n : Int} (h : IntNumeral cs n) : ∀ c ∈ cs, isBlank c = false := by
  have hall : ∀ k < 10, isBlank (Char.ofNat (48 + k)) = false := by decide
  intro c hc
  rcases h.mem hc with hdigit | rfl | rfl
  · obtain ⟨k, hk, rfl⟩ := exists_ofNat_of_isDigit hdigit
    exact hall k hk
  · decide
  · decide

theorem readInt?_eq_some {cs : List Char} {n : Int} : readInt? cs = some n ↔ IntNumeral cs n := by
  constructor
  · intro h
    unfold readInt? at h
    split at h
    case h_1 ds =>
      cases hk : readNat? ds with
      | none => simp [hk] at h
      | some k =>
        obtain rfl : -(k : Int) = n := by simpa [hk] using h
        exact .minus (readNat?_eq_some.1 hk)
    case h_2 ds =>
      obtain ⟨k, hk, rfl⟩ := Option.map_eq_some_iff.1 h
      exact .plus (readNat?_eq_some.1 hk)
    case h_3 =>
      obtain ⟨k, hk, rfl⟩ := Option.map_eq_some_iff.1 h
      exact .plain (readNat?_eq_some.1 hk)
  · rintro (h | h | h)
    · have hread := readNat?_eq_some.2 h
      obtain ⟨-, hall, -⟩ := natNumeral_iff.1 h
      unfold readInt?
      split
      · exact absurd (hall '-' (by simp)) (by decide)
      · exact absurd (hall '+' (by simp)) (by decide)
      · rw [hread]
        rfl
    · rw [readInt?, readNat?_eq_some.2 h]
      rfl
    · rw [readInt?, readNat?_eq_some.2 h]
      rfl

theorem readInt32?_eq_some {s : String} {v : Int32} : readInt32? s = some v ↔ IntNumeral s.toList v.toInt := by
  simp [readInt32?, Option.bind_eq_some_iff, int32?_eq_some, readInt?_eq_some]

theorem natNumeral_natDigits (n : Nat) : NatNumeral (natDigits n) n :=
  natNumeral_iff.2 ⟨Nat.toDigits_ne_nil, fun _ => isDigit_of_mem_natDigits, readDigits_natDigits n⟩

theorem intNumeral_intDigits (n : Int) : IntNumeral (intDigits n) n := by
  cases n with
  | ofNat n => exact .plain (natNumeral_natDigits n)
  | negSucc n => exact .minus (natNumeral_natDigits (n + 1))

end XrPanel.Text
