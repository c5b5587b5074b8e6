import Mathlib.Data.List.TakeWhile
import Mathlib.Data.Rat.Cast.Order
import Mathlib.Tactic.Linarith
import Mathlib.Tactic.Positivity
import Mathlib.Tactic.Ring
import XrPanel.Proofs.Numerals

namespace XrPanel.Text

inductive WholeNumeral : List Char → Nat → Prop
  | zero : WholeNumeral ['0'] 0
  | digits {c : Char} {cs : List Char} {n : Nat} (h : NatNumeral (c :: cs) n) (hc : c ≠ '0') :
      WholeNumeral (c :: cs) n

theorem WholeNumeral.natNumeral {cs : List Char} {n : Nat} (h : WholeNumeral cs n) : NatNumeral cs n := by
  cases h with
  | zero => exact natNumeral_natDigits 0
  | digits h hc => exact h

theorem wholeNumeral_natDigits (n : Nat) : WholeNumeral (natDigits n) n := by
  have h := natNumeral_natDigits n
  rcases Nat.eq_zero_or_pos n with rfl | hn
  · exact .zero
  · obtain ⟨c, cs, hcs, hc⟩ := natDigits_front hn
    rw [hcs] at h ⊢
    exact .digits h hc

inductive Magnitude : List Char → Rat → Prop
  | whole {cs : List Char} {n : Nat} (h : WholeNumeral cs n) : Magnitude cs n
  | decimals {cs ds : List Char} {n k : Nat} (h : WholeNumeral cs n) (hd : NatNumeral ds k) (hlen : ds.length ≤ 2)
      (hlast : ds.getLast? ≠ some '0') : Magnitude (cs ++ '.' :: ds) (n + k / 10 ^ ds.length)

def magnitude (cs : List Char) : Rat :=
  let decimals := (cs.dropWhile Char.isDigit).drop 1
  readDigits (cs.takeWhile Char.isDigit) + readDigits decimals / 10 ^ decimals.length

theorem Magnitude.eq {cs : List Char} {x : Rat} (h : Magnitude cs x) : x = magnitude cs := by
  cases h with
  | @whole _ n h =>
    obtain ⟨-, hdigits, hn⟩ := natNumeral_iff.1 h.natNumeral
    rw [magnitude, List.takeWhile_eq_self_iff.2 hdigits, List.dropWhile_eq_nil_iff.2 hdigits, hn]
    simp [readDigits]
  | @decimals ws ds n k h hd _ _ =>
    obtain ⟨-, hdigits, hn⟩ := natNumeral_iff.1 h.natNumeral
    obtain ⟨-, -, hk⟩ := natNumeral_iff.1 hd
    rw [magnitude, List.takeWhile_append_of_pos hdigits, List.dropWhile_append_of_pos hdigits]
    simp [hn, hk]

theorem Magnitude.not_minus {cs : List Char} {x : Rat} : ¬ Magnitude ('-' :: cs) x := by
  have hwhole : ∀ {ws rest : List Char} {n : Nat}, WholeNumeral ws n → '-' :: cs ≠ ws ++ rest := by
    intro ws rest n h he
    obtain ⟨hne, hdigits, -⟩ := natNumeral_iff.1 h.natNumeral
    obtain ⟨c, ws, rfl⟩ := List.exists_cons_of_ne_nil hne
    obtain ⟨rfl, -⟩ := List.cons.inj he
    exact absurd (hdigits '-' (by simp)) (by decide)
  intro h
  generalize hcs : '-' :: cs = ds at h
  cases h with
  | whole h => exact hwhole h (by rw [hcs, List.append_nil])
  | decimals h _ _ _ => exact hwhole h hcs

/-- The one numeral of a number with at most two decimals. Zero has no sign. -/
inductive CanonicalDecimal : List Char → Rat → Prop
  | plain {cs : List Char} {x : Rat} (h : Magnitude cs x) : CanonicalDecimal cs x
  | negative {cs : List Char} {x : Rat} (h : Magnitude cs x) (hx : x ≠ 0) : CanonicalDecimal ('-' :: cs) (-x)

theorem CanonicalDecimal.unique {cs : List Char} {x y : Rat} (h : CanonicalDecimal cs x) (h' : CanonicalDecimal cs y) :
    x = y := by
  cases h with
  | plain h =>
    cases h' with
    | plain h' => rw [h.eq, h'.eq]
    | negative => exact absurd h Magnitude.not_minus
  | negative h =>
    cases h' with
    | plain h' => exact absurd h' Magnitude.not_minus
    | negative h' => rw [h.eq, h'.eq]

def hundredths (n : Nat) : List Char :=
  let tenths := Nat.digitChar (n / 10 % 10)
  natDigits (n / 100) ++
    if n % 100 = 0 then [] else if n % 10 = 0 then ['.', tenths] else ['.', tenths, Nat.digitChar (n % 10)]

theorem decimalDigit_digitChar {d : Nat} (h : d < 10) : DecimalDigit (Nat.digitChar d) d := by
  have hall : ∀ d < 10, DecimalDigit (Nat.digitChar d) d := by
    unfold DecimalDigit
    decide
  exact hall d h

theorem magnitude_hundredths (n : Nat) : Magnitude (hundredths n) (n / 100) := by
  have hwhole := wholeNumeral_natDigits (n / 100)
  have htenths := decimalDigit_digitChar (Nat.mod_lt (n / 10) (by decide : 0 < 10))
  have hunits := decimalDigit_digitChar (Nat.mod_lt n (by decide : 0 < 10))
  -- No decimals, one or two, as many as the zeros at the end of `n` leave.
  unfold hundredths
  dsimp only
  split
  case isTrue h =>
    have hn : (n : Rat) = (n / 100 : Nat) * 100 := by exact_mod_cast (show n = n / 100 * 100 by omega)
    rw [List.append_nil, hn, mul_div_cancel_right₀ _ (by norm_num)]
    exact .whole hwhole
  case isFalse h =>
    split
    case isTrue hz =>
      have hn : (n : Rat) = (n / 100 : Nat) * 100 + (n / 10 % 10 : Nat) * 10 := by
        exact_mod_cast (show n = n / 100 * 100 + n / 10 % 10 * 10 by omega)
      have hvalue : (n : Rat) / 100 = (n / 100 : Nat) + (n / 10 % 10 : Nat) / 10 ^ 1 := by
        rw [hn]
        ring
      rw [hvalue]
      refine .decimals hwhole (.one htenths) (by simp) ?_
      simpa using digitChar_ne_zero (by omega) (Nat.mod_lt _ (by decide))
    case isFalse hz =>
      have hn : (n : Rat) = (n / 100 : Nat) * 100 + (10 * (n / 10 % 10) + n % 10 : Nat) := by
        exact_mod_cast (show n = n / 100 * 100 + (10 * (n / 10 % 10) + n % 10) by omega)
      have hvalue : (n : Rat) / 100 = (n / 100 : Nat) + (10 * (n / 10 % 10) + n % 10 : Nat) / 10 ^ 2 := by
        rw [hn]
        ring
      rw [hvalue]
      refine .decimals hwhole (.more (.one htenths) hunits) (by simp) ?_
      simpa using digitChar_ne_zero (by omega) (Nat.mod_lt _ (by decide))

theorem hundredths_zero : hundredths 0 = ['0'] := rfl

theorem eq_zero_of_hundredths {n : Nat} (h : hundredths n = ['0']) : n = 0 := by
  have hvalue := (magnitude_hundredths n).eq
  rw [h, ← hundredths_zero, ← (magnitude_hundredths 0).eq] at hvalue
  have hn : (n : Rat) = 0 := by linarith
  exact_mod_cast hn

theorem hundredths_ne_minus (n : Nat) (cs : List Char) : hundredths n ≠ '-' :: cs := by
  intro h
  have hmagnitude := magnitude_hundredths n
  rw [h] at hmagnitude
  exact hmagnitude.not_minus

def signedHundredths : Int → List Char
  | .ofNat n => hundredths n
  | .negSucc n => '-' :: hundredths (n + 1)

theorem signedHundredths_neg (n : Nat) :
    signedHundredths (-n) = if '-' :: hundredths n = ['-', '0'] then ['0'] else '-' :: hundredths n := by
  cases n with
  | zero => rfl
  | succ n =>
    have hne : '-' :: hundredths (n + 1) ≠ ['-', '0'] := by
      intro h
      exact absurd (eq_zero_of_hundredths (List.cons.inj h).2) (Nat.succ_ne_zero n)
    rw [if_neg hne]
    rfl

theorem canonical_signedHundredths (m : Int) : CanonicalDecimal (signedHundredths m) (m / 100) := by
  cases m with
  | ofNat n => exact .plain (magnitude_hundredths n)
  | negSucc n =>
    have hne : ((n + 1 : Nat) : Rat) / 100 ≠ 0 := by positivity
    have h := CanonicalDecimal.negative (magnitude_hundredths (n + 1)) hne
    rw [← neg_div, ← Int.cast_negSucc] at h
    exact h

end XrPanel.Text
