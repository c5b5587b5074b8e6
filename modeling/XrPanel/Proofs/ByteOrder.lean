import XrPanel.Text.Word

namespace XrPanel.Text

def bytes (s : String) : List UInt8 := s.toUTF8.data.toList

theorem bytes_eq (s : String) : bytes s = s.toList.flatMap String.utf8EncodeChar := by
  obtain ⟨cs, rfl⟩ : ∃ cs, s = String.ofList cs := ⟨s.toList, String.ofList_toList.symm⟩
  simp [bytes, List.utf8Encode]

theorem byte_lt {m n : Nat} (hn : n < 256) (h : m < n) (xs ys : List UInt8) :
    UInt8.ofNat m :: xs < UInt8.ofNat n :: ys := by
  rw [List.cons_lt_cons_iff, UInt8.lt_iff_toNat_lt, UInt8.toNat_ofNat', UInt8.toNat_ofNat']
  omega

theorem byte_le {m n : Nat} {xs ys : List UInt8} (hn : n < 256) (h : m ≤ n) (hxs : m = n → xs < ys) :
    UInt8.ofNat m :: xs < UInt8.ofNat n :: ys := by
  rcases Nat.lt_or_eq_of_le h with h | rfl
  · exact byte_lt hn h xs ys
  · exact List.cons_lt_cons_iff.2 (.inr ⟨rfl, hxs rfl⟩)

theorem utf8EncodeChar_lt {c d : Char} (h : c < d) (xs ys : List UInt8) :
    String.utf8EncodeChar c ++ xs < String.utf8EncodeChar d ++ ys := by
  have hlt : c.val.toNat < d.val.toNat := h
  have hd : d.val.toNat < 0x110000 := by
    rcases d.valid with h | h
    · exact Nat.lt_trans h (by decide)
    · exact h.2
  unfold String.utf8EncodeChar
  generalize c.val.toNat = m at hlt ⊢
  generalize d.val.toNat = n at hlt hd ⊢
  dsimp only
  -- a longer form starts with a greater byte; forms of one length are compared byte by byte
  split
  case isTrue one =>
    repeat' split
    all_goals exact byte_lt (by omega) (by omega) _ _
  case isFalse =>
    rw [if_neg (by omega : ¬ n ≤ 0x7f)]
    split
    case isTrue two =>
      split
      case isTrue => exact byte_le (by omega) (by omega) fun _ => byte_lt (by omega) (by omega) _ _
      case isFalse =>
        split
        all_goals exact byte_lt (by omega) (by omega) _ _
    case isFalse =>
      rw [if_neg (by omega : ¬ n ≤ 0x7ff)]
      split
      case isTrue three =>
        split
        case isTrue =>
          exact byte_le (by omega) (by omega) fun _ => byte_le (by omega) (by omega) fun _ =>
            byte_lt (by omega) (by omega) _ _
        case isFalse => exact byte_lt (by omega) (by omega) _ _
      case isFalse =>
        rw [if_neg (by omega : ¬ n ≤ 0xffff)]
        exact byte_le (by omega) (by omega) fun _ => byte_le (by omega) (by omega) fun _ =>
          byte_le (by omega) (by omega) fun _ => byte_lt (by omega) (by omega) _ _

theorem flatMap_utf8EncodeChar_lt {cs ds : List Char} (h : cs < ds) :
    cs.flatMap String.utf8EncodeChar < ds.flatMap String.utf8EncodeChar := by
  induction cs generalizing ds with
  | nil =>
    cases ds with
    | nil => exact absurd h (List.lt_irrefl [])
    | cons d ds =>
      rw [List.flatMap_nil, List.flatMap_cons]
      cases hd : String.utf8EncodeChar d with
      | nil => exact absurd hd String.utf8EncodeChar_ne_nil
      | cons b bs => exact List.nil_lt_cons _ _
  | cons c cs ih =>
    cases ds with
    | nil => exact absurd h (List.not_lt_nil _)
    | cons d ds =>
      rw [List.flatMap_cons, List.flatMap_cons]
      rcases List.cons_lt_cons_iff.1 h with hlt | ⟨rfl, hlt⟩
      · exact utf8EncodeChar_lt hlt _ _
      · exact List.append_left_lt (ih hlt)

theorem bytes_lt {s t : String} (h : s < t) : bytes s < bytes t := by
  rw [bytes_eq, bytes_eq]
  exact flatMap_utf8EncodeChar_lt h

end XrPanel.Text
