import XrPanel.Text.Word

namespace XrPanel.Text

variable {c : Char} {cs t : List Char}

theorem trimStart_append (hc : isBlank c = false) (cs ds : List Char) :
    trimStart (cs ++ c :: ds) = trimStart cs ++ c :: ds := by
  unfold trimStart
  rw [List.dropWhile_append]
  split
  case isTrue h => rw [List.isEmpty_iff.1 h, List.dropWhile_cons_of_neg (by simp [hc]), List.nil_append]
  case isFalse => rfl

theorem trimStart_of_head (h : cs.head?.any isBlank = false) : trimStart cs = cs := by
  cases cs with
  | nil => rfl
  | cons c cs => exact List.dropWhile_cons_of_neg (by simpa using h)

theorem length_trimStart_lt (h : cs.head?.any isBlank = true) : (trimStart cs).length < cs.length := by
  cases cs with
  | nil => cases h
  | cons c cs =>
    have hc : isBlank c = true := by simpa using h
    have hrest := (List.dropWhile_sublist isBlank (l := cs)).length_le
    rw [trimStart, List.dropWhile_cons_of_pos hc, List.length_cons]
    omega

theorem trimEnd_concat (hc : isBlank c = false) (cs : List Char) : trimEnd (cs ++ [c]) = cs ++ [c] := by
  unfold trimEnd
  rw [List.reverse_concat, List.dropWhile_cons_of_neg (by simp [hc]), List.reverse_cons, List.reverse_reverse]

theorem trimEnd_eq_reverse (cs : List Char) : trimEnd cs = (trimStart cs.reverse).reverse := rfl

structure Core (cs t : List Char) : Prop where
  framed : ∃ front back, cs = front ++ t ++ back ∧ front.all isBlank = true ∧ back.all isBlank = true
  head : t.head?.any isBlank = false
  last : t.getLast?.any isBlank = false

theorem core_of_not_blank (h : ∀ c ∈ cs, isBlank c = false) : Core cs cs := by
  refine ⟨⟨[], [], by simp⟩, ?_, ?_⟩
  · cases hc : cs.head? with
    | none => rfl
    | some c => exact h c (List.mem_of_head? hc)
  · cases hc : cs.getLast? with
    | none => rfl
    | some c => exact h c (List.mem_of_getLast? hc)

theorem exists_trimStart (cs : List Char) : ∃ front, cs = front ++ trimStart cs ∧ front.all isBlank = true :=
  ⟨cs.takeWhile isBlank, List.takeWhile_append_dropWhile.symm, List.all_takeWhile⟩

theorem head_trimStart (cs : List Char) : (trimStart cs).head?.any isBlank = false := by
  have h := List.head?_dropWhile_not isBlank cs
  unfold trimStart
  split at h
  case h_1 c hc => rw [hc, Option.any_some, h]
  case h_2 hnone => rw [hnone, Option.any_none]

theorem trimStart_append_of_blank {front : List Char} (h : front.all isBlank = true) (cs : List Char) :
    trimStart (front ++ cs) = trimStart cs :=
  List.dropWhile_append_of_pos (List.all_eq_true.1 h)

theorem core_trim (s : String) : Core s.toList (trim s).toList := by
  rw [trim, String.toList_ofList, trimEnd_eq_reverse]
  obtain ⟨front, hfront, hblank⟩ := exists_trimStart s.toList
  obtain ⟨back, hback, hblank'⟩ := exists_trimStart (trimStart s.toList).reverse
  have hsplit : trimStart s.toList = (trimStart (trimStart s.toList).reverse).reverse ++ back.reverse := by
    rw [← List.reverse_append, ← hback, List.reverse_reverse]
  refine ⟨⟨front, back.reverse, ?_, hblank, ?_⟩, ?_, ?_⟩
  · rw [List.append_assoc, ← hsplit]
    exact hfront
  · rw [List.all_reverse]
    exact hblank'
  · have hhead := head_trimStart s.toList
    rw [hsplit, List.head?_append] at hhead
    cases h : (trimStart (trimStart s.toList).reverse).reverse.head? with
    | none => rfl
    | some c =>
      rw [h] at hhead
      exact hhead
  · rw [List.getLast?_reverse]
    exact head_trimStart _

theorem trim_of_core {s w : String} (h : Core s.toList w.toList) : trim s = w := by
  obtain ⟨⟨front, back, hs, hfront, hback⟩, hhead, hlast⟩ := h
  rw [← String.toList_inj, trim, String.toList_ofList, hs, List.append_assoc, trimStart_append_of_blank hfront]
  cases hw : w.toList with
  | nil =>
    have hnone := trimStart_append_of_blank hback []
    rw [List.append_nil] at hnone
    rw [List.nil_append, hnone]
    rfl
  | cons c ds =>
    rw [hw] at hhead hlast
    have hstart : trimStart (c :: ds ++ back) = c :: ds ++ back := trimStart_of_head hhead
    rw [hstart, trimEnd_eq_reverse, List.reverse_append, trimStart_append_of_blank (by rwa [List.all_reverse]),
      trimStart_of_head (by rwa [List.head?_reverse]), List.reverse_reverse]

theorem trim_eq_iff {s w : String} : trim s = w ↔ Core s.toList w.toList := by
  constructor
  · rintro rfl
    exact core_trim s
  · exact trim_of_core

theorem capital_or_toLower_eq (c : Char) : (∃ k < 26, Char.ofNat (65 + k) = c) ∨ c.toLower = c := by
  by_cases hc : 65 ≤ c.toNat ∧ c.toNat ≤ 90
  · refine .inl ⟨c.toNat - 65, by omega, ?_⟩
    rw [Nat.add_sub_cancel' hc.1, Char.ofNat_toNat]
  · exact .inr (dif_neg hc)

theorem apply_toLower {p : Char → Bool} (hall : ∀ k < 26, p (Char.ofNat (65 + k)).toLower = p (Char.ofNat (65 + k)))
    (c : Char) : p c.toLower = p c := by
  rcases capital_or_toLower_eq c with ⟨k, hk, rfl⟩ | h
  · exact hall k hk
  · rw [h]

theorem isBlank_toLower (c : Char) : isBlank c.toLower = isBlank c := apply_toLower (by decide) c

theorem isAlpha_toLower (c : Char) : c.toLower.isAlpha = c.isAlpha := apply_toLower (p := Char.isAlpha) (by decide) c

theorem toLower_of_not_alpha {c : Char} (h : c.isAlpha = false) : c.toLower = c := by
  have hall : ∀ k < 26, (Char.ofNat (65 + k)).isAlpha = true := by decide
  rcases capital_or_toLower_eq c with ⟨k, hk, rfl⟩ | hc
  · exact absurd (hall k hk) (by simp [h])
  · exact hc

theorem eq_of_toLower_eq {c d : Char} (h : c.toLower = d.toLower) (hd : d.isAlpha = false) : c = d := by
  have hc : c.isAlpha = false := by rw [← isAlpha_toLower, h, isAlpha_toLower, hd]
  rw [toLower_of_not_alpha hc, toLower_of_not_alpha hd] at h
  exact h

theorem eq_of_map_toLower_eq {ds : List Char} (h : cs.map Char.toLower = ds.map Char.toLower)
    (hd : ∀ d ∈ ds, d.isAlpha = false) : cs = ds := by
  induction cs generalizing ds with
  | nil =>
    cases ds with
    | nil => rfl
    | cons d ds => cases h
  | cons c cs ih =>
    cases ds with
    | nil => cases h
    | cons d ds =>
      obtain ⟨hc, hcs⟩ := List.cons.inj h
      rw [eq_of_toLower_eq hc (hd d (by simp)), ih hcs fun x hx => hd x (List.mem_cons_of_mem d hx)]

theorem sameName_iff {a b : String} : SameName a b ↔ a.toList.map Char.toLower = b.toList.map Char.toLower := by
  rw [← String.toList_map, ← String.toList_map, String.toList_inj]
  rfl

namespace SameName

variable {a b : String} (h : SameName a b)

include h

theorem map_toLower : a.toList.map Char.toLower = b.toList.map Char.toLower := sameName_iff.1 h

theorem length_eq : a.toList.length = b.toList.length := by
  simpa using congrArg List.length h.map_toLower

theorem take_reverse (n : Nat) :
    (a.toList.reverse.take n).map Char.toLower = (b.toList.reverse.take n).map Char.toLower := by
  rw [List.map_take, List.map_take, List.map_reverse, List.map_reverse, h.map_toLower]

theorem eq_of_not_alpha (hb : ∀ c ∈ b.toList, c.isAlpha = false) : a = b := by
  rw [← String.toList_inj]
  exact eq_of_map_toLower_eq h.map_toLower hb

theorem core (hb : Core b.toList b.toList) : Core a.toList a.toList := by
  have hends : ∀ x : Option Char, (x.map Char.toLower).any isBlank = x.any isBlank := by
    intro x
    cases x with
    | none => rfl
    | some c => exact isBlank_toLower c
  have hhead := congrArg (fun cs => cs.head?.any isBlank) h.map_toLower
  have hlast := congrArg (fun cs => cs.getLast?.any isBlank) h.map_toLower
  simp only [List.head?_map, List.getLast?_map, hends] at hhead hlast
  exact ⟨⟨[], [], by simp⟩, hhead.trans hb.head, hlast.trans hb.last⟩

end SameName

end XrPanel.Text
