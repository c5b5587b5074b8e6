import Mathlib.Logic.Function.Basic
import XrPanel.Elevation

namespace XrPanel.Elevation

def isGap (c : Char) : Bool := c = ' ' || c = '\t'

inductive Mark where
  | char (c : Char)
  | quote
  deriving DecidableEq

/-- Reads a command line on which `n` backslashes have been met. Before a quote two of them stand for one,
and one that is left over lets the quote stand for itself; elsewhere they stand for themselves. -/
def marks : Nat → List Char → List Mark
  | n, [] => List.replicate n (.char '\\')
  | n, c :: cs =>
    if c = '\\' then marks (n + 1) cs
    else if c = '"' then
      List.replicate (n / 2) (.char '\\') ++ (if n % 2 = 0 then .quote else .char '"') :: marks 0 cs
    else List.replicate n (.char '\\') ++ .char c :: marks 0 cs

inductive Part where
  | bare
  | quoted
  | closing
  deriving DecidableEq

def Part.next : Part → Part
  | quoted => quoted
  | bare | closing => bare

def grow (pre : List Char) (r : List Char × List (List Char)) : List Char × List (List Char) := (pre ++ r.1, r.2)

mutual

def inside : Part → List Mark → List Char × List (List Char)
  | _, [] => ([], [])
  | .bare, .quote :: ms => inside .quoted ms
  | .quoted, .quote :: ms => inside .closing ms
  | .closing, .quote :: ms => grow ['"'] (inside .quoted ms)
  | p, .char c :: ms => if p ≠ .quoted ∧ isGap c = true then ([], between ms) else grow [c] (inside p.next ms)

def between : List Mark → List (List Char)
  | [] => []
  | .quote :: ms =>
    let (a, as) := inside .quoted ms
    a :: as
  | .char c :: ms =>
    if isGap c then between ms
    else
      let (a, as) := grow [c] (inside .bare ms)
      a :: as

end

def splitArguments (line : String) : List String := (between (marks 0 line.toList)).map String.ofList

/-- A backslash stands right before a quote, which may be the one that closes the argument. -/
def Loose (cs : List Char) : Prop := ['\\', '"'] <:+: cs ++ ['"']

instance (cs : List Char) : Decidable (Loose cs) := inferInstanceAs (Decidable (_ <:+: _))

/-- An argument that is put in quotes comes through unless a backslash takes a quote's meaning away, another one
unless it has quotes. -/
def Survives (cs : List Char) : Prop := if cs = [] ∨ cs.any isGap = true then ¬ Loose cs else '"' ∉ cs

instance (cs : List Char) : Decidable (Survives cs) :=
  inferInstanceAs (Decidable (if cs = [] ∨ cs.any isGap = true then ¬ Loose cs else '"' ∉ cs))

variable {p : Part} {n : Nat} {c : Char} {cs : List Char} {ms : List Mark}

def reading (p : Part) (n : Nat) (cs : List Char) : List Char × List (List Char) := inside p (marks n cs)

theorem inside_char (h : p = .quoted ∨ isGap c = false) : inside p (.char c :: ms) = grow [c] (inside p.next ms) := by
  cases p <;> simp_all [inside, Part.next]

def Part.after (p : Part) (n : Nat) : Part := if n = 0 then p else p.next

theorem inside_slashes (p : Part) (n : Nat) (ms : List Mark) :
    inside p (List.replicate n (.char '\\') ++ ms) = grow (List.replicate n '\\') (inside (p.after n) ms) := by
  induction n generalizing p with
  | zero => rfl
  | succ n ih =>
    have hnext : p.next.after n = p.next := by cases n <;> cases p <;> rfl
    rw [List.replicate_succ, List.cons_append, inside_char (.inr rfl), ih, hnext]
    rfl

theorem reading_nil (p : Part) (n : Nat) : reading p n [] = (List.replicate n '\\', []) := by
  have h := inside_slashes p n []
  rw [List.append_nil] at h
  rw [reading, marks, h, grow, inside, List.append_nil]

theorem reading_slash (p : Part) (n : Nat) (cs : List Char) : reading p n ('\\' :: cs) = reading p (n + 1) cs := rfl

theorem marks_plain (hs : c ≠ '\\') (hq : c ≠ '"') (n : Nat) (cs : List Char) :
    marks n (c :: cs) = List.replicate n (.char '\\') ++ .char c :: marks 0 cs := by
  rw [marks, if_neg hs, if_neg hq]

theorem reading_plain (hs : c ≠ '\\') (hq : c ≠ '"') (hc : p = .quoted ∨ isGap c = false) (n : Nat) (cs : List Char) :
    reading p n (c :: cs) = grow (List.replicate n '\\' ++ [c]) (reading p.next 0 cs) := by
  have hc' : p.after n = .quoted ∨ isGap c = false := hc.imp_left fun h => by subst h; cases n <;> rfl
  have hnext : (p.after n).next = p.next := by cases n <;> cases p <;> rfl
  rw [reading, marks_plain hs hq, inside_slashes, inside_char hc', hnext]
  simp [grow, reading]

theorem reading_gap (hp : p ≠ .quoted) (n : Nat) (cs : List Char) :
    reading p n (' ' :: cs) = (List.replicate n '\\', between (marks 0 cs)) := by
  rw [reading, marks_plain (by decide) (by decide), inside_slashes]
  cases n <;> cases p <;> simp_all [inside, grow, Part.after, Part.next, isGap]

theorem reading_quote (p : Part) (n : Nat) (cs : List Char) :
    reading p n ('"' :: cs) = grow (List.replicate (n / 2) '\\')
      (if n % 2 = 0 then inside (p.after (n / 2)) (.quote :: marks 0 cs) else grow ['"'] (reading p.next 0 cs)) := by
  have hnext : (p.after (n / 2)).next = p.next := by unfold Part.after; split <;> cases p <;> rfl
  rw [reading, marks, if_neg (by decide), if_pos rfl, inside_slashes]
  split
  · rfl
  · rw [inside_char (.inr rfl), hnext]
    rfl

def doubled (cs : List Char) : List Char := cs.flatMap fun c => if c = '"' then ['"', '"'] else [c]

theorem doubled_quote (cs : List Char) : doubled ('"' :: cs) = '"' :: '"' :: doubled cs := rfl

theorem doubled_other (h : c ≠ '"') (cs : List Char) : doubled (c :: cs) = c :: doubled cs := by
  simp [doubled, h]

theorem quoteChars_eq (cs : List Char) :
    quoteChars cs = if cs = [] ∨ cs.any isGap = true then '"' :: doubled cs ++ ['"'] else doubled cs := by
  have hnil : doubled cs = [] ↔ cs = [] := by
    cases cs with
    | nil => simp [doubled]
    | cons c cs => by_cases hc : c = '"' <;> simp [doubled, hc]
  have hgap : (doubled cs).any isGap = cs.any isGap := by
    clear hnil
    induction cs with
    | nil => rfl
    | cons c cs ih =>
      by_cases hc : c = '"'
      · subst hc
        rw [doubled_quote, List.any_cons, List.any_cons, ih]
        rfl
      · rw [doubled_other hc, List.any_cons, ih, List.any_cons]
  have hquoted : doubled cs = [] ∨ (doubled cs).any isGap = true ↔ cs = [] ∨ cs.any isGap = true := by rw [hnil, hgap]
  exact if_congr hquoted rfl rfl

def line (as : List (List Char)) : List Char := [' '].intercalate (as.map quoteChars)

def following : List (List Char) → List Char
  | [] => []
  | as => ' ' :: line as

theorem line_cons (a : List Char) (as : List (List Char)) : line (a :: as) = quoteChars a ++ following as := by
  cases as <;> simp [line, following, List.intercalate]

theorem reading_following (hp : p ≠ .quoted) (n : Nat) (as : List (List Char)) :
    reading p n (following as) = (List.replicate n '\\', between (marks 0 (line as))) := by
  cases as with
  | nil => exact reading_nil p n
  | cons a as => exact reading_gap hp n _

theorem loose_slashes_plain (hs : c ≠ '\\') (hq : c ≠ '"') (n : Nat) (cs : List Char) :
    Loose (List.replicate n '\\' ++ c :: cs) ↔ Loose cs := by
  unfold Loose
  induction n with
  | zero => simp [List.infix_cons_iff, Ne.symm hs]
  | succ n ih =>
    rw [List.replicate_succ, List.cons_append, List.cons_append, List.infix_cons_iff, ih]
    cases n <;> simp [List.replicate_succ, Ne.symm hq]

theorem loose_slashes_quote (n : Nat) (cs : List Char) :
    Loose (List.replicate n '\\' ++ '"' :: cs) ↔ 0 < n ∨ Loose cs := by
  unfold Loose
  induction n with
  | zero => simp [List.infix_cons_iff]
  | succ n ih =>
    rw [List.replicate_succ, List.cons_append, List.cons_append, List.infix_cons_iff, ih]
    cases n <;> simp [List.replicate_succ]

theorem loose_slashes (n : Nat) : Loose (List.replicate n '\\') ↔ 0 < n := by
  unfold Loose
  induction n with
  | zero => decide
  | succ n ih =>
    rw [List.replicate_succ, List.cons_append, List.infix_cons_iff, ih]
    cases n <;> simp [List.replicate_succ]

theorem slashes_cons (n : Nat) (cs : List Char) :
    List.replicate n '\\' ++ '\\' :: cs = List.replicate (n + 1) '\\' ++ cs := by
  simp [List.replicate_succ']

theorem reading_closing (as : List (List Char)) :
    reading .quoted 0 ('"' :: following as) = ([], between (marks 0 (line as))) :=
  reading_following (p := .closing) (by decide) 0 as

theorem reading_quoted (as : List (List Char)) (h : ¬ Loose (List.replicate n '\\' ++ cs)) :
    reading .quoted n (doubled cs ++ '"' :: following as) =
      (List.replicate n '\\' ++ cs, between (marks 0 (line as))) := by
  induction cs generalizing n with
  | nil =>
    rw [List.append_nil, loose_slashes] at h
    obtain rfl : n = 0 := by omega
    exact reading_closing as
  | cons c cs ih =>
    by_cases hs : c = '\\'
    · subst hs
      rw [slashes_cons] at h ⊢
      exact ih h
    · by_cases hq : c = '"'
      · subst hq
        rw [loose_slashes_quote] at h
        obtain ⟨hn, hcs⟩ := not_or.1 h
        obtain rfl : n = 0 := by omega
        have hrest : reading .quoted 0 (doubled cs ++ '"' :: following as) = (cs, between (marks 0 (line as))) := ih hcs
        change grow ['"'] (reading .quoted 0 (doubled cs ++ '"' :: following as)) = _
        rw [hrest]
        rfl
      · rw [loose_slashes_plain hs hq] at h
        have hrest : reading .quoted 0 (doubled cs ++ '"' :: following as) = (cs, between (marks 0 (line as))) := ih h
        rw [doubled_other hq, List.cons_append, reading_plain hs hq (.inl rfl), Part.next, hrest, grow,
          List.append_assoc]
        rfl

theorem slashes_ne {m : Nat} {xs ys : List Char} (hm : m < n) (hx : xs.head? ≠ some '\\') :
    List.replicate m '\\' ++ xs ≠ List.replicate n '\\' ++ ys := by
  obtain ⟨k, rfl⟩ := Nat.exists_eq_add_of_lt hm
  rw [Nat.add_assoc, ← List.replicate_append_replicate, List.append_assoc, List.replicate_succ]
  intro h
  rw [List.append_cancel_left h] at hx
  exact hx rfl

theorem reading_quote_ne {t ys : List Char} (hn : 0 < n) (ht : (reading .closing 0 t).1.head? ≠ some '\\') :
    (reading .quoted n ('"' :: t)).1 ≠ List.replicate n '\\' ++ ys := by
  have hafter : Part.quoted.after (n / 2) = .quoted := by unfold Part.after; split <;> rfl
  rw [reading_quote, hafter]
  apply slashes_ne (by omega)
  split
  · exact ht
  · simp [grow]

theorem reading_loose (as : List (List Char)) (h : Loose (List.replicate n '\\' ++ cs)) :
    (reading .quoted n (doubled cs ++ '"' :: following as)).1 ≠ List.replicate n '\\' ++ cs := by
  induction cs generalizing n with
  | nil =>
    rw [List.append_nil, loose_slashes] at h
    apply reading_quote_ne h
    rw [reading_following (by decide)]
    simp
  | cons c cs ih =>
    by_cases hs : c = '\\'
    · subst hs
      rw [slashes_cons] at h ⊢
      exact ih h
    · by_cases hq : c = '"'
      · subst hq
        cases n with
        | zero =>
          have hcs : Loose cs := by simpa using (loose_slashes_quote 0 cs).1 h
          intro he
          exact ih (n := 0) hcs (List.cons.inj he).2
        | succ n =>
          apply reading_quote_ne (Nat.succ_pos n)
          simp [reading, marks, inside, grow]
      · rw [loose_slashes_plain hs hq] at h
        rw [doubled_other hq, List.cons_append, reading_plain hs hq (.inl rfl), Part.next, grow, List.append_assoc]
        intro he
        exact ih (n := 0) h (List.cons.inj (List.append_cancel_left he)).2

theorem reading_bare (as : List (List Char)) (hq : '"' ∉ cs) (hgap : cs.any isGap = false) :
    reading .bare n (doubled cs ++ following as) = (List.replicate n '\\' ++ cs, between (marks 0 (line as))) := by
  induction cs generalizing n with
  | nil =>
    rw [List.append_nil]
    exact reading_following (by decide) n as
  | cons c cs ih =>
    obtain ⟨hc, hcs⟩ := not_or.1 (mt List.mem_cons.2 hq)
    obtain ⟨hg, hgs⟩ := Bool.or_eq_false_iff.1 hgap
    rw [doubled_other (Ne.symm hc), List.cons_append]
    by_cases hs : c = '\\'
    · subst hs
      rw [slashes_cons]
      exact ih hcs hgs
    · have hrest : reading .bare 0 (doubled cs ++ following as) = (cs, between (marks 0 (line as))) := ih hcs hgs
      rw [reading_plain hs (Ne.symm hc) (.inr hg), Part.next, hrest, grow, List.append_assoc]
      rfl

def Short (k : Nat) (xs : List Char) : Prop := xs.any isGap = true ∨ xs.length < k

theorem Short.append {k m : Nat} {xs pre : List Char} (h : Short k xs) (hm : pre.length + k ≤ m) :
    Short m (pre ++ xs) := by
  rcases h with h | h
  · exact .inl (by simp [h])
  · refine .inr ?_
    rw [List.length_append]
    omega

theorem inside_quotes (p : Part) (ms : List Mark) :
    ∃ pre p', inside p (.quote :: .quote :: ms) = grow pre (inside p' ms) ∧ pre.length ≤ 1 ∧
      (p = .bare → pre = []) := by
  cases p with
  | bare => exact ⟨[], .closing, rfl, by simp, fun _ => rfl⟩
  | quoted => exact ⟨['"'], .quoted, rfl, by simp, fun h => by cases h⟩
  | closing => exact ⟨['"'], .closing, rfl, by simp, fun h => by cases h⟩

theorem reading_doubled_quote (p : Part) (n : Nat) (t : List Char) : ∃ pre p',
    reading p n ('"' :: '"' :: t) = grow pre (reading p' 0 t) ∧ pre.length ≤ n + 1 ∧ (p = .bare → pre.length ≤ n) := by
  rw [reading_quote]
  split
  case isTrue =>
    obtain ⟨pre, p', hread, hlength, hbare⟩ := inside_quotes (p.after (n / 2)) (marks 0 t)
    have hmarks : marks 0 ('"' :: t) = .quote :: marks 0 t := rfl
    refine ⟨List.replicate (n / 2) '\\' ++ pre, p', by simp [hmarks, hread, grow, reading], ?_, ?_⟩
    · rw [List.length_append, List.length_replicate]
      omega
    · rintro rfl
      have hafter : Part.bare.after (n / 2) = .bare := by unfold Part.after; split <;> rfl
      rw [hbare hafter, List.append_nil, List.length_replicate]
      omega
  case isFalse hodd =>
    -- the quote stands for itself, so half of the backslashes and that quote are still fewer than the backslashes
    have hsecond : ∃ p', reading p.next 0 ('"' :: t) = reading p' 0 t := by
      cases p with
      | bare | closing => exact ⟨.quoted, rfl⟩
      | quoted => exact ⟨.closing, rfl⟩
    obtain ⟨p', hp'⟩ := hsecond
    have hlength : (List.replicate (n / 2) '\\' ++ ['"']).length ≤ n := by
      rw [List.length_append, List.length_replicate, List.length_singleton]
      omega
    exact ⟨List.replicate (n / 2) '\\' ++ ['"'], p', by simp [grow, hp'], by omega, fun _ => hlength⟩

theorem reading_short (as : List (List Char)) (p : Part) (n : Nat) (hgap : cs.any isGap = false) :
    let r := reading p n (doubled cs ++ following as)
    Short (n + cs.length + 1) r.1 ∧ (p = .bare → '"' ∈ cs → Short (n + cs.length) r.1) := by
  intro r
  induction cs generalizing p n with
  | nil =>
    refine ⟨?_, fun _ hq => by cases hq⟩
    by_cases hp : p = .quoted
    · subst hp
      cases as with
      | nil =>
        have hr : r = (List.replicate n '\\', []) := reading_nil _ n
        exact .inr (by simp [hr])
      | cons a as =>
        have hr : r = grow (List.replicate n '\\' ++ [' ']) (reading .quoted 0 (line (a :: as))) :=
          reading_plain (by decide) (by decide) (.inl rfl) n _
        exact .inl (by simp [hr, grow, isGap])
    · have hr : r = (List.replicate n '\\', between (marks 0 (line as))) := reading_following hp n as
      exact .inr (by simp [hr])
  | cons c cs ih =>
    obtain ⟨hg, hgs⟩ := Bool.or_eq_false_iff.1 hgap
    by_cases hq : c = '"'
    · subst hq
      obtain ⟨pre, p', hread, hpre, hbare⟩ := reading_doubled_quote p n (doubled cs ++ following as)
      have hr : r = grow pre (reading p' 0 (doubled cs ++ following as)) := hread
      have hrest := (ih p' 0 hgs).1
      rw [hr, List.length_cons]
      exact ⟨hrest.append (by omega), fun hp _ => hrest.append (by have := hbare hp; omega)⟩
    · have hread : r = reading p n (c :: (doubled cs ++ following as)) := by
        simp only [r, doubled_other hq, List.cons_append]
      have hmem : '"' ∈ c :: cs → '"' ∈ cs := fun h => (List.mem_cons.1 h).resolve_left (Ne.symm hq)
      by_cases hs : c = '\\'
      · subst hs
        have hrest := ih p (n + 1) hgs
        rw [hread, reading_slash, List.length_cons, ← Nat.add_assoc, Nat.add_right_comm n]
        exact ⟨hrest.1, fun hp h => hrest.2 hp (hmem h)⟩
      · have hrest := ih p.next 0 hgs
        have hlength : (List.replicate n '\\' ++ [c]).length = n + 1 := by simp
        rw [hread, reading_plain hs hq (.inr hg), List.length_cons]
        refine ⟨hrest.1.append (by omega), fun hp h => (hrest.2 ?_ (hmem h)).append (by omega)⟩
        rw [hp]
        rfl

def begun (r : List Char × List (List Char)) : List (List Char) := r.1 :: r.2

theorem between_slashes (n : Nat) (cs : List Char) : between (marks (n + 1) cs) = begun (reading .bare (n + 1) cs) := by
  induction cs generalizing n with
  | nil => rfl
  | cons c cs ih =>
    by_cases hs : c = '\\'
    · subst hs
      exact ih (n + 1)
    · by_cases hq : c = '"'
      · subst hq
        cases n with
        | zero => rfl
        | succ n =>
          have hhalf : (n + 1 + 1) / 2 = n / 2 + 1 := by omega
          rw [reading, marks, if_neg (by decide), if_pos rfl, hhalf]
          rfl
      · rw [reading, marks_plain hs hq]
        rfl

theorem between_marks (hc : isGap c = false) (cs : List Char) :
    between (marks 0 (c :: cs)) = begun (reading .bare 0 (c :: cs)) := by
  by_cases hs : c = '\\'
  · subst hs
    exact between_slashes 0 cs
  · by_cases hq : c = '"'
    · subst hq
      rfl
    · have hread := reading_plain (p := .bare) hs hq (.inr hc) 0 cs
      rw [hread, marks_plain hs hq]
      simp [between, hc]
      rfl

theorem between_line (a : List Char) (as : List (List Char)) : ∃ r, between (marks 0 (line (a :: as))) = begun r ∧
    (Survives a → r = (a, between (marks 0 (line as)))) ∧ (¬ Survives a → r.1 ≠ a) := by
  unfold Survives
  rw [line_cons, quoteChars_eq]
  split
  case isTrue =>
    refine ⟨reading .quoted 0 (doubled a ++ '"' :: following as), ?_, fun h => ?_, fun h => ?_⟩
    · rw [List.append_assoc]
      rfl
    · exact reading_quoted (n := 0) as h
    · exact reading_loose (n := 0) as (not_not.1 h)
  case isFalse hplain =>
    obtain ⟨hne, hgap⟩ := not_or.1 hplain
    replace hgap : a.any isGap = false := by simpa using hgap
    refine ⟨reading .bare 0 (doubled a ++ following as), ?_, fun h => ?_, fun h => ?_⟩
    · obtain ⟨c, cs, rfl⟩ := List.exists_cons_of_ne_nil hne
      have hc : isGap c = false := (Bool.or_eq_false_iff.1 hgap).1
      by_cases hq : c = '"'
      · subst hq
        exact between_marks hc _
      · rw [doubled_other hq]
        exact between_marks hc _
    · exact reading_bare (n := 0) as h hgap
    · intro he
      have hshort := (reading_short as .bare 0 hgap).2 rfl (not_not.1 h)
      rw [he, Short, hgap] at hshort
      rcases hshort with hshort | hshort
      · cases hshort
      · omega

theorem between_line_iff (as : List (List Char)) : between (marks 0 (line as)) = as ↔ ∀ a ∈ as, Survives a := by
  induction as with
  | nil => simp [line, marks, between]
  | cons a as ih =>
    obtain ⟨r, hr, hsurvives, hlost⟩ := between_line a as
    rw [hr, List.forall_mem_cons, ← ih]
    by_cases ha : Survives a
    · rw [hsurvives ha, begun]
      simp [ha]
    · have hne : begun r ≠ a :: as := fun h => hlost ha (List.cons.inj h).1
      simp [ha, hne]

theorem toList_commandLine (args : List String) : (commandLine args).toList = line (args.map String.toList) := by
  rw [commandLine, String.toList_intercalate, line, List.map_map, List.map_map]
  congr 1
  simp [quote, Function.comp_def]

theorem splitArguments_commandLine_iff (args : List String) :
    splitArguments (commandLine args) = args ↔ ∀ a ∈ args, Survives a.toList := by
  have htexts : ∀ as : List (List Char), as.map String.ofList = args ↔ as = args.map String.toList := by
    intro as
    constructor
    · rintro rfl
      simp [Function.comp_def]
    · rintro rfl
      simp [Function.comp_def]
  rw [splitArguments, htexts, toList_commandLine, between_line_iff, List.forall_mem_map]

/-- The arguments on a command line come back exactly if each of them survives, and so two lists of such arguments
have different command lines. -/
theorem arguments_come_back_iff (args : List String) :
    (splitArguments (commandLine args) = args ↔ ∀ a ∈ args, Survives a.toList) ∧
    ∀ others, (∀ a ∈ args ++ others, Survives a.toList) → commandLine args = commandLine others → args = others := by
  refine ⟨splitArguments_commandLine_iff args, fun others hall hsame => ?_⟩
  obtain ⟨hargs, hothers⟩ := List.forall_mem_append.1 hall
  calc args
    _ = splitArguments (commandLine args) := ((splitArguments_commandLine_iff args).2 hargs).symm
    _ = splitArguments (commandLine others) := by rw [hsame]
    _ = others := (splitArguments_commandLine_iff others).2 hothers

example : splitArguments (commandLine ["a b", "", "C:\\x\\"]) = ["a b", "", "C:\\x\\"] := by decide

theorem quoting_loses_arguments :
    splitArguments (commandLine ["C:\\my store\\", "x"]) = ["C:\\my store\" x"] ∧
    splitArguments (commandLine ["a\"b"]) = ["ab"] ∧
    commandLine [""] = commandLine ["\""] ∧ ¬ Function.Injective commandLine := by
  have hsame : commandLine [""] = commandLine ["\""] := by decide
  refine ⟨by decide, by decide, hsame, fun h => ?_⟩
  exact absurd (h hsame) (by decide)

end XrPanel.Elevation
