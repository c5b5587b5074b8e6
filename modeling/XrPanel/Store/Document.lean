import XrPanel.Json
import XrPanel.Store.Memory
import XrPanel.Text.Word

namespace XrPanel.Document

open Text

inductive Token where
  | openBrace
  | closeBrace
  | colon
  | comma
  | string (s : String)
  | int (n : Int32)
  deriving DecidableEq

/-- The blanks that may stand between words: fewer than the blanks of `Text.isBlank`. -/
def isSeparator (c : Char) : Bool := c = ' ' || c = '\t' || c = '\n' || c = '\r'

def hexValue? (c : Char) : Option Nat :=
  if '0' ≤ c ∧ c ≤ '9' then some (c.toNat - 48)
  else if 'a' ≤ c ∧ c ≤ 'f' then some (c.toNat - 87)
  else if 'A' ≤ c ∧ c ≤ 'F' then some (c.toNat - 55)
  else none

def codeUnit? : List Char → Option (Nat × List Char)
  | a :: b :: c :: d :: rest => do
    let a ← hexValue? a
    let b ← hexValue? b
    let c ← hexValue? c
    let d ← hexValue? d
    some (((a * 16 + b) * 16 + c) * 16 + d, rest)
  | _ => none

theorem length_codeUnit? {cs rest : List Char} {n : Nat} (h : codeUnit? cs = some (n, rest)) :
    rest.length < cs.length := by
  unfold codeUnit? at h
  split at h
  case h_1 =>
    simp only [Option.bind_eq_bind, Option.bind_eq_some_iff, Option.some.injEq, Prod.mk.injEq] at h
    obtain ⟨_, _, _, _, _, _, _, _, _, rfl⟩ := h
    simp only [List.length_cons]
    omega
  case h_2 => cases h

def isLeading (n : Nat) : Bool := 0xD800 ≤ n && n < 0xDC00

def isTrailing (n : Nat) : Bool := 0xDC00 ≤ n && n < 0xE000

def pairValue (lead trail : Nat) : Nat := 0x10000 + (lead - 0xD800) * 0x400 + (trail - 0xDC00)

def trailing? : List Char → Option (Nat × List Char)
  | '\\' :: 'u' :: rest =>
    match codeUnit? rest with
    | some (n, rest) => if isTrailing n then some (n, rest) else none
    | none => none
  | _ => none

theorem length_trailing? {cs rest : List Char} {n : Nat} (h : trailing? cs = some (n, rest)) :
    rest.length < cs.length := by
  unfold trailing? at h
  split at h
  case h_1 =>
    split at h
    case h_1 n' r' hr =>
      split at h
      · cases h
        have := length_codeUnit? hr
        simp only [List.length_cons]
        omega
      · cases h
    case h_2 => cases h
  case h_2 => cases h

def numbered? (cs : List Char) : Option (Char × List Char) :=
  match codeUnit? cs with
  | some (n, rest) =>
    if isLeading n then (trailing? rest).map fun t => (Char.ofNat (pairValue n t.1), t.2)
    else if isTrailing n then none
    else some (Char.ofNat n, rest)
  | none => none

theorem length_numbered? {cs rest : List Char} {c : Char} (h : numbered? cs = some (c, rest)) :
    rest.length < cs.length := by
  unfold numbered? at h
  split at h
  case h_1 n r hr =>
    have hlt := length_codeUnit? hr
    split at h
    · simp only [Option.map_eq_some_iff, Prod.mk.injEq] at h
      obtain ⟨t, ht, _, rfl⟩ := h
      exact Nat.lt_trans (length_trailing? ht) hlt
    · split at h
      · cases h
      · simp only [Option.some.injEq, Prod.mk.injEq] at h
        exact h.2 ▸ hlt
  case h_2 => cases h

/-- The character that stands after a backslash. A half of a pair does not stand alone. -/
def escaped? : List Char → Option (Char × List Char)
  | [] => none
  | c :: rest =>
    if c = '"' ∨ c = '\\' ∨ c = '/' then some (c, rest)
    else if c = 'b' then some ('\x08', rest)
    else if c = 'f' then some ('\x0c', rest)
    else if c = 'n' then some ('\n', rest)
    else if c = 'r' then some ('\r', rest)
    else if c = 't' then some ('\t', rest)
    else if c = 'u' then numbered? rest
    else none

theorem length_escaped? {cs rest : List Char} {c : Char} (h : escaped? cs = some (c, rest)) :
    rest.length < cs.length := by
  cases cs with
  | nil => cases h
  | cons x xs =>
    simp only [escaped?] at h
    repeat' split at h
    all_goals first
      | (cases h; exact Nat.lt_succ_self _)
      | exact Nat.lt_succ_of_lt (length_numbered? h)
      | cases h

def stringBody? (cs : List Char) : Option (List Char × List Char) :=
  match cs with
  | [] => none
  | c :: rest =>
    if c = '"' then some ([], rest)
    else if c = '\\' then
      match h : escaped? rest with
      | some (x, after) =>
        have := length_escaped? h
        (stringBody? after).map fun s => (x :: s.1, s.2)
      | none => none
    else if c.toNat < 0x20 then none
    else (stringBody? rest).map fun s => (c :: s.1, s.2)
termination_by cs.length

theorem length_stringBody? {cs : List Char} {s : List Char × List Char} (h : stringBody? cs = some s) :
    s.2.length < cs.length := by
  fun_induction stringBody? cs generalizing s with
  | case1 => cases h
  | case2 => cases h; exact Nat.lt_succ_self _
  | case3 rest _ x after hx hlt ih =>
    simp only [Option.map_eq_some_iff] at h
    obtain ⟨t, ht, rfl⟩ := h
    have := ih ht
    simp only [List.length_cons]
    omega
  | case4 => cases h
  | case5 => cases h
  | case6 c rest _ _ _ ih =>
    simp only [Option.map_eq_some_iff] at h
    obtain ⟨t, ht, rfl⟩ := h
    have := ih ht
    simp only [List.length_cons]
    omega

def dword? (negative : Bool) (ds : List Char) : Option Int32 :=
  match ds with
  | [] => none
  | ['0'] => if negative then none else some 0
  | '0' :: _ => none
  | ds => int32? (if negative then -(readDigits ds : Int) else readDigits ds)

def lex (cs : List Char) : Option (List Token) :=
  match cs with
  | [] => some []
  | c :: rest =>
    if isSeparator c then lex rest
    else if c = '\x7b' then (lex rest).map (.openBrace :: ·)
    else if c = '\x7d' then (lex rest).map (.closeBrace :: ·)
    else if c = ':' then (lex rest).map (.colon :: ·)
    else if c = ',' then (lex rest).map (.comma :: ·)
    else if c = '"' then
      match h : stringBody? rest with
      | some (s, after) =>
        have : after.length < rest.length := length_stringBody? h
        (lex after).map (.string (String.ofList s) :: ·)
      | none => none
    else if c = '-' then
      have := (List.dropWhile_sublist Char.isDigit (l := rest)).length_le
      match dword? true (rest.takeWhile Char.isDigit) with
      | some n => (lex (rest.dropWhile Char.isDigit)).map (.int n :: ·)
      | none => none
    else if c.isDigit then
      have := (List.dropWhile_sublist Char.isDigit (l := rest)).length_le
      match dword? false (c :: rest.takeWhile Char.isDigit) with
      | some n => (lex (rest.dropWhile Char.isDigit)).map (.int n :: ·)
      | none => none
    else none
termination_by cs.length

def Token.value? : Token → Option Value
  | .string s => some (.string s)
  | .int n => some (.dword n)
  | _ => none

def entries? : List Token → Option (List (String × Value) × List Token)
  | .string name :: .colon :: v :: .comma :: rest =>
    match v.value?, entries? rest with
    | some v, some (es, rest) => some ((name, v) :: es, rest)
    | _, _ => none
  | .string name :: .colon :: v :: .closeBrace :: rest => v.value?.map fun v => ([(name, v)], rest)
  | _ => none

theorem length_entries? {ts rest : List Token} {es : List (String × Value)}
    (h : entries? ts = some (es, rest)) : rest.length < ts.length := by
  fun_induction entries? ts generalizing es rest with
  | case1 name t r v es' r' hr hv ih =>
    cases h
    have := ih hr
    simp only [List.length_cons]
    omega
  | case2 => cases h
  | case3 name v r =>
    simp only [Option.map_eq_some_iff, Prod.mk.injEq] at h
    obtain ⟨_, _, _, rfl⟩ := h
    simp only [List.length_cons]
    omega
  | case4 => cases h

def values? : List Token → Option (List (String × Value) × List Token)
  | .openBrace :: .closeBrace :: rest => some ([], rest)
  | .openBrace :: rest => entries? rest
  | _ => none

theorem length_values? {ts rest : List Token} {es : List (String × Value)}
    (h : values? ts = some (es, rest)) : rest.length < ts.length := by
  unfold values? at h
  split at h
  · cases h
    simp only [List.length_cons]
    omega
  · have := length_entries? h
    simp only [List.length_cons]
    omega
  · cases h

def paths? (ts : List Token) : Option (List (String × List (String × Value))) :=
  match ts with
  | .string path :: .colon :: rest =>
    match h : values? rest with
    | some (es, [.closeBrace]) => some [(path, es)]
    | some (es, .comma :: after) =>
      have := length_values? h
      (paths? after).map ((path, es) :: ·)
    | _ => none
  | _ => none
termination_by ts.length
decreasing_by simp only [List.length_cons] at *; omega

def members? : List Token → Option (List (String × List (String × Value)))
  | [.openBrace, .closeBrace] => some []
  | .openBrace :: rest => paths? rest
  | _ => none

/-- Of members with one name the last one counts, on both levels. -/
def hiveOf (ms : List (String × List (String × Value))) : Hive :=
  .ofList (ms.map fun m => (m.1, .ofList m.2))

def read? (text : String) : Option Hive :=
  if isBlankText text then some .empty
  else ((lex text.toList).bind members?).map hiveOf

def readValue? (text : String) : Option Value :=
  match lex text.toList with
  | some [t] => t.value?
  | _ => none

def valueJson : Value → Json
  | .dword n => .int n.toInt
  | .string s => .string s

def hiveJson (h : Hive) : Json :=
  .object (SortedMap.entries h |>.map fun p => (p.1, .object (p.2.entries.map fun e => (e.1, valueJson e.2))))

def write (h : Hive) : String := (hiveJson h).pretty

end XrPanel.Document
