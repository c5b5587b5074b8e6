import XrPanel.Text.Word

namespace XrPanel.JsonGrammar

/-- A JSON value. Strings are decoded; of a number its parts are kept as they are written. -/
inductive Tree where
  | null
  | bool (b : Bool)
  | number (negative : Bool) (whole fraction exponent : List Char)
  | string (s : String)
  | array (xs : List Tree)
  | object (ms : List (String × Tree))

/-- Blanks at the front of a text. This relation and those below are between a text, what stands at its front, and what
follows it. -/
inductive Blanks : List Char → List Char → Prop
  | none (rest : List Char) : Blanks rest rest
  | more {c : Char} {cs rest : List Char} (hc : c ∈ [' ', '\t', '\n', '\r']) (h : Blanks cs rest) :
      Blanks (c :: cs) rest

def Mark (c : Char) (cs rest : List Char) : Prop := ∃ mid, Blanks cs (c :: mid) ∧ Blanks mid rest

def HexDigit (c : Char) (n : Nat) : Prop :=
  "0123456789abcdef".toList[n]? = some c ∨ "0123456789ABCDEF".toList[n]? = some c

instance (c : Char) (n : Nat) : Decidable (HexDigit c n) := inferInstanceAs (Decidable (_ ∨ _))

inductive CodeUnit : List Char → Nat → List Char → Prop
  | digits {a b c d : Char} {i j k l : Nat} (ha : HexDigit a i) (hb : HexDigit b j) (hc : HexDigit c k)
      (hd : HexDigit d l) (rest : List Char) :
      CodeUnit (a :: b :: c :: d :: rest) (((i * 16 + j) * 16 + k) * 16 + l) rest

def shortEscapes : List (Char × Char) :=
  [('"', '"'), ('\\', '\\'), ('/', '/'), ('b', '\x08'), ('f', '\x0c'), ('n', '\n'), ('r', '\r'), ('t', '\t')]

inductive Escape : List Char → Char → List Char → Prop
  | short {c x : Char} (h : (c, x) ∈ shortEscapes) (rest : List Char) : Escape (c :: rest) x rest
  | unit {cs rest : List Char} {n : Nat} (h : CodeUnit cs n rest) (hn : n < 0xD800 ∨ 0xE000 ≤ n) :
      Escape ('u' :: cs) (Char.ofNat n) rest
  | pair {cs mid rest : List Char} {lead trail : Nat} (hl : CodeUnit cs lead ('\\' :: 'u' :: mid))
      (ht : CodeUnit mid trail rest) (hlead : 0xD800 ≤ lead ∧ lead < 0xDC00)
      (htrail : 0xDC00 ≤ trail ∧ trail < 0xE000) :
      Escape ('u' :: cs) (Char.ofNat (0x10000 + (lead - 0xD800) * 0x400 + (trail - 0xDC00))) rest

inductive Chars : List Char → List Char → List Char → Prop
  | close (rest : List Char) : Chars ('"' :: rest) [] rest
  | plain {c : Char} {cs s rest : List Char} (hc : 0x20 ≤ c.toNat) (hq : c ≠ '"') (hb : c ≠ '\\')
      (h : Chars cs s rest) : Chars (c :: cs) (c :: s) rest
  | escape {c : Char} {cs mid s rest : List Char} (he : Escape cs c mid) (h : Chars mid s rest) :
      Chars ('\\' :: cs) (c :: s) rest

inductive Minus : List Char → Bool → List Char → Prop
  | absent (rest : List Char) : Minus rest false rest
  | present (rest : List Char) : Minus ('-' :: rest) true rest

inductive Digits : List Char → List Char → List Char → Prop
  | none (rest : List Char) : Digits rest [] rest
  | more {c : Char} {cs ds rest : List Char} (hc : c.isDigit) (h : Digits cs ds rest) : Digits (c :: cs) (c :: ds) rest

inductive Whole : List Char → List Char → List Char → Prop
  | zero (rest : List Char) : Whole ('0' :: rest) ['0'] rest
  | digits {c : Char} {cs ds rest : List Char} (hc : c.isDigit) (hz : c ≠ '0') (h : Digits cs ds rest) :
      Whole (c :: cs) (c :: ds) rest

inductive Fraction : List Char → List Char → List Char → Prop
  | none (rest : List Char) : Fraction rest [] rest
  | digits {c : Char} {cs ds rest : List Char} (hc : c.isDigit) (h : Digits cs ds rest) :
      Fraction ('.' :: c :: cs) ('.' :: c :: ds) rest

inductive Exponent : List Char → List Char → List Char → Prop
  | none (rest : List Char) : Exponent rest [] rest
  | digits {e c : Char} {sign cs ds rest : List Char} (he : e ∈ ['e', 'E']) (hs : sign ∈ [[], ['+'], ['-']])
      (hc : c.isDigit) (h : Digits cs ds rest) : Exponent (e :: (sign ++ c :: cs)) (e :: (sign ++ c :: ds)) rest

mutual

inductive Written : List Char → Tree → List Char → Prop
  | null (rest : List Char) : Written ("null".toList ++ rest) .null rest
  | true (rest : List Char) : Written ("true".toList ++ rest) (.bool true) rest
  | false (rest : List Char) : Written ("false".toList ++ rest) (.bool false) rest
  | number {cs as bs ds whole fraction exponent rest : List Char} {negative : Bool} (hm : Minus cs negative as)
      (hw : Whole as whole bs) (hf : Fraction bs fraction ds) (he : Exponent ds exponent rest) :
      Written cs (.number negative whole fraction exponent) rest
  | string {cs s rest : List Char} (h : Chars cs s rest) : Written ('"' :: cs) (.string (String.ofList s)) rest
  | array {cs as bs rest : List Char} {xs : List Tree} (ho : Mark '[' cs as) (h : Elements as xs bs)
      (hc : Mark ']' bs rest) : Written cs (.array xs) rest
  | object {cs as bs rest : List Char} {ms : List (String × Tree)} (ho : Mark '\x7b' cs as) (h : Members as ms bs)
      (hc : Mark '\x7d' bs rest) : Written cs (.object ms) rest

inductive Elements : List Char → List Tree → List Char → Prop
  | none (rest : List Char) : Elements rest [] rest
  | one {cs rest : List Char} {x : Tree} (h : Written cs x rest) : Elements cs [x] rest
  | more {cs as bs rest : List Char} {x y : Tree} {xs : List Tree} (h : Written cs x as) (hc : Mark ',' as bs)
      (hs : Elements bs (y :: xs) rest) : Elements cs (x :: y :: xs) rest

inductive Members : List Char → List (String × Tree) → List Char → Prop
  | none (rest : List Char) : Members rest [] rest
  | one {cs k as bs rest : List Char} {x : Tree} (hk : Chars cs k as) (hc : Mark ':' as bs) (h : Written bs x rest) :
      Members ('"' :: cs) [(String.ofList k, x)] rest
  | more {cs k as bs ds es rest : List Char} {x : Tree} {m : String × Tree} {ms : List (String × Tree)}
      (hk : Chars cs k as) (hc : Mark ':' as bs) (h : Written bs x ds) (hm : Mark ',' ds es)
      (hs : Members es (m :: ms) rest) : Members ('"' :: cs) ((String.ofList k, x) :: m :: ms) rest

end

def integer (negative : Bool) (whole : List Char) : Int :=
  if negative then -(Text.readDigits whole : Int) else Text.readDigits whole

def JsonText (cs : List Char) (x : Tree) : Prop := ∃ as bs, Blanks cs as ∧ Written as x bs ∧ Blanks bs []

end XrPanel.JsonGrammar
