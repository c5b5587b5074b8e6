namespace XrPanel.Text

/-- The characters with the Unicode property White_Space. -/
def isBlank (c : Char) : Bool :=
  let n := c.toNat
  (0x09 ≤ n && n ≤ 0x0D) || n == 0x20 || n == 0x85 || n == 0xA0 || n == 0x1680 ||
    (0x2000 ≤ n && n ≤ 0x200A) || n == 0x2028 || n == 0x2029 || n == 0x202F || n == 0x205F ||
    n == 0x3000

def trimStart (cs : List Char) : List Char := cs.dropWhile isBlank

def trimEnd (cs : List Char) : List Char := (cs.reverse.dropWhile isBlank).reverse

def trim (s : String) : String := String.ofList (trimEnd (trimStart s.toList))

def isBlankText (s : String) : Bool := s.toList.all isBlank

def foldCase (s : String) : String := s.map Char.toLower

def SameName (a b : String) : Prop := foldCase a = foldCase b

instance (a b : String) : Decidable (SameName a b) := inferInstanceAs (Decidable (_ = _))

theorem SameName.refl (a : String) : SameName a a := rfl

theorem SameName.symm {a b : String} (h : SameName a b) : SameName b a := Eq.symm h

theorem SameName.trans {a b c : String} (h : SameName a b) (g : SameName b c) : SameName a c :=
  Eq.trans h g

def digitValue (c : Char) : Nat := c.toNat - '0'.toNat

def readDigits (ds : List Char) : Nat := ds.foldl (fun n c => 10 * n + digitValue c) 0

def readNat? (ds : List Char) : Option Nat :=
  if ds ≠ [] ∧ ds.all Char.isDigit = true then some (readDigits ds) else none

def readInt? : List Char → Option Int
  | '-' :: ds => (readNat? ds).map fun n => -(n : Int)
  | '+' :: ds => (readNat? ds).map Int.ofNat
  | ds => (readNat? ds).map Int.ofNat

def int32? (n : Int) : Option Int32 :=
  if -2147483648 ≤ n ∧ n < 2147483648 then some (Int32.ofInt n) else none

def readInt32? (s : String) : Option Int32 := (readInt? s.toList).bind int32?

theorem toInt_of_int32? {n : Int} {v : Int32} (h : int32? n = some v) : v.toInt = n := by
  unfold int32? at h
  split at h
  case isTrue hn =>
    cases h
    exact Int32.toInt_ofInt_of_le hn.1 hn.2
  case isFalse => cases h

theorem int32?_toInt (v : Int32) : int32? v.toInt = some v := by
  rw [int32?, if_pos ⟨Int32.le_toInt v, Int32.toInt_lt v⟩, Int32.ofInt_toInt]

def natDigits (n : Nat) : List Char := Nat.toDigits 10 n

def intDigits : Int → List Char
  | .ofNat n => natDigits n
  | .negSucc n => '-' :: natDigits (n + 1)

def decimal (n : Int) : String := String.ofList (intDigits n)

def decimal32 (v : Int32) : String := decimal v.toInt

end XrPanel.Text
