import XrPanel.Number.Rounding

namespace XrPanel.Number

open Text

inductive Single where
  | nan
  | infinite (negative : Bool)
  | finite (negative : Bool) (significand : Nat) (power : Int)
  deriving DecidableEq

namespace Single

def ofBits (bits : Nat) : Single :=
  let negative := decide (bits / 2147483648 = 1)
  let biased : Nat := bits / 8388608 % 256
  let rest : Nat := bits % 8388608
  if biased = 255 then if rest = 0 then infinite negative else nan
  else if biased = 0 then finite negative rest (-149)
  else finite negative (8388608 + rest) (biased - 150)

def ofFloat (x : Float32) : Single := ofBits x.toBits.toNat

def fixed (places : Nat) : Single → List Char
  | nan => ['N', 'a', 'N']
  | infinite negative => (if negative then ['-'] else []) ++ ['i', 'n', 'f']
  | finite negative m q => Number.fixed places negative (m * 2 ^ q)

end Single

/-- The reals that round to `m * 2 ^ q` in single precision. -/
structure RoundingInterval where
  low : Rat
  high : Rat
  closed : Bool

/-- The gap below a power of two is half the gap above it, except at the least exponent. -/
def roundingInterval (m : Nat) (q : Int) : RoundingInterval :=
  let gap : Rat := 2 ^ q
  let below := if m = 8388608 ∧ q ≠ -149 then gap / 4 else gap / 2
  ⟨m * gap - below, m * gap + gap / 2, m % 2 = 0⟩

namespace RoundingInterval

def holds (i : RoundingInterval) (x : Rat) : Bool :=
  if i.closed then decide (i.low ≤ x ∧ x ≤ i.high) else decide (i.low < x ∧ x < i.high)

def gridPoint? (i : RoundingInterval) (x : Rat) (k : Int) : Option Nat :=
  let unit : Rat := 10 ^ k
  let near := (roundEven (x / unit)).toNat
  let floor := (x / unit).floor.toNat
  [near, floor, floor + 1].find? fun d => i.holds (d * unit)

end RoundingInterval

def decimalExponent (x : Rat) : Int :=
  let e : Int := (natDigits x.num.natAbs).length - (natDigits x.den).length
  if (10 : Rat) ^ e ≤ x then e else e - 1

structure Decimal where
  digits : Nat
  power : Int

def Decimal.strip : Nat → Decimal → Decimal
  | 0, d => d
  | fuel + 1, d => if d.digits ≠ 0 ∧ d.digits % 10 = 0 then strip fuel ⟨d.digits / 10, d.power + 1⟩ else d

/-- The fewest digits that read back as `m * 2 ^ q`, and of those the nearest; nine digits always
do. -/
def shortest (m : Nat) (q : Int) : Decimal :=
  let x : Rat := m * 2 ^ q
  let i := roundingInterval m q
  let e := decimalExponent x
  let found := (List.range 9).findSome? fun (n : Nat) =>
    (i.gridPoint? x (e - n)).map fun d => Decimal.mk d (e - n)
  (found.getD ⟨(roundEven (x / (10 : Rat) ^ (e - 8))).toNat, e - 8⟩).strip 10

def Decimal.text (d : Decimal) : List Char :=
  let ds := natDigits d.digits
  let point := ds.length + d.power
  if 0 ≤ d.power ∧ point ≤ 13 then ds ++ List.replicate d.power.toNat '0' ++ ['.', '0']
  else if 0 < point ∧ point ≤ 13 then ds.take point.toNat ++ '.' :: ds.drop point.toNat
  else if -6 < point ∧ point ≤ 0 then '0' :: '.' :: List.replicate (-point).toNat '0' ++ ds
  else
    ds.take 1 ++ (if ds.length = 1 then [] else '.' :: ds.drop 1) ++
      'e' :: (if 0 < point then ['+'] else []) ++ intDigits (point - 1)

def Single.shortestText? : Single → Option (List Char)
  | .finite negative m q =>
    let text := if m = 0 then ['0', '.', '0'] else (shortest m q).text
    some (if negative then '-' :: text else text)
  | _ => none

end XrPanel.Number
