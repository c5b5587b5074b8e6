import XrPanel.Text.Word

namespace XrPanel.Number

def roundEven (x : Rat) : Int :=
  let below := x.floor
  let rest := x - below
  if rest < 1 / 2 then below
  else if 1 / 2 < rest then below + 1
  else if below % 2 = 0 then below
  else below + 1

/-- The exponent `e` with `2 ^ e ≤ x < 2 ^ (e + 1)`, for a positive `x`. -/
def exponent (x : Rat) : Int :=
  let e : Int := x.num.natAbs.log2 - x.den.log2
  if (2 : Rat) ^ e ≤ x then e else e - 1

def nearest (p : Nat) (x : Rat) : Rat :=
  if x = 0 then 0
  else
    let unit := (2 : Rat) ^ (exponent x.abs - (p - 1 : Nat))
    roundEven (x / unit) * unit

/-- Rounding to the 53 digits of a double-precision number. The numbers of this library stay far
from both ends of the exponent range. -/
def double (x : Rat) : Rat := nearest 53 x

def truncate (x : Rat) : Int := x.num.tdiv x.den

open Text

def padDigits (width n : Nat) : List Char :=
  let ds := natDigits n
  List.replicate (width - ds.length) '0' ++ ds

def fixedMagnitude (places : Nat) (x : Rat) : List Char :=
  let unit := Nat.pow 10 places
  let n := (roundEven (x * unit)).toNat
  let whole := natDigits (n / unit)
  if places = 0 then whole else whole ++ '.' :: padDigits places (n % unit)

/-- The sign is written even before a magnitude that rounds to zero. -/
def fixed (places : Nat) (negative : Bool) (magnitude : Rat) : List Char :=
  if negative then '-' :: fixedMagnitude places magnitude else fixedMagnitude places magnitude

end XrPanel.Number
