import XrPanel.Number.Rounding

namespace XrPanel.Measure

open Number Text

def centimetresPerFoot : Rat := double (3048 / 100)

def centimetresPerInch : Rat := double (254 / 100)

/-- A height in feet and inches, each cut off and not rounded, computed in double precision. -/
def feetInches (cm : Int32) : String :=
  let feet := truncate (double (cm.toInt / centimetresPerFoot))
  let inches := (truncate (double (cm.toInt / centimetresPerInch))).tmod 12
  decimal feet ++ "' " ++ decimal inches ++ "''"

def dropZeros (cs : List Char) : List Char :=
  ((cs.reverse.dropWhile (· = '0')).dropWhile (· = '.')).reverse

def fraction (value divisor : Int32) : String :=
  if value = 0 ∨ divisor = 0 then "0"
  else
    let quotient := double (value.toInt / divisor.toInt)
    let text := dropZeros (fixed 2 (decide (quotient < 0)) quotient.abs)
    if text = ['-', '0'] then "0" else String.ofList text

def fromStored (raw scale : Int32) : Int32 := if scale ≤ 1 then raw else raw / scale

def clamp32 (n : Int) : Int := max (-2147483648) (min 2147483647 n)

def saturate (n : Int) : Int32 := Int32.ofInt (clamp32 n)

def toStored (value scale : Int32) : Int32 :=
  if scale ≤ 1 then value else saturate (value.toInt * scale.toInt)

end XrPanel.Measure
