import XrPanel.Measure
import XrPanel.Text.Word

namespace XrPanel

open Text

inductive Display where
  | integer
  | fraction (divisor : Int32)
  | height
  deriving DecidableEq

structure Slider where
  min : Int32
  max : Int32
  default : Int32
  /-- What is stored is the value times the scale. -/
  scale : Int32 := 1
  unit : String := ""
  display : Display := .integer
  deriving DecidableEq

def Slider.contains (s : Slider) (v : Int32) : Bool := s.min ≤ v && v ≤ s.max

inductive Control where
  | slider (s : Slider)
  /-- Stored as 0 or 1; every other number reads as checked. -/
  | checkbox (default : Bool)
  | choice (options : List String) (default : Int32)
  deriving DecidableEq

inductive Expected where
  | integer (min max : Int32)
  | onOff
  | oneOf (options : List String)
  deriving DecidableEq

def Expected.message : Expected → String
  | integer min max => "expected an integer between " ++ decimal32 min ++ " and " ++ decimal32 max
  | onOff => "expected on or off"
  | oneOf options => "expected one of " ++ String.intercalate ", " options

namespace Control

def asSlider? : Control → Option Slider
  | slider s => some s
  | _ => none

def kind : Control → String
  | slider _ => "slider"
  | checkbox _ => "checkbox"
  | choice .. => "choice"

def default : Control → Int32
  | slider s => s.default
  | checkbox checked => if checked then 1 else 0
  | choice _ d => d

def options : Control → List String
  | choice options _ => options
  | _ => []

def unit : Control → String
  | slider s => s.unit
  | _ => ""

def scale : Control → Int32
  | slider s => s.scale
  | _ => 1

def between (low high v : Int32) : Int32 := if v < low then low else if high < v then high else v

def lastOption (options : List String) : Int32 := max 0 (Int32.ofNat options.length - 1)

/-- The value of the control that is nearest to `v`. That the range of a slider is not empty is
asserted. -/
def clamp? : Control → Int32 → Option Int32
  | slider s, v => if s.min ≤ s.max then some (between s.min s.max v) else none
  | checkbox _, v => some (if v = 0 then 0 else 1)
  | choice options _, v => some (between 0 (lastOption options) v)

def fromStored? (c : Control) (raw : Int32) : Option Int32 := c.clamp? (Measure.fromStored raw c.scale)

def toStored (c : Control) (v : Int32) : Int32 := Measure.toStored v c.scale

def display : Control → Int32 → String
  | slider s, v =>
    match s.display with
    | .fraction divisor => Measure.fraction v divisor
    | .integer | .height => decimal32 v
  | checkbox _, v => if v = 0 then "off" else "on"
  | choice options _, v => options.getD v.toInt.toNat ""

def detail? : Control → Int32 → Option String
  | slider s, v => if s.display = .height then some (Measure.feetInches v) else none
  | _, _ => none

def checkedBy? (word : String) : Option Int32 :=
  if word ∈ ["1", "on", "true", "yes"] then some 1
  else if word ∈ ["0", "off", "false", "no"] then some 0
  else none

def optionBy? (options : List String) (word : String) : Option Int32 :=
  match readInt32? word with
  | some n => if 0 ≤ n ∧ n < Int32.ofNat options.length then some n else named
  | none => named
where
  named : Option Int32 := (options.findIdx? fun o => decide (SameName o word)).map Int32.ofNat

def parse (c : Control) (input : String) : Except Expected Int32 :=
  let word := trim input
  match c with
  | slider s => (readInt32? word).elim (.error (.integer s.min s.max)) .ok
  | checkbox _ => (checkedBy? (foldCase word)).elim (.error .onOff) .ok
  | choice options _ => (optionBy? options word).elim (.error (.oneOf options)) .ok

end Control

structure Binding where
  id : String
  /-- The name of the entry; none for a control that is derived from other entries. -/
  key : Option String
  label : String
  group : String
  control : Control
  deriving DecidableEq

namespace Binding

def default (b : Binding) : Int32 := b.control.default

def clamp? (b : Binding) (v : Int32) : Option Int32 := b.control.clamp? v

def fromStored? (b : Binding) (raw : Int32) : Option Int32 := b.control.fromStored? raw

def toStored (b : Binding) (v : Int32) : Int32 := b.control.toStored v

end Binding

end XrPanel
