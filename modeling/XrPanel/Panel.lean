import XrPanel.Form.Basic
import XrPanel.Panel.Pimax
import XrPanel.Panel.VirtualDesktop

namespace XrPanel

inductive Product where
  | virtualDesktop
  | pimax
  deriving DecidableEq

inductive Deployment where
  | bundled
  | standalone
  deriving DecidableEq

def Product.path : Product → Deployment → String
  | .virtualDesktop, .bundled => "SOFTWARE\\Virtual Desktop, Inc.\\OpenXR"
  | .virtualDesktop, .standalone => "SOFTWARE\\VirtualDesktop-OpenXR"
  | .pimax, _ => "SOFTWARE\\PimaxXR"

inductive Panel where
  | advanced
  | offsets
  | companion
  | experimental
  deriving DecidableEq

namespace Panel

def all : List Panel := [advanced, offsets, companion, experimental]

def table : Panel → FormTable
  | advanced => VirtualDesktop.advanced
  | offsets => VirtualDesktop.offsets
  | companion => Pimax.companion
  | experimental => Pimax.experimental

def product : Panel → Product
  | advanced | offsets => .virtualDesktop
  | companion | experimental => .pimax

def name (p : Panel) : String := p.table.name

def path (p : Panel) (d : Deployment) : String := p.product.path d

def parse (s : String) : Except FormError Panel :=
  match all.find? fun p => decide (Text.SameName p.name (Text.trim s)) with
  | some p => .ok p
  | none => .error (.unknownForm s)

def openForm (p : Panel) (d : Deployment) : Script Form := Form.loaded p.table (p.path d)

end Panel

end XrPanel
