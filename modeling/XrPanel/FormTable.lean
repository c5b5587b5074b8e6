import XrPanel.Control

namespace XrPanel

/-- A checkbox that opens other controls. With a sentinel it has no entry of its own: it is checked
while one of the governed entries holds a positive number other than the sentinel, and unchecking it
writes the sentinel there. -/
structure Gate where
  toggle : String
  governs : List String
  inverted : Bool := false
  sentinel : Option Int32 := none
  deriving DecidableEq

namespace Gate

def isOpen (g : Gate) (toggle : Int32) : Bool := decide (toggle ≠ 0) != g.inverted

def engagedBy (g : Gate) (raw : Int32) : Bool :=
  match g.sentinel with
  | some s => raw ≠ s && 0 < raw
  | none => true

end Gate

/-- Checkboxes of which at most one is checked, kept as one code under one name. -/
structure Exclusive where
  key : String
  none : Int32
  members : List (String × Int32)
  /-- Entries written besides whenever a member gets checked. -/
  companions : List (String × Int32)
  /-- Controls whose entries count only while no member is checked. -/
  shadowed : List String
  deriving DecidableEq

def Exclusive.codeOf? (e : Exclusive) (id : String) : Option Int32 :=
  (e.members.find? fun m => m.1 = id).map (·.2)

def Exclusive.keys (e : Exclusive) : List String := e.key :: e.companions.map (·.1)

structure FormTable where
  name : String
  title : String
  bindings : List Binding
  gates : List Gate
  exclusives : List Exclusive
  deriving DecidableEq

namespace FormTable

def binding? (t : FormTable) (id : String) : Option Binding := t.bindings.find? fun b => b.id = id

def known (t : FormTable) (ids : List String) : List Binding := ids.filterMap t.binding?

/-- Every name that the form reads, writes or deletes. -/
def ownedKeys (t : FormTable) : List String :=
  (t.bindings.filterMap (·.key) ++ t.exclusives.map (·.key) ++
    t.exclusives.flatMap fun e => e.companions.map (·.1)).eraseDups

def groups (t : FormTable) : List String := (t.bindings.map (·.group)).eraseDups

def sentinelGate? (t : FormTable) (toggle : String) : Option Gate :=
  t.gates.find? fun g => g.toggle = toggle && g.sentinel.isSome

def exclusiveOf? (t : FormTable) (member : String) : Option Exclusive :=
  t.exclusives.find? fun e => e.members.any fun m => m.1 = member

def bindingKeys (t : FormTable) (b : Binding) : List String :=
  b.key.toList ++ ((t.exclusiveOf? b.id).map Exclusive.keys).getD []

def groupKeys (t : FormTable) (group : String) : List String :=
  ((t.bindings.filter fun b => b.group = group).flatMap t.bindingKeys).eraseDups

end FormTable

end XrPanel
