import XrPanel.FormTable

namespace XrPanel

inductive TableFault where
  | duplicate (id : String)
  | defaultOutOfRange (id : String)
  | malformedSlider (id : String)
  | unknownToggle (id : String)
  | unknownGoverned (id : String)
  | sentinelKeys (toggle : String)
  | keyedMember (id : String)
  | unknownShadowed (id : String)
  | noSource (id : String)
  deriving DecidableEq

def TableFault.message : TableFault → String
  | duplicate id => "duplicate control '" ++ id ++ "'"
  | defaultOutOfRange id => "default of '" ++ id ++ "' is out of range"
  | malformedSlider id => "slider '" ++ id ++ "' is malformed"
  | unknownToggle id => "gate toggle '" ++ id ++ "' is not a control"
  | unknownGoverned id => "gate governs unknown control '" ++ id ++ "'"
  | sentinelKeys toggle => "sentinel gate '" ++ toggle ++ "' needs a keyless toggle and keyed controls"
  | keyedMember id => "exclusive member '" ++ id ++ "' must be a keyless control"
  | unknownShadowed id => "exclusive group shadows unknown control '" ++ id ++ "'"
  | noSource id => "keyless control '" ++ id ++ "' has no source"

namespace FormTable

def knows (t : FormTable) (id : String) : Bool := (t.binding? id).isSome

def hasKey (t : FormTable) (id : String) : Bool := ((t.binding? id).bind (·.key)).isSome

def hasNoKey (t : FormTable) (id : String) : Bool :=
  match t.binding? id with
  | some b => b.key.isNone
  | none => false

/-- The fault of a binding after those with the ids `seen`. The range of a slider is looked at last,
after its default has been clamped to it. -/
def bindingFault? (seen : List String) (b : Binding) : Option (Option TableFault) :=
  if b.id ∈ seen then some (some (.duplicate b.id))
  else (b.clamp? b.default).map fun v =>
    if v ≠ b.default then some (.defaultOutOfRange b.id)
    else match b.control with
      | .slider s => if s.max < s.min ∨ s.scale < 1 then some (.malformedSlider b.id) else none
      | _ => none

def bindingsFault? (seen : List String) : List Binding → Option (Option TableFault)
  | [] => some none
  | b :: bs =>
    match bindingFault? seen b with
    | some none => bindingsFault? (b.id :: seen) bs
    | other => other

def gateFault? (t : FormTable) (g : Gate) : Option TableFault :=
  if !t.knows g.toggle then some (.unknownToggle g.toggle)
  else match g.governs.find? fun id => !t.knows id with
    | some id => some (.unknownGoverned id)
    | none =>
      if g.sentinel.isSome && (t.hasKey g.toggle || g.governs.any fun id => !t.hasKey id) then
        some (.sentinelKeys g.toggle)
      else none

def exclusiveFault? (t : FormTable) (e : Exclusive) : Option TableFault :=
  match e.members.find? fun m => !t.hasNoKey m.1 with
  | some m => some (.keyedMember m.1)
  | none => (e.shadowed.find? fun id => !t.knows id).map .unknownShadowed

def sourceFault? (t : FormTable) (b : Binding) : Option TableFault :=
  if b.key.isNone && (t.sentinelGate? b.id).isNone && (t.exclusiveOf? b.id).isNone then
    some (.noSource b.id)
  else none

def validate? (t : FormTable) : Option (Option TableFault) :=
  (bindingsFault? [] t.bindings).map fun fault =>
    fault <|> t.gates.findSome? t.gateFault? <|> t.exclusives.findSome? t.exclusiveFault? <|>
      t.bindings.findSome? t.sourceFault?

end FormTable

end XrPanel
