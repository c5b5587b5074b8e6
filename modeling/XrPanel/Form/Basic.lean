import XrPanel.Form.Values

namespace XrPanel

inductive FormError where
  | unknownControl (form id : String)
  | disabled (id : String)
  | invalidValue (id input : String) (expected : Expected)
  | unknownGroup (form group : String)
  | unknownForm (name : String)
  | runtimeNotFound (name : String)
  | store (e : StoreError)
  deriving DecidableEq

namespace FormError

def message : FormError → String
  | unknownControl form id => "form '" ++ form ++ "' has no control named '" ++ id ++ "'"
  | disabled id => "control '" ++ id ++ "' is disabled"
  | invalidValue id input expected => "invalid value '" ++ input ++ "' for '" ++ id ++ "': " ++ expected.message
  | unknownGroup form group => "form '" ++ form ++ "' has no group named '" ++ group ++ "'"
  | unknownForm name => "unknown form '" ++ name ++ "'"
  | runtimeNotFound name => name ++ " is not installed"
  | store e => "store access failed: " ++ e.message

def causes : FormError → List String
  | store e => e.message :: e.causes
  | _ => []

end FormError

structure Form where
  table : FormTable
  path : String
  values : Values
  /-- A form that is not interactive takes no input; it can still be loaded and restored. -/
  interactive : Bool
  deriving DecidableEq

/-- Of a change that was not persisted the new value stays in the form. -/
structure Change where
  id : String
  value : Int32
  persisted : Bool
  deriving DecidableEq

/-- The form after an operation, and what the operation answers: nothing where an assertion failed on
the way. -/
structure Reply (α : Type) where
  form : Form
  result : Option (Except FormError α)

abbrev Writes := List (String × Int32)

namespace Form

open Script

def logTarget : String := "xrctl_settings::form"

def new (table : FormTable) (path : String) : Form := ⟨table, path, .defaults table, true⟩

def value (f : Form) (id : String) : Int32 := f.values.value id

def setInteractive (f : Form) (interactive : Bool) : Form := { f with interactive }

def isEnabled (f : Form) (id : String) : Bool :=
  f.interactive && (f.table.gates.filter fun g => id ∈ g.governs).all fun g => g.isOpen (f.value g.toggle)

def binding (f : Form) (id : String) : Except FormError Binding :=
  match f.table.binding? id with
  | some b => .ok b
  | none => .error (.unknownControl f.table.name id)

def valueOf (f : Form) (id : String) : Except FormError Int32 := (f.binding id).map fun b => f.value b.id

def isChecked (f : Form) (id : String) : Except FormError Bool := (f.valueOf id).map fun v => decide (v ≠ 0)

def load (f : Form) : Script (Reply Unit) := do
  match ← Snapshot.read f.path f.table.ownedKeys .empty with
  | .ok s =>
    match Values.ofSnapshot? f.table s with
    | none => pure ⟨f, none⟩
    | some values =>
      log .debug logTarget ("loaded form '" ++ f.table.name ++ "' from " ++ f.path)
      pure ⟨{ f with values }, some (.ok ())⟩
  | .error e =>
    log .warn logTarget
      ("failed to load form '" ++ f.table.name ++ "' from " ++ f.path ++ ": " ++ e.message)
    notify .storeAccess
    pure ⟨{ f with values := .defaults f.table }, some (.error (.store e))⟩

def loaded (table : FormTable) (path : String) : Script Form := do
  let r ← (new table path).load
  let _ ← assert r.result
  pure r.form

def report (path : String) (e : StoreError) : Script Unit := do
  log .warn logTarget ("store access failed for " ++ path ++ ": " ++ e.message)
  notify .storeAccess

def writeEach (path : String) : Writes → Script Bool
  | [] => pure true
  | w :: ws => do
    match ← request (.setDword path w.1 w.2) with
    | .ok _ =>
      log .debug logTarget (path ++ "\\" ++ w.1 ++ " = " ++ Text.decimal32 w.2)
      writeEach path ws
    | .error e =>
      report path e
      pure false

def writeAll (path : String) (ws : Writes) : Script Bool :=
  if ws.isEmpty then pure true
  else do
    match ← request (.ensurePath path) with
    | .ok _ => writeEach path ws
    | .error e =>
      report path e
      pure false

inductive ReadBack where
  | entries (ws : Writes)
  | unreadable
  | broken
  deriving DecidableEq

def ReadBack.cons (w : String × Int32) : ReadBack → ReadBack
  | entries ws => entries (w :: ws)
  | e => e

/-- The value that a governed control gets when its gate is checked. A stored number that engages the
gate wins over the value shown. -/
def restored? (g : Gate) (b : Binding) (vs : Values) (raw : Option Int32) : Option Int32 :=
  match raw.filter g.engagedBy with
  | some n => b.fromStored? n
  | none => some (vs.value b.id)

def readBack (path : String) (g : Gate) : List Binding → Values → Script (Values × ReadBack)
  | [], vs => pure (vs, .entries [])
  | b :: bs, vs =>
    match b.key with
    | none => readBack path g bs vs
    | some key => do
      match ← request (.getDword path key) with
      | .error e =>
        report path e
        pure (vs, .unreadable)
      | .ok raw =>
        match restored? g b vs raw with
        | none => pure (vs, .broken)
        | some v =>
          let (vs, ending) ← readBack path g bs (vs.set b.id v)
          pure (vs, ending.cons (key, b.toStored v))

def setOverride (f : Form) (g : Gate) (checked : Int32) : Script (Values × Option Bool) :=
  let governed := f.table.known g.governs
  let vs := f.values.set g.toggle checked
  if checked = 0 then do
    let ok ← writeAll f.path ((governed.filterMap (·.key)).map fun key => (key, g.sentinel.getD (-1)))
    pure (vs, ok)
  else do
    match ← readBack f.path g governed vs with
    | (vs, .broken) => pure (vs, none)
    | (vs, .unreadable) => pure (vs, some false)
    | (vs, .entries ws) =>
      let ok ← writeAll f.path ws
      pure (vs, ok)

def storedValues (vs : Values) (bs : List Binding) : Writes :=
  bs.filterMap fun b => b.key.map fun key => (key, b.toStored (vs.value b.id))

def setExclusive (f : Form) (e : Exclusive) (id : String) (checked : Int32) :
    Script (Values × Option Bool) :=
  if checked = 0 then
    let vs := f.values.set id 0
    if f.value id = 0 then pure (vs, some true)
    else do
      let ok ← writeAll f.path ((e.key, e.none) :: storedValues vs (f.table.known e.shadowed))
      pure (vs, ok)
  else do
    let vs := (e.members.foldl (fun vs m => vs.set m.1 0) f.values).set id 1
    let ok ← writeAll f.path ((e.key, (e.codeOf? id).getD e.none) :: e.companions)
    pure (vs, ok)

def setPlain (f : Form) (b : Binding) (v : Int32) : Script (Values × Option Bool) := do
  let ok ← writeAll f.path (b.key.toList.map fun key => (key, b.toStored v))
  pure (f.values.set b.id v, ok)

def apply (f : Form) (b : Binding) (v : Int32) : Script (Values × Option Bool) :=
  match f.table.sentinelGate? b.id, f.table.exclusiveOf? b.id with
  | some g, _ => f.setOverride g v
  | none, some e => f.setExclusive e b.id v
  | none, none => f.setPlain b v

def set (f : Form) (id : String) (v : Int32) : Script (Reply Change) :=
  match f.binding id with
  | .error e => pure ⟨f, some (.error e)⟩
  | .ok b =>
    if f.isEnabled b.id then
      match b.clamp? v with
      | none => pure ⟨f, none⟩
      | some v => do
        let (values, persisted) ← f.apply b v
        pure ⟨{ f with values }, persisted.map fun p => .ok ⟨b.id, values.value b.id, p⟩⟩
    else pure ⟨f, some (.error (.disabled b.id))⟩

def setText (f : Form) (id input : String) : Script (Reply Change) :=
  match f.binding id with
  | .error e => pure ⟨f, some (.error e)⟩
  | .ok b =>
    match b.control.parse input with
    | .ok v => f.set id v
    | .error expected => pure ⟨f, some (.error (.invalidValue b.id input expected))⟩

def deleteKeys (path : String) : List String → Script Unit
  | [] => pure ()
  | key :: keys => do
    match ← request (.deleteValue path key) with
    | .ok _ => deleteKeys path keys
    | .error e =>
      log .debug logTarget ("ignoring failed delete of " ++ path ++ "\\" ++ key ++ ": " ++ e.message)
      deleteKeys path keys

def restoreDefaults (f : Form) : Script (Reply Unit) := do
  log .info logTarget ("restoring defaults of form '" ++ f.table.name ++ "'")
  deleteKeys f.path f.table.ownedKeys
  f.load

def restoreGroup (f : Form) (group : String) : Script (Reply Unit) :=
  if group ∈ f.table.groups then do
    log .info logTarget ("restoring group '" ++ group ++ "' of form '" ++ f.table.name ++ "'")
    deleteKeys f.path (f.table.groupKeys group)
    f.load
  else pure ⟨f, some (.error (.unknownGroup f.table.name group))⟩

end Form

end XrPanel
