import XrPanel.Form.Basic
import XrPanel.Json
import XrPanel.Text.Hidden

namespace XrPanel

structure ControlView where
  id : String
  label : String
  group : String
  kind : String
  key : Option String
  value : Int32
  display : String
  detail : Option String
  unit : String
  enabled : Bool
  options : List String
  deriving DecidableEq

structure FormReport where
  form : String
  title : String
  path : String
  interactive : Bool
  controls : List ControlView
  deriving DecidableEq

namespace Form

def viewOf (f : Form) (b : Binding) : ControlView :=
  let v := f.value b.id
  { id := b.id, label := b.label, group := b.group, kind := b.control.kind, key := b.key, value := v
    display := b.control.display v, detail := b.control.detail? v, unit := b.control.unit
    enabled := f.isEnabled b.id, options := b.control.options }

def view (f : Form) (id : String) : Except FormError ControlView := (f.binding id).map f.viewOf

def controls (f : Form) : List ControlView := f.table.bindings.map f.viewOf

def shown (f : Form) : FormReport := ⟨f.table.name, f.table.title, f.path, f.interactive, f.controls⟩

def diagnostic (f : Form) : String :=
  let values := f.values.entries.map fun e => Text.literal e.1 ++ ": " ++ Text.decimal32 e.2
  "Form \x7b table: " ++ Text.literal f.table.name ++ ", namespace: " ++ Text.literal f.path ++
    ", state: FormState \x7b values: \x7b" ++ String.intercalate ", " values ++ "\x7d \x7d, interactive: " ++
    (if f.interactive then "true" else "false") ++ " \x7d"

end Form

namespace ControlView

def json (v : ControlView) : Json :=
  .object ([("id", .string v.id), ("label", .string v.label), ("group", .string v.group),
    ("kind", .string v.kind), ("key", v.key.elim .null .string), ("value", .int v.value.toInt),
    ("display", .string v.display)] ++
    (v.detail.map fun d => ("detail", Json.string d)).toList ++
    [("unit", .string v.unit), ("enabled", .bool v.enabled), ("options", .array (v.options.map .string))])

def valueText (v : ControlView) : String :=
  v.display ++ (if v.unit = "" then "" else " " ++ v.unit) ++ (v.detail.elim "" fun d => " (" ++ d ++ ")")

def line (width : Nat) (v : ControlView) : String :=
  "  " ++ v.id ++ String.ofList (List.replicate (width - v.id.length) ' ') ++ "  " ++ v.valueText ++
    (if v.enabled then "" else "  (disabled)") ++ "\n"

end ControlView

namespace FormReport

def json (r : FormReport) : Json :=
  .object [("form", .string r.form), ("title", .string r.title), ("namespace", .string r.path),
    ("interactive", .bool r.interactive), ("controls", .array (r.controls.map ControlView.json))]

def width (r : FormReport) : Nat := (r.controls.map fun v => v.id.utf8ByteSize).foldl max 0

def lines (width : Nat) (group : String) : List ControlView → String
  | [] => ""
  | v :: vs =>
    (if v.group = group then "" else "\n" ++ v.group ++ ":\n") ++ v.line width ++ lines width v.group vs

def text (r : FormReport) : String :=
  r.title ++ " [" ++ r.path ++ "]\n" ++ (if r.interactive then "" else "(read-only)\n") ++
    lines r.width "" r.controls

end FormReport

def Change.json (c : Change) : Json :=
  .object [("id", .string c.id), ("value", .int c.value.toInt), ("persisted", .bool c.persisted)]

end XrPanel
