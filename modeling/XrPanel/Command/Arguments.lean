import XrPanel.Command.Basic

namespace XrPanel.Arguments

inductive Usage where
  | malformed
  | help
  deriving DecidableEq

def Usage.exitCode : Usage → UInt32
  | .malformed => 2
  | .help => 0

structure Given where
  standalone : Bool := false
  storeFile : Option String := none
  noElevate : Bool := false
  json : Bool := false
  installDir : Option String := none
  group : Option String := none
  operands : List String := []
  operandsOnly : Bool := false
  deriving DecidableEq

inductive Operand where
  | panel
  | runtime
  | text
  | value
  deriving DecidableEq

def panel? (s : String) : Option Panel := (Panel.parse s).toOption

def runtime? (s : String) : Option RuntimeChoice :=
  if s = "pimax" then some .pimaxXr else if s = "steamvr" then some .steamVr else none

def Operand.accepts (o : Operand) (s : String) : Bool :=
  match o with
  | panel => (panel? s).isSome
  | runtime => (runtime? s).isSome
  | text | value => true

structure Level where
  operands : List Operand := []
  group : Bool := false
  commands : List String := []
  deriving DecidableEq

inductive Word where
  | doubleHyphen
  | long (name : List Char) (value : Option (List Char))
  | short (letters : List Char)
  | plain
  deriving DecidableEq

def wordOf (a : String) : Word :=
  match a.toList with
  | ['-', '-'] => .doubleHyphen
  | '-' :: '-' :: cs =>
    .long (cs.takeWhile (· ≠ '=')) (if '=' ∈ cs then some ((cs.dropWhile (· ≠ '=')).drop 1) else none)
  | '-' :: c :: cs => .short (c :: cs)
  | _ => .plain

def Given.flag? (g : Given) (name : String) : Option (Except Usage Given) :=
  match name with
  | "standalone" => some (if g.standalone then .error .malformed else .ok { g with standalone := true })
  | "no-elevate" => some (if g.noElevate then .error .malformed else .ok { g with noElevate := true })
  | "json" => some (if g.json then .error .malformed else .ok { g with json := true })
  | _ => none

def Given.option? (g : Given) (l : Level) (name : String) : Option (String → Except Usage Given) :=
  match name with
  | "store-file" => some fun v =>
    if g.storeFile.isSome || v = "" then .error .malformed else .ok { g with storeFile := some v }
  | "install-dir" => some fun v =>
    if g.installDir.isSome || v = "" then .error .malformed else .ok { g with installDir := some v }
  | "group" =>
    if l.group then
      some fun v => if g.group.isSome then .error .malformed else .ok { g with group := some v }
    else none
  | _ => none

def Given.next? (g : Given) (l : Level) : Option Operand := l.operands[g.operands.length]?

def Given.operand (g : Given) (l : Level) (a : String) : Except Usage Given :=
  if (g.next? l).any (·.accepts a) then .ok { g with operands := g.operands ++ [a] }
  else .error .malformed

def Given.takesHyphen (g : Given) (l : Level) : Bool := g.next? l = some .value

def Level.knowsLetter (l : Level) (c : Char) : Bool := c = 'h' || (l.group && c = 'g')

def Given.knows (g : Given) (l : Level) (name : String) : Bool :=
  name = "help" || (g.flag? name).isSome || (g.option? l name).isSome

/-- Whether an argument is an operand or the value of the option before it: it begins with a hyphen
only where the next operand may, and then names no option. -/
def Given.takesPlain (g : Given) (l : Level) (a : String) : Bool :=
  match wordOf a with
  | .plain => true
  | .doubleHyphen => false
  | .long name _ => g.takesHyphen l && !g.knows l (String.ofList name)
  | .short letters => g.takesHyphen l && !letters.all l.knowsLetter

inductive Role where
  | given (g : Given)
  | awaiting (give : String → Except Usage Given)
  | command

def attached (give : String → Except Usage Given) : List Char → Except Usage Role
  | [] => .ok (.awaiting give)
  | '=' :: v => (give (String.ofList v)).map .given
  | v => (give (String.ofList v)).map .given

def longRole (l : Level) (g : Given) (name : String) (value : Option (List Char)) : Except Usage Role :=
  match g.flag? name, g.option? l name with
  | some flag, _ => if value.isSome then .error .malformed else flag.map .given
  | none, some give =>
    match value with
    | some v => (give (String.ofList v)).map .given
    | none => .ok (.awaiting give)
  | none, none => .error (if name = "help" ∧ value.isNone then .help else .malformed)

def shortRole (l : Level) (g : Given) : List Char → Except Usage Role
  | 'h' :: _ => .error .help
  | 'g' :: v =>
    match g.option? l "group" with
    | some give => attached give v
    | none => .error .malformed
  | _ => .error .malformed

def role (l : Level) (g : Given) (a : String) : Except Usage Role :=
  if g.operandsOnly then (g.operand l a).map .given
  else if a ∈ l.commands then .ok .command
  else if g.takesPlain l a then (g.operand l a).map .given
  else match wordOf a with
    | .doubleHyphen => .ok (.given { g with operandsOnly := true })
    | .long name value => longRole l g (String.ofList name) value
    | .short letters => shortRole l g letters
    | .plain => .error .malformed

def readLevel (l : Level) : Given → List String → Except Usage (Given × Option (String × List String))
  | g, [] => .ok (g, none)
  | g, a :: rest =>
    match role l g a with
    | .error e => .error e
    | .ok .command => .ok (g, some (a, rest))
    | .ok (.given g) => readLevel l g rest
    | .ok (.awaiting give) =>
      match rest with
      | [] => .error .malformed
      | v :: rest =>
        if g.takesPlain l v then
          match give v with
          | .error e => .error e
          | .ok g => readLevel l g rest
        else .error .malformed

def bool? (s : String) : Option Bool :=
  if s = "true" then some true else if s = "false" then some false else none

/-- A variable is read at every level where its option is not given, and has to be right there. -/
def environmentFits (env : Environment) (g : Given) : Bool :=
  (g.standalone || env.standalone.all fun s => (bool? s).isSome) &&
    (g.storeFile.isSome || env.storeFile ≠ some "") && (g.installDir.isSome || env.installDir ≠ some "")

/-- Of options given at several levels the innermost counts. -/
def innermost {α : Type} (xs : List (Option α)) : Option α := xs.foldl (fun outer x => x <|> outer) none

def assemble (env : Environment) (levels : List Given) (command : Command) : Except Usage Invocation :=
  if levels.all (environmentFits env) then
    .ok {
      standalone := levels.any (·.standalone) || (env.standalone.bind bool?).getD false
      storeFile := innermost (levels.map (·.storeFile)) <|> env.storeFile
      noElevate := levels.any (·.noElevate)
      json := levels.any (·.json)
      installDir := innermost (levels.map (·.installDir)) <|> env.installDir
      command }
  else .error .malformed

def root : Level := { commands := ["show", "set", "reset", "runtime", "version", "help"] }

def runtime : Level := { commands := ["status", "active", "select", "help"] }

def commandLevel (name : String) : Level :=
  match name with
  | "show" => { operands := [.panel] }
  | "set" => { operands := [.panel, .text, .value] }
  | "reset" => { operands := [.panel], group := true }
  | _ => {}

def command? (name : String) (g : Given) : Option Command :=
  match name, g.operands with
  | "show", [panel] => (panel? panel).map .view
  | "set", [panel, control, value] => (panel? panel).map fun p => .change p control value
  | "reset", [panel] => (panel? panel).map fun p => .reset p g.group
  | "version", [] => some .version
  | _, _ => none

def runtimeCommandLevel (name : String) : Level :=
  match name with
  | "select" => { operands := [.runtime] }
  | _ => {}

def runtimeCommand? (name : String) (g : Given) : Option Command :=
  match name, g.operands with
  | "status", [] => some .status
  | "active", [] => some .active
  | "select", [choice] => (runtime? choice).map .select
  | _, _ => none

def helpAmong (l : Level) : List String → Usage
  | [] => .help
  | [name] => if name ∈ l.commands then .help else .malformed
  | _ => .malformed

def helpOn : List String → Usage
  | "runtime" :: names => helpAmong runtime names
  | names => helpAmong root names

def finish (env : Environment) (outer : List Given) (l : Level) (command? : Given → Option Command)
    (args : List String) : Except Usage Invocation := do
  let (g, _) ← readLevel l {} args
  match command? g with
  | some c => assemble env (outer ++ [g]) c
  | none => .error .malformed

def parse (env : Environment) (args : List String) : Except Usage Invocation := do
  match ← readLevel root {} args with
  | (_, none) => .error .malformed
  | (_, some ("help", names)) => .error (helpOn names)
  | (g, some ("runtime", rest)) =>
    match ← readLevel runtime {} rest with
    | (_, none) => .error .malformed
    | (_, some ("help", names)) => .error (helpAmong runtime names)
    | (h, some (name, rest)) => finish env [g, h] (runtimeCommandLevel name) (runtimeCommand? name) rest
  | (g, some (name, rest)) => finish env [g] (commandLevel name) (command? name) rest

end XrPanel.Arguments
