import XrPanel.Command.Basic
import XrPanel.Elevation
import XrPanel.Form.View
import XrPanel.Headset.Library
import XrPanel.Store.File

namespace XrPanel

structure Failure where
  message : String
  causes : List String := []
  deriving DecidableEq

namespace Failure

def ofStore (e : StoreError) : Failure := ⟨e.message, e.causes⟩

def ofForm (e : FormError) : Failure := ⟨e.message, e.causes⟩

def indented (margin : String) (s : String) : String :=
  String.intercalate ("\n" ++ margin) (s.splitOn "\n")

def numbered (n : Nat) : List String → List String
  | [] => []
  | c :: cs =>
    let number := String.ofList (Nat.toDigits 10 n)
    let margin := String.ofList (List.replicate (5 - number.length) ' ')
    (margin ++ number ++ ": " ++ indented "       " c) :: numbered (n + 1) cs

def causeLines : List String → List String
  | [c] => ["    " ++ indented "    " c]
  | cs => numbered 0 cs

def text (f : Failure) : String :=
  "Error: " ++ f.message ++
    (if f.causes = [] then ""
    else "\n\nCaused by:\n" ++ String.intercalate "\n" (causeLines f.causes)) ++ "\n"

end Failure

structure Session where
  deployment : Deployment
  json : Bool
  selector : RuntimeSelector

namespace Session

open Script

def printLine (s : String) : Script Unit := print (s ++ "\n")

def openForm (s : Session) (p : Panel) : Script Form := do
  let form ← p.openForm s.deployment
  if p = .companion then
    let active ← s.selector.pimaxIsActive
    pure (form.setInteractive active)
  else pure form

def printForm (s : Session) (f : Form) : Script Unit :=
  if s.json then printLine f.shown.json.pretty else print f.shown.text

def printChange (s : Session) (f : Form) (c : Change) : Script Unit :=
  if s.json then printLine c.json.pretty
  else match f.view c.id with
    | .ok v => printLine (v.id ++ " = " ++ v.display)
    | .error _ => pure ()

def view (s : Session) (p : Panel) : Script (Except Failure Unit) := do
  let form ← s.openForm p
  s.printForm form
  pure (.ok ())

def change (s : Session) (p : Panel) (control value : String) : Script (Except Failure Unit) := do
  let form ← s.openForm p
  let r ← form.setText control value
  match ← assert r.result with
  | .error e => pure (.error (.ofForm e))
  | .ok c =>
    s.printChange r.form c
    if c.persisted then pure (.ok ())
    else pure (.error { message := "'" ++ c.id ++ "' was changed but could not be saved" })

def reset (s : Session) (p : Panel) (group : Option String) : Script (Except Failure Unit) := do
  let form ← s.openForm p
  let r ← match group with
    | some g => form.restoreGroup g
    | none => form.restoreDefaults
  match ← assert r.result with
  | .error e => pure (.error (.ofForm e))
  | .ok _ =>
    s.printForm r.form
    pure (.ok ())

def status (s : Session) : Script (Except Failure Unit) := do
  let runtime := HeadsetRuntime.installed s.selector.installDir
  match runtime.version, runtime.status with
  | .error e, _ => pure (.error { message := e.message })
  | _, .error e => pure (.error { message := e.message })
  | .ok version, .ok status =>
    printLine ("PimaxXR " ++ version)
    printLine status.text
    pure (.ok ())

def active (s : Session) : Script (Except Failure Unit) := do
  match ← s.selector.active with
  | .error e => pure (.error (.ofStore e))
  | .ok a =>
    printLine (if s.json then a.json.pretty else a.text)
    pure (.ok ())

def select (s : Session) (choice : RuntimeChoice) : Script (Except Failure Unit) := do
  match ← s.selector.select choice with
  | .error e =>
    match e with
    | .store _ => notify .storeAccess
    | _ => pure ()
    pure (.error (.ofForm e))
  | .ok _ =>
    match ← s.selector.active with
    | .error e => pure (.error (.ofStore e))
    | .ok a =>
      printLine a.text
      pure (.ok ())

end Session

def programVersion : String := "xrctl 0.1.0"

def announce : Script (Except Failure Unit) := do
  Session.printLine programVersion
  pure (.ok ())

def Command.script (s : Session) : Command → Script (Except Failure Unit)
  | .view p => s.view p
  | .change p control value => s.change p control value
  | .reset p group => s.reset p group
  | .status => s.status
  | .active => s.active
  | .select choice => s.select choice
  | .version => announce

namespace Invocation

/-- The one file whose existence a command can ask for. -/
def steamVrCandidate? (h : Hive) : Option String :=
  match h.getString steamPath installPathName with
  | .ok folder => folder.map (joinPath · steamVrManifest)
  | .error _ => none

def opening (path : String) : Script Unit := do
  Script.log .debug "xrctl_store::file" ("opened file store at " ++ path)
  Script.log .debug "xrctl" "using file store"

def runOn {m : Type → Type} [Monad m] (drive : Drive m) (i : Invocation) (installDir : String)
    (store : FileStore) : m (Transcript (Except Failure Unit)) := do
  let candidate := steamVrCandidate? store.hive
  let there ← match candidate with
    | some path => drive.isFile path
    | none => pure false
  let session : Session :=
    ⟨i.deployment, i.json, ⟨installDir, fun path => there && candidate = some path⟩⟩
  let (t, _) ← ((do opening store.path; i.command.script session).run (fileStore drive)).run store
  pure t

def needsElevation (i : Invocation) (elevated : Bool) : Bool :=
  i.command.writesStore && i.storeFile.isNone && !i.noElevate && !elevated

def failed (f : Failure) : Transcript (Except Failure Unit) := ⟨some (.error f), []⟩

/-- Runs an invocation. Without a folder given, the manifests lie beside the program. -/
def run {m : Type → Type} [Monad m] (drive : Drive m) (programDir : String) (i : Invocation) :
    m (Transcript (Except Failure Unit)) :=
  if i.needsElevation Elevation.isElevated then
    pure (failed { message := Elevation.ElevationError.unsupported.message })
  else match i.command, i.storeFile with
    | .version, _ => announce.run Store.missing
    | _, none => pure (failed (.ofStore registryUnavailable))
    | _, some path => do
      match ← FileStore.openAt drive path with
      | .error e => pure (failed ⟨"failed to open " ++ path, e.message :: e.causes⟩)
      | .ok store => i.runOn drive (i.installDir.getD programDir) store

end Invocation

structure Outcome where
  code : UInt32
  stdout : String
  stderr : String
  deriving DecidableEq

namespace Outcome

def outText : Event → String
  | .output s => s
  | _ => ""

def errText (limit : Option LogLevel) : Event → String
  | .notice n => n.text ++ "\n"
  | .log l => if limit.any l.shownAt then l.text ++ "\n" else ""
  | .output _ => ""

def ofTranscript (limit : Option LogLevel) (t : Transcript (Except Failure Unit)) : Outcome :=
  let out := String.join (t.events.map outText)
  let err := String.join (t.events.map (errText limit))
  match t.result with
  | some (.ok _) => ⟨0, out, err⟩
  | some (.error f) => ⟨1, out, err ++ f.text⟩
  | none => ⟨101, out, err⟩

def defaultLevel : LogLevel := .warn

end Outcome

end XrPanel
