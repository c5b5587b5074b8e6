import XrPanel.Form.Basic
import XrPanel.Json
import XrPanel.Script

namespace XrPanel

open Text

inductive ActiveRuntime where
  | pimaxXr
  | steamVr
  | other (manifest : String)
  | none
  deriving DecidableEq

namespace ActiveRuntime

def classify (manifest : Option String) (pimax : String) (steamVr : Option String) : ActiveRuntime :=
  match manifest.map trim with
  | .none => none
  | some m =>
    if m = "" then none
    else if SameName m pimax then pimaxXr
    else if steamVr.any fun s => decide (SameName m s) then ActiveRuntime.steamVr
    else other m

def text : ActiveRuntime → String
  | pimaxXr => "PimaxXR"
  | steamVr => "SteamVR"
  | other manifest => "unknown (" ++ manifest ++ ")"
  | none => "none"

def json : ActiveRuntime → Json
  | pimaxXr => .object [("runtime", .string "pimaxxr")]
  | steamVr => .object [("runtime", .string "steamvr")]
  | other manifest => .object [("runtime", .string "other"), ("manifest", .string manifest)]
  | none => .object [("runtime", .string "none")]

end ActiveRuntime

inductive RuntimeChoice where
  | pimaxXr
  | steamVr
  deriving DecidableEq

/-- A file in a folder of the machine that the settings are for; the folder may end in separators. -/
def joinPath (folder file : String) : String :=
  String.ofList (folder.toList.reverse.dropWhile fun c => c = '\\' || c = '/').reverse ++ "\\" ++ file

def khronosPath : String := "SOFTWARE\\Khronos\\OpenXR\\1"

def khronosPath32 : String := "SOFTWARE\\WOW6432Node\\Khronos\\OpenXR\\1"

def activeRuntimeName : String := "ActiveRuntime"

def steamPath : String := "SOFTWARE\\WOW6432Node\\Valve\\Steam"

def installPathName : String := "InstallPath"

def steamVrManifest : String := "steamapps\\common\\SteamVR\\steamxr_win64.json"

structure RuntimeSelector where
  installDir : String
  isFile : String → Bool

namespace RuntimeSelector

open Script

def logTarget : String := "xrctl_settings::runtime_select"

def pimaxManifest (s : RuntimeSelector) : String := joinPath s.installDir "pimax-openxr.json"

def pimaxManifest32 (s : RuntimeSelector) : String := joinPath s.installDir "pimax-openxr-32.json"

def locateSteamVr (s : RuntimeSelector) : Script (Except StoreError (Option String)) := do
  match ← request (.getString steamPath installPathName) with
  | .error e => pure (.error e)
  | .ok folder => pure (.ok ((folder.map (joinPath · steamVrManifest)).filter s.isFile))

def active (s : RuntimeSelector) : Script (Except StoreError ActiveRuntime) := do
  match ← request (.getString khronosPath activeRuntimeName) with
  | .error e => pure (.error e)
  | .ok manifest =>
    match ← s.locateSteamVr with
    | .error e => pure (.error e)
    | .ok steamVr => pure (.ok (.classify manifest s.pimaxManifest steamVr))

def perform : List Request → Script (Except StoreError Unit)
  | [] => pure (.ok ())
  | r :: rs => do
    match ← request r with
    | .error e => pure (.error e)
    | .ok _ => perform rs

def pimaxRequests (s : RuntimeSelector) : List Request :=
  [.ensurePath khronosPath, .setString khronosPath activeRuntimeName s.pimaxManifest,
    .ensurePath khronosPath32, .setString khronosPath32 activeRuntimeName s.pimaxManifest32]

/-- What is asked of the store to make SteamVR the active runtime, which has no 32-bit manifest. -/
def steamVrRequests (manifest : String) : List Request :=
  [.ensurePath khronosPath, .setString khronosPath activeRuntimeName manifest,
    .deleteValue khronosPath32 activeRuntimeName]

def selectBy (name : String) (rs : List Request) : Script (Except FormError Unit) := do
  match ← perform rs with
  | .error e => pure (.error (.store e))
  | .ok _ =>
    log .info logTarget ("selected " ++ name ++ " as the active OpenXR runtime")
    pure (.ok ())

def select (s : RuntimeSelector) : RuntimeChoice → Script (Except FormError Unit)
  | .pimaxXr => selectBy "PimaxXR" s.pimaxRequests
  | .steamVr => do
    match ← s.locateSteamVr with
    | .error e => pure (.error (.store e))
    | .ok none => pure (.error (.runtimeNotFound "SteamVR"))
    | .ok (some manifest) => selectBy "SteamVR" (steamVrRequests manifest)

def unidentified (manifest : String) : Script Bool := do
  log .warn logTarget ("unidentified OpenXR runtime: '" ++ manifest ++ "'")
  notify (.error ("Unable to identify the active OpenXR runtime: " ++ manifest))
  pure false

def pimaxIsActive (s : RuntimeSelector) : Script Bool := do
  match ← s.active with
  | .ok .pimaxXr => pure true
  | .ok .steamVr => pure false
  | .ok (.other manifest) => unidentified manifest
  | .ok .none => unidentified ""
  | .error e =>
    log .warn logTarget ("failed to read the active OpenXR runtime: " ++ e.message)
    notify .storeAccess
    pure false

end RuntimeSelector

end XrPanel
