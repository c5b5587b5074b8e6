import XrPanel.Command.Arguments
import XrPanel.Command.Run
import XrPanel.Store.FilePath

namespace XrPanel

namespace MachineDrive

def faultOf : IO.Error → DriveFault
  | .noFileOrDirectory .. => .notFound
  | .permissionDenied .. => .denied
  | e => .other (toString e)

def attempt {α : Type} (act : IO α) : IO (Except DriveFault α) := do
  match ← act.toBaseIO with
  | .ok a => return .ok a
  | .error e => return .error (faultOf e)

def isFile (path : String) : IO Bool := do
  let data ← (← IO.FS.realPath path).metadata
  return data.type == .file

def stage (path : String) : IO String := do
  let name := ".tmp" ++ toString (← IO.rand 100000 999999)
  let name := FilePath.within (← IO.currentDir).toString (FilePath.parent path) name
  let file ← IO.FS.Handle.mk name .writeNew
  file.flush
  return name

end MachineDrive

open MachineDrive in
def machineDrive : Drive IO where
  read path := attempt (IO.FS.readBinFile path)
  isFile path := return (← attempt (isFile path)).toOption.getD false
  createParents path :=
    if FilePath.parent path = "" then return .ok () else attempt (IO.FS.createDirAll (FilePath.parent path))
  stage path := attempt (stage path)
  fill staged bytes := attempt (IO.FS.writeBinFile staged bytes)
  rename staged path := attempt (IO.FS.rename staged path)
  discard staged := do let _ ← attempt (IO.FS.removeFile staged)

def logLimit (asked : Option String) : LogLevel :=
  let levels : List LogLevel := [.error, .warn, .info, .debug, .trace]
  (asked.bind fun s => levels.find? fun l => decide (Text.SameName l.label s)).getD Outcome.defaultLevel

def usage : String :=
  "Usage: xrctl [--standalone] [--store-file PATH] [--no-elevate] [--json] [--install-dir DIR] COMMAND

Commands:
  show FORM
  set FORM CONTROL VALUE
  reset FORM [--group GROUP]
  runtime status
  runtime active
  runtime select pimax|steamvr
  version
"

def runProgram (args : List String) : IO UInt32 := do
  let env : Environment := {
    standalone := ← IO.getEnv "XRCTL_STANDALONE"
    storeFile := ← IO.getEnv "XRCTL_STORE_FILE"
    installDir := ← IO.getEnv "XRCTL_INSTALL_DIR" }
  match Arguments.parse env args with
  | .error u =>
    match u with
    | .help => IO.print usage
    | .malformed => IO.eprint usage
    return u.exitCode
  | .ok i =>
    let t ← i.run machineDrive (← IO.appDir).toString
    let o := Outcome.ofTranscript (logLimit (← IO.getEnv "RUST_LOG")) t
    IO.print o.stdout
    IO.eprint o.stderr
    return o.code

end XrPanel

def main (args : List String) : IO UInt32 := XrPanel.runProgram args
