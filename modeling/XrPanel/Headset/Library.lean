import XrPanel.Headset.Status
import XrPanel.Text.Utf8

namespace XrPanel

structure HeadsetRuntime where
  version : Except HeadsetError String
  status : Except HeadsetError HeadsetStatus

namespace HeadsetRuntime

def missing (reason : String) : HeadsetRuntime := ⟨.error (.unavailable reason), .error (.unavailable reason)⟩

def installed (_folder : String) : HeadsetRuntime := missing "pimax-openxr.dll is only available on Windows"

end HeadsetRuntime

structure SharedLibrary where
  name : String
  /-- Gives the bytes of the version up to a zero byte, or a null pointer. -/
  versionString : Option (Option (List UInt8))
  fillStatus : Option (HeadsetStatus → HeadsetStatus)

namespace SharedLibrary

def load (name : String) (file : Option SharedLibrary) : Except HeadsetError SharedLibrary :=
  match file with
  | some l => .ok l
  | none => .error (.unavailable ("failed to load " ++ name))

def version (l : SharedLibrary) : Except HeadsetError String :=
  match l.versionString with
  | none => .error (.missingFunction l.name "getVersionString")
  | some none => .error .noVersion
  | some (some bytes) => .ok (Text.lossyUpToZero bytes)

def status (l : SharedLibrary) : Except HeadsetError HeadsetStatus :=
  match l.fillStatus with
  | none => .error (.missingFunction l.name "getRuntimeStatus")
  | some fill => .ok (fill {})

def runtime (l : SharedLibrary) : HeadsetRuntime := ⟨l.version, l.status⟩

end SharedLibrary

end XrPanel
