import XrPanel.Json

namespace XrPanel

inductive HeadsetError where
  | unavailable (reason : String)
  | missingFunction (library name : String)
  | noVersion
  deriving DecidableEq

def HeadsetError.message : HeadsetError → String
  | .unavailable reason => "runtime unavailable: " ++ reason
  | .missingFunction library name => "runtime library error: " ++ library ++ ": no function " ++ name
  | .noVersion => "runtime library error: failed to query version"

structure HeadsetStatus where
  valid : Bool := false
  refreshRate : Float32 := 0
  resolutionWidth : UInt32 := 0
  resolutionHeight : UInt32 := 0
  fovLevel : UInt8 := 0
  fov : Float32 := 0
  floorHeight : Float32 := 0
  useParallelProjection : Bool := false
  useSmartSmoothing : Bool := false
  useLighthouseTracking : Bool := false
  fps : Float32 := 0

namespace HeadsetStatus

open Text

def fixed (places : Nat) (x : Float32) : String := String.ofList ((Number.Single.ofFloat x).fixed places)

def count (n : Nat) : String := String.ofList (natDigits n)

def yesNo (b : Bool) : String := if b then "yes" else "no"

def text (s : HeadsetStatus) : String :=
  if s.valid then String.intercalate "\n" [
    "Resolution:          " ++ count s.resolutionWidth.toNat ++ "x" ++ count s.resolutionHeight.toNat ++ " per eye",
    "Refresh rate:        " ++ fixed 0 s.refreshRate ++ " Hz",
    "Field of view:       " ++ fixed 1 s.fov ++ " deg (level " ++ count s.fovLevel.toNat ++ ")",
    "Floor height:        " ++ fixed 2 s.floorHeight ++ " m",
    "Parallel projection: " ++ yesNo s.useParallelProjection,
    "Smart smoothing:     " ++ yesNo s.useSmartSmoothing,
    "Lighthouse tracking: " ++ yesNo s.useLighthouseTracking,
    "Frame rate:          " ++ fixed 1 s.fps ++ " fps"]
  else "headset not detected"

def json (s : HeadsetStatus) : Json :=
  .object [("valid", .bool s.valid), ("refresh_rate", .float s.refreshRate),
    ("resolution_width", .int s.resolutionWidth.toNat), ("resolution_height", .int s.resolutionHeight.toNat),
    ("fov_level", .int s.fovLevel.toNat), ("fov", .float s.fov), ("floor_height", .float s.floorHeight),
    ("use_parallel_projection", .bool s.useParallelProjection),
    ("use_smart_smoothing", .bool s.useSmartSmoothing),
    ("use_lighthouse_tracking", .bool s.useLighthouseTracking), ("fps", .float s.fps)]

end HeadsetStatus

end XrPanel
