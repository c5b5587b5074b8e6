import XrPanel.FormTable

namespace XrPanel.Pimax

/-- In the order of the codes that the runtime reads. -/
def controllerEmulation : List String := ["None", "Oculus Touch", "Windows Mixed Reality"]

/-- A distance edited in centimetres, stored in millimetres and shown in metres. -/
def distance (default : Int32) : Control :=
  .slider { min := 50, max := 600, default, scale := 10, unit := "m", display := .fraction 100 }

def companion : FormTable where
  name := "companion"
  title := "PimaxXR Control Center"
  bindings := [
    ⟨"recenter_on_startup", some "recenter_on_startup", "Recenter on startup", "tracking", .checkbox true⟩,
    ⟨"joystick_deadzone", some "joystick_deadzone", "Joystick deadzone", "controllers",
      .slider { min := 0, max := 100, default := 2, display := .fraction 100 }⟩,
    ⟨"controller_emulation", some "force_interaction_profile", "Controller emulation", "controllers",
      .choice controllerEmulation 0⟩,
    ⟨"guardian", some "guardian", "Enable guardian", "guardian", .checkbox true⟩,
    ⟨"guardian_radius", some "guardian_radius", "Guardian radius", "guardian", distance 160⟩,
    ⟨"guardian_threshold", some "guardian_threshold", "Guardian threshold", "guardian", distance 110⟩,
    ⟨"enable_telemetry", some "enable_telemetry", "Send anonymous usage data", "telemetry", .checkbox true⟩]
  gates := [{ toggle := "guardian", governs := ["guardian_radius", "guardian_threshold"] }]
  exclusives := []

/-- The entry that holds the forced fraction of the refresh rate: 100 for a half, 200 for a third. -/
def multiplierKey : String := "frame_time_override_multiplier"

def offsetKey : String := "frame_time_override_offset"

/-- A forced rate pins the frame time offset to a millisecond; otherwise the bias sets it. -/
def experimental : FormTable where
  name := "experimental"
  title := "PimaxXR Experimental Settings"
  bindings := [
    ⟨"frame_timing", some "use_frame_timing_override", "Override frame timing", "timing", .checkbox true⟩,
    ⟨"filter_length", some "frame_time_filter_length", "Filter length", "timing",
      .slider { min := 3, max := 600, default := 5, unit := "frames" }⟩,
    ⟨"force_half", none, "Force half rate", "timing", .checkbox false⟩,
    ⟨"force_third", none, "Force third rate", "timing", .checkbox false⟩,
    ⟨"timing_bias", some offsetKey, "Timing bias", "timing",
      .slider { min := -300, max := 300, default := 0, scale := 100, unit := "ms", display := .fraction 10 }⟩]
  gates := [
    { toggle := "frame_timing", governs := ["force_half", "force_third", "filter_length", "timing_bias"] },
    { toggle := "force_half", governs := ["filter_length", "timing_bias"], inverted := true },
    { toggle := "force_third", governs := ["filter_length", "timing_bias"], inverted := true }]
  exclusives := [{
    key := multiplierKey
    none := 0
    members := [("force_half", 100), ("force_third", 200)]
    companions := [(offsetKey, 1000)]
    shadowed := ["timing_bias"] }]

end XrPanel.Pimax
