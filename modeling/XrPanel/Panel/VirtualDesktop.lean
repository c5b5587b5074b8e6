import XrPanel.FormTable

namespace XrPanel.VirtualDesktop

def percent (min max default : Int32) : Control := .slider { min, max, default, unit := "%" }

def advanced : FormTable where
  name := "advanced"
  title := "VDXR Advanced Settings"
  bindings := [
    ⟨"supersampling", some "Supersampling", "Supersampling", "resolution", percent 100 200 100⟩,
    ⟨"upscaling", some "Upscaling", "Upscaling", "resolution", percent 40 100 100⟩,
    ⟨"sharpening", some "Sharpening", "Sharpening", "resolution", percent 0 100 0⟩,
    ⟨"horizontal_fov_tangent", some "HorizontalFovTangent", "Horizontal FOV", "fov", percent 40 100 100⟩,
    ⟨"vertical_fov_tangent", some "VerticalFovTangent", "Vertical FOV", "fov", percent 40 100 100⟩,
    ⟨"mask_scale", some "OverrideVisibilityMaskScale", "Visibility mask scale", "fov", percent 40 150 100⟩,
    ⟨"world_scale", some "OverrideWorldScale", "World scale", "world", percent 25 400 100⟩,
    ⟨"player_height_enable", none, "Override player height", "world", .checkbox false⟩,
    ⟨"player_height", some "OverrideFloorHeight", "Player height", "world",
      .slider { min := 40, max := 250, default := 170, unit := "cm", display := .height }⟩,
    ⟨"quad_views", some "AllowQuadViews", "Allow quad views", "quad_views", .checkbox false⟩,
    ⟨"peripheral_view", some "QVPeripheralViewDensity", "Peripheral view density", "quad_views",
      percent 10 100 50⟩,
    ⟨"focus_size", some "QVFocusScale", "Focus area size", "quad_views", percent 50 150 100⟩,
    ⟨"turbo", some "DeferFrameWait", "Turbo mode", "performance", .checkbox false⟩]
  gates := [
    { toggle := "player_height_enable", governs := ["player_height"], sentinel := some (-1) },
    { toggle := "quad_views", governs := ["peripheral_view", "focus_size"] }]
  exclusives := []

def displacement : Control := .slider { min := -200, max := 200, default := 0, unit := "mm" }

def rotation : Control := .slider { min := -179, max := 180, default := 0, unit := "°" }

def pose (group label : String) : List Binding :=
  [offset "_pose_offset_x" " X" displacement, offset "_pose_offset_y" " Y" displacement,
    offset "_pose_offset_z" " Z" displacement, offset "_pose_rot_x" " pitch" rotation,
    offset "_pose_rot_y" " yaw" rotation, offset "_pose_rot_z" " roll" rotation]
where
  offset (suffix axis : String) (c : Control) : Binding :=
    ⟨group ++ suffix, some (group ++ suffix), label ++ axis, group, c⟩

def offsets : FormTable where
  name := "offsets"
  title := "VDXR Controller Offsets"
  bindings := pose "aim" "Aim" ++ pose "grip" "Grip" ++ pose "palm" "Palm"
  gates := []
  exclusives := []

end XrPanel.VirtualDesktop
