namespace XrPanel.Elevation

def quoteChars (cs : List Char) : List Char :=
  let doubled := cs.flatMap fun c => if c = '"' then ['"', '"'] else [c]
  if doubled = [] ∨ doubled.any (fun c => c = ' ' || c = '\t') = true then '"' :: doubled ++ ['"']
  else doubled

def quote (arg : String) : String := String.ofList (quoteChars arg.toList)

def commandLine (args : List String) : String := String.intercalate " " (args.map quote)

inductive Relaunch where
  | exited (code : UInt32)
  | declined
  deriving DecidableEq

inductive ElevationError where
  | adminRequired
  | unsupported
  deriving DecidableEq

def ElevationError.message : ElevationError → String
  | .adminRequired => "This application must be run as Administrator."
  | .unsupported => "elevation is only supported on Windows"

def Relaunch.exitCode : Relaunch → Except ElevationError Int32
  | .exited code => .ok code.toInt32
  | .declined => .error .adminRequired

/-- Where there are no administrator rights to ask for, every process counts as having them. -/
def isElevated : Bool := true

def relaunch (_args : List String) : Except ElevationError Relaunch := .error .unsupported

end XrPanel.Elevation
