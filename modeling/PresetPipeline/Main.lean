import PresetPipeline.CommandLine.Run

/-!
# The program

Reads the environment and the file that the command line names, and runs the command line.
-/

set_option autoImplicit false

open PresetPipeline PresetPipeline.CommandLine

/-- Why a file cannot be read. A path through something that is no directory leads nowhere. -/
def fileFailure : IO.Error → FileState
  | .noFileOrDirectory _ _ _ => .missing
  | .inappropriateType _ code details =>
    if code = 21 then .unreadable (details ++ " (os error 21)") else .missing
  | .permissionDenied _ _ _ => .unreadable "Permission denied (os error 13)"
  | _ => .unreadable "stream did not contain valid UTF-8"

/-- What stands at a path of the file system. -/
def readPath (path : String) : IO FileState := do
  try
    return .text (← IO.FS.readFile path)
  catch e =>
    return fileFailure e

/-- Each entry of the log on a line of its own. -/
def library : Library :=
  { Library.plain with log := fun events => unlines (events.map (·.toJson.compact)) }

/-- The file that a command line names. -/
def configPath? (device : Option String) (arguments : List String) : Option String :=
  match library.arguments device arguments with
  | .ok ⟨_, .pipeline r⟩ => r.config
  | _ => none

def main (arguments : List String) : IO UInt32 := do
  let device ← IO.getEnv "KAIRO_DEVICE"
  let coloured := forcesColour (← IO.getEnv "CLICOLOR_FORCE")
  let file ← match configPath? device arguments with
    | some path => readPath path
    | none => pure .missing
  let outcome := run ⟨device, coloured, fun _ => file⟩ arguments library
  (← IO.getStdout).putStr outcome.stdout
  (← IO.getStderr).putStr outcome.stderr
  return outcome.exitCode.toUInt32
