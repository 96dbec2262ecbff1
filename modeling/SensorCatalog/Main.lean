import SensorCatalog.Document.Comment
import SensorCatalog.Regeneration.Run

/-!
# Command line

Regenerates a constants file from copies of the documents on this machine:

    main SENSOR_TYPES SCALES DESTINATION

The file is left alone if anything is wrong before it is written, and the exit code is 1 if anything
is wrong at all.
-/

namespace SensorCatalog.CommandLine

/-- The bytes of a file, if it is there, and why it cannot be read, if it cannot. -/
def readIfPresent (path : String) : IO (Option ByteArray × Option String) := do
  try
    return (some (← IO.FS.readBinFile path), none)
  catch
    | .noFileOrDirectory .. => return (none, none)
    | fault => return (none, some (toString fault))

/-- Says that a file is not regenerated. -/
def refuse (failure : Regeneration.Failure) : IO UInt32 := do
  IO.eprintln failure.message
  return 1

/-- Regenerates the file at `destination` from two documents. -/
def regenerate (sensorTypes scales destination : String) : IO UInt32 := do
  let documents : Regeneration.Documents :=
    ⟨Document.withoutComments (← IO.FS.readFile sensorTypes),
      Document.withoutComments (← IO.FS.readFile scales)⟩
  let settings : Settings := { destination }
  let (file, fault?) ← readIfPresent destination
  match Regeneration.newText settings (.ok documents) file fault? with
  | .ok text =>
    try
      IO.FS.writeFile destination text
      return 0
    catch fault => refuse (.write destination (toString fault))
  | .error failure => refuse failure

end SensorCatalog.CommandLine

/-- Runs the command line. -/
def main (arguments : List String) : IO UInt32 :=
  match arguments with
  | [sensorTypes, scales, destination] =>
    SensorCatalog.CommandLine.regenerate sensorTypes scales destination
  | _ => do
    IO.eprintln "usage: main SENSOR_TYPES SCALES DESTINATION"
    return 1
