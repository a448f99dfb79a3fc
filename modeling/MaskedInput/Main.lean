import MaskedInput.CommandLine.Arguments
import MaskedInput.CommandLine.Run
import MaskedInput.Config.Paths
import MaskedInput.Config.Yaml

/-!
# The program

Reads the command line, the environment and the file of the masks, and prints what the command
gives.
-/

namespace MaskedInput

/-- The variables of the environment that say where the files are. -/
def readEnvironment : IO Environment := do
  return {
    home := ← IO.getEnv "HOME"
    configHome := ← IO.getEnv "XDG_CONFIG_HOME"
    masksFile := ← IO.getEnv "TEXTMASK_MASKS" }

/-- The octets of a file, if it can be read. -/
def readOctets (path : Option String) : IO (Option ByteArray) := do
  match path with
  | none => return none
  | some path =>
    try return some (← IO.FS.readBinFile path)
    catch _ => return none

/-- The configuration that is in force. -/
def readConfig : IO Config := do
  return Config.load (← readOctets (← readEnvironment).masksFile?)

end MaskedInput

open MaskedInput CommandLine in
def main (arguments : List String) : IO UInt32 := do
  match Command.parse (arguments.map String.toList) with
  | .error refusal =>
    (if refusal.exitCode = 0 then IO.println else IO.eprintln) refusal.message
    return refusal.exitCode.toUInt32
  | .ok command =>
    let outcome := Outcome.of (command.run (← readConfig))
    IO.print (String.ofList outcome.output)
    IO.eprint (String.ofList outcome.report)
    return outcome.exitCode.toUInt32
