import BridgeState.Console.Run
import BridgeState.Database.Absent

/-!
# The program

Reads the environment, the standard input and the named file, carries out one command, and prints
its report.
-/

namespace BridgeState.Program

set_option autoImplicit false

open Console

def settingNames : List String :=
  ["ENTITYSTORE_DRIVER", "DATABASE_URL", "DATABASE_HOST", "DATABASE_PORT", "DATABASE_NAME",
   "DATABASE_USER", "DATABASE_PASSWORD", "DATABASE_SSL_MODE", "DATABASE_STATEMENT_TIMEOUT_MS"]

def environment : IO Environment :=
  settingNames.filterMapM fun name => do
    return (← IO.getEnv name).map fun value => (name, value)

def fileText (name : String) : IO (Except SourceFault String) := do
  if name.contains '\x00' then return .error .badName
  try
    return .ok (← IO.FS.readFile name)
  catch _ =>
    return .error (.missing name)

/-- What a command reads: the standard input, or the file that it names. -/
def surroundings (command : Command) : IO Surroundings := do
  let environment ← environment
  let start ← IO.monoMsNow
  let (input, file) ← match command with
    | .replay "-" => do
      pure (← (← IO.getStdin).readToEnd, Except.error (SourceFault.missing "-"))
    | .replay name => do pure ("", ← fileText name)
    | _ => pure ("", .error (.missing ""))
  let elapsed := (← IO.monoMsNow) - start
  return ⟨environment, input, fun _ => file, s!"{elapsed}.0ms"⟩

def usage : String :=
  "usage: bridge-state \x7breplay,derive-id,init-schema,show,health-check\x7d ..."

def carryOut (command : Command) : IO UInt32 := do
  match command.run (← surroundings command) (.closed AbsentServer.absent) with
  | (.ok report, _) =>
    IO.print (Report.text report.output).shown
    IO.eprint (Report.text report.errors).shown
    return UInt32.ofNat report.exitCode
  | (.error fault, _) =>
    IO.eprintln fault.message
    return 1

end BridgeState.Program

def main (arguments : List String) : IO UInt32 := do
  match BridgeState.Console.Command.ofArguments arguments with
  | .ok (some command) => BridgeState.Program.carryOut command
  | .ok none =>
    IO.println BridgeState.Program.usage
    return 1
  | .error problem =>
    IO.println BridgeState.Program.usage
    return UInt32.ofNat problem.exitCode
