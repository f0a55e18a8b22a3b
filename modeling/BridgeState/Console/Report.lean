import BridgeState.Console.Folder
import BridgeState.Console.Selection
import BridgeState.Deployment

/-!
# Reports

A run of the program either ends with a report, which is what it prints and its exit code, or stops
at a fault that the command does not answer for itself.
-/

namespace BridgeState.Console

set_option autoImplicit false

structure Report where
  output : List Text
  errors : List Text
  exitCode : Nat
deriving Repr, DecidableEq

namespace Report

def success (output : List Text) : Report :=
  ⟨output, [], 0⟩

def failure (errors : List Text) : Report :=
  ⟨[], errors, 1⟩

/-- Lines as they are printed, each with its end. -/
def text (lines : List Text) : Text :=
  Text.concat (lines.map fun line => line ++ "\n")

end Report

inductive RunFault where
  | settings (fault : SettingsFault)
  | store (fault : StoreFault)
  | source (fault : SourceFault)
  | nesting (container : Json.Container)
  | lost (cause : LostValue)

def RunFault.message : RunFault → String
  | .settings fault => fault.message
  | .store fault => fault.message
  | .source fault => fault.message
  | .nesting container => (Json.ReadProblem.tooDeep container).reason
  | .lost cause => cause.message

def RunFault.ofDeployment : DeploymentFault → RunFault
  | .settings fault => .settings fault
  | .store fault => .store fault

end BridgeState.Console
