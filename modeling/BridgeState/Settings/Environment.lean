/-!
# Environments

The variables that a program is started with. A variable may be set and empty; `filled?` takes such
a one for absent.
-/

namespace BridgeState

set_option autoImplicit false

abbrev Environment : Type :=
  List (String × String)

namespace Environment

def get? (name : String) (environment : Environment) : Option String :=
  (environment.find? fun entry => entry.1 == name).map Prod.snd

def getOr (name absent : String) (environment : Environment) : String :=
  (environment.get? name).getD absent

def filled? (name : String) (environment : Environment) : Option String :=
  (environment.get? name).filter fun value => !value.isEmpty

end Environment

end BridgeState
