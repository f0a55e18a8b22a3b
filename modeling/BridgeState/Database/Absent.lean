import BridgeState.Database.Server

/-!
# Without a server

Where a program has no driver for a database, every connection is refused.
-/

namespace BridgeState

set_option autoImplicit false

inductive AbsentServer where
  | absent

instance : Server AbsentServer where
  perform step server :=
    match step with
    | .connect _ => (.error ⟨"no database driver", false⟩, server)
    | _ => (.ok (), server)
  fetchRow server := (.ok none, server)
  fetchRows server := (.ok [], server)

end BridgeState
