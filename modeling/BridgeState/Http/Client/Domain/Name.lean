import BridgeState.Http.Client.Domain.Label

/-!
# Domain names

Labels with dots between them, of which there are four. A dot may end the name. `Domain.encode` writes a
name in ASCII, and `Domain.decode` reads one.
-/

namespace BridgeState.Domain

set_option autoImplicit false

open Text

def isDot (c : Char) : Bool :=
  c == '.' || c == '\u3002' || c == '\uff0e' || c == '\uff61'

def splitName (name : List Char) : Except Fault (List (List Char) × Bool) :=
  let labels := pieces '.' (name.map fun c => if isDot c then '.' else c)
  if labels == [[]] then .error .emptyDomain
  else if labels.getLast? == some [] then .ok (labels.dropLast, true)
  else .ok (labels, false)

/-- How long a name may be without the dot at its end. -/
def nameLimit : Nat := 253

def joinName {α : Type} (dot : α) (labels : List (List α)) (dotted : Bool) : List α :=
  List.intercalate [dot] (if dotted then labels ++ [[]] else labels)

def encode (name : List Char) : Except Fault (List Char) := do
  if nameLimit + 1 < name.length then throw .longDomain
  let (labels, dotted) ← splitName name
  let written := joinName '.' (← labels.mapM toAscii) dotted
  if nameLimit + (if dotted then 1 else 0) < written.length then throw .longDomain
  return written

def decode (name : List Char) : Except Fault Text := do
  if nameLimit + 1 < name.length then throw .longDomain
  let (labels, dotted) ← splitName name
  let read ← labels.mapM fromAscii
  return ⟨joinName (.char '.') (read.map Text.points) dotted⟩

end BridgeState.Domain
