import BridgeState.Json.Value
import BridgeState.Schema.Fault
import BridgeState.Schema.Specimen

/-!
# Complaints reported

A complaint is told as an object: the short name of the fault, the path to it, and its text. In print
it takes a line for its path and two for the fault, the last with the page that explains it.
-/

namespace BridgeState

set_option autoImplicit false

def PathStep.toJson : PathStep → Json
  | .field name => .str name
  | .item index => .nat index

namespace Complaint

def toJson (complaint : Complaint) : Json :=
  .obj [("type", .str complaint.fault.code), ("loc", .arr (complaint.path.map PathStep.toJson)),
    ("msg", .str complaint.fault.message)]

/-- A complaint as JSON, together with the value that was found where that is JSON. -/
def toJsonInFull (complaint : Complaint) : Json :=
  match complaint.toJson, complaint.found with
  | .obj members, .plain value => .obj (members ++ ([("input", value)] : Members))
  | other, _ => other

def listJson (complaints : List Complaint) : Json :=
  .arr (complaints.map toJson)

def page (fault : Fault) : String :=
  String.intercalate "/" ["https:", "", "errors.pydantic.dev", "2.14", "v", fault.code]

def lines (complaint : Complaint) : List String :=
  let place := String.intercalate "." (complaint.path.map PathStep.text)
  let fault := complaint.fault
  let shown := Specimen.text complaint.found
  (if complaint.path.isEmpty then [] else [place])
    ++ [s!"  {fault.message} [type={fault.code}, input_value={shown}, "
        ++ s!"input_type={complaint.found.kindName}]",
      s!"    For further information visit {page fault}"]

def account (recordName : String) (complaints : List Complaint) : String :=
  let noun := if complaints.length = 1 then "error" else "errors"
  String.intercalate "\n"
    (s!"{complaints.length} validation {noun} for {recordName}" :: complaints.flatMap lines)

end Complaint

end BridgeState
