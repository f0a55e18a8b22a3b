import BridgeState.Text.Quoted
import BridgeState.Text.Utf8

/-!
# Folders

A folder holds texts under names that may lead through folders of their own. `Folder.text` follows a
name step by step, as a file system does: a step may stay or lead out, a file has no steps behind it,
and the first step that fails decides the fault. Outside the folder nothing is known but that the root
holds the usual folders, and that the null device is an empty text.
-/

namespace BridgeState.Console

set_option autoImplicit false

inductive SourceFault where
  | missing (name : String)
  | directory (name : String)
  | notDirectory (name : String)
  | longName (name : String)
  | badName
deriving Repr, DecidableEq

def SourceFault.message : SourceFault → String
  | .missing name => "[Errno 2] No such file or directory: " ++ Text.quoted name
  | .directory name => "[Errno 21] Is a directory: " ++ Text.quoted name
  | .notDirectory name => "[Errno 20] Not a directory: " ++ Text.quoted name
  | .longName name => "[Errno 36] File name too long: " ++ Text.quoted name
  | .badName => "embedded null byte"

abbrev Folder : Type :=
  List (List String × String)

inductive Place where
  | inside (steps : List String)
  | file (text : String)
  | root
  | devices
  | outside

namespace Folder

def stepLimit : Nat := 255

def nameLimit : Nat := 4095

/-- The folders that a root holds beside the one of the devices. -/
def rootFolders : List String :=
  ["bin", "boot", "etc", "home", "lib", "media", "mnt", "opt", "proc", "root", "run", "sbin",
   "srv", "sys", "tmp", "usr", "var"]

def ofFiles (files : List (String × String)) : Folder :=
  files.map fun file => ((file.1.splitOn "/").filter fun step => step != "" && step != ".", file.2)

def textAt? (steps : List String) (folder : Folder) : Option String :=
  (folder.find? fun file => file.1 == steps).map Prod.snd

def place? (steps : List String) (folder : Folder) : Option Place :=
  match folder.textAt? steps with
  | some text => some (.file text)
  | none => if folder.any fun file => steps.isPrefixOf file.1 then some (.inside steps) else none

def outward : Place → Place
  | .inside [] => .outside
  | .inside steps => .inside steps.dropLast
  | .devices => .root
  | place => place

/-- One step by its name; none where nothing of that name is known. -/
def enter? (folder : Folder) (step : String) : Place → Option Place
  | .inside steps => folder.place? (steps ++ [step])
  | .root =>
    if step == "dev" then some .devices
    else if rootFolders.contains step then some .outside else none
  | .devices => if step == "null" then some (.file "") else none
  | _ => none

def follow (folder : Folder) (name : String) : Place → List String → Except SourceFault Place
  | place, [] => .ok place
  | .file _, _ :: _ => .error (.notDirectory name)
  | place, step :: rest =>
    if step == "" || step == "." then follow folder name place rest
    else if step == ".." then follow folder name (outward place) rest
    else if step.utf8ByteSize > stepLimit then .error (.longName name)
    else match folder.enter? step place with
    | some next => follow folder name next rest
    | none => .error (.missing name)

def text (folder : Folder) (name : String) : Except SourceFault String :=
  if name.contains '\x00' then .error .badName
  else if name.isEmpty then .error (.missing name)
  else if name.utf8ByteSize > nameLimit then .error (.longName name)
  else
    let start : Place := if name.startsWith "/" then .root else .inside []
    match folder.follow name start (name.splitOn "/") with
    | .error fault => .error fault
    | .ok (.file text) => .ok text
    | .ok _ => .error (.directory name)

end Folder

end BridgeState.Console
