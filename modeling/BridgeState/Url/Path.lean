import BridgeState.Text.Split

/-!
# Paths

A path is a way through folders, with slashes between its steps. `resolved` takes out the steps that
stay in a folder, and those that leave it again together with the steps that they undo.
-/

namespace BridgeState.Path

set_option autoImplicit false

open Text

/-- Follows the steps of a path; what was gone through so far is kept in reverse. -/
def followSteps : List (List Char) → List (List Char) → List (List Char)
  | seen, [] => seen.reverse
  | seen, ['.'] :: rest => followSteps seen rest
  | [], ['.', '.'] :: rest => followSteps [] rest
  | [[]], ['.', '.'] :: rest => followSteps [[]] rest
  | _ :: seen, ['.', '.'] :: rest => followSteps seen rest
  | seen, part :: rest => followSteps (part :: seen) rest

def resolved (path : List Char) : List Char :=
  List.intercalate ['/'] (followSteps [] (pieces '/' path))

def withoutSlashes (path : List Char) : List Char :=
  (path.reverse.dropWhile (· == '/')).reverse

def withoutLineEnd (path : List Char) : List Char :=
  if path.getLast? == some '\n' then path.dropLast else path

end BridgeState.Path
