import BridgeState.Url.Basic

/-!
# Parts of a reference

A reference names what a client asks for, in full or in part. It is divided into a scheme before a
colon, an authority behind two slashes, a path, a query behind a question mark and a fragment behind a
hash; all but the path may be missing. An authority is divided into user, host and port. Nothing is
read or refused here: the parts are what stands in the text.
-/

namespace BridgeState

set_option autoImplicit false

open Text

structure Parts where
  scheme : List Char
  authority : List Char
  path : List Char
  query : Option (List Char)
  fragment : Option (List Char)
deriving Repr, DecidableEq

structure Authority where
  user : List Char
  host : List Char
  port : List Char
deriving Repr, DecidableEq

namespace Parts

/-- A scheme may be empty and still have its colon. -/
def isSchemeName : List Char → Bool
  | [] => true
  | first :: rest => Url.isAsciiLetter first && rest.all Url.isSchemeChar

def splitScheme (text : List Char) : List Char × List Char :=
  match cut ':' text with
  | (name, some rest) => if isSchemeName name then (name, rest) else ([], text)
  | (_, none) => ([], text)

def ofText (text : List Char) : Parts :=
  let (scheme, rest) := splitScheme text
  let (authority, rest) := Url.splitAuthority rest
  let (place, fragment) := cut '#' rest
  let (path, query) := cut '?' place
  { scheme, authority, path, query, fragment }

end Parts

namespace Authority

/-- The host, with its brackets if it has any, and what follows it. -/
def splitHost (text : List Char) : List Char × List Char :=
  match text, cutLast ']' text with
  | '[' :: _, (some inside, after) => (inside ++ [']'], after)
  | _, _ => (text.takeWhile (· != ':'), text.dropWhile (· != ':'))

def ofText (text : List Char) : Authority :=
  let (user, rest) := cutLast '@' text
  let (host, port) := splitHost rest
  ⟨user.getD [], host, if port.head? == some ':' then port.drop 1 else port⟩

end Authority

end BridgeState
