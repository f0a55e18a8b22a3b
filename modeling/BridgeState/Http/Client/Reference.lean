import BridgeState.Text.Charset
import BridgeState.Http.Client.Host
import BridgeState.Url.Parts
import BridgeState.Url.Path

/-!
# References

A reference whose parts are read: the scheme in small letters, the host in ASCII, the port as a number
unless it is the one of the scheme, and a path without steps that lead nowhere. In all parts characters
that may not stand there are escaped. `Reference.parse` reads a text, and `Reference.rebuilt` reads parts
that were put together from others.
-/

namespace BridgeState

set_option autoImplicit false

open Text

structure Reference where
  scheme : List Char
  user : List Char
  /-- The host, without brackets. -/
  host : List Char
  port : Option Int
  path : List Char
  query : Option (List Char)
  fragment : Option (List Char)
deriving Repr, DecidableEq

inductive ReferenceFault where
  | tooLong
  | unprintable (mark : Char) (position : Nat)
  | longPart (name : String)
  | unprintablePart (name : String) (mark : Char) (position : Nat)
  | host (fault : Host.Fault)
  | badPort (text : String)
  | unrootedPath
  | doubleSlash
  | colon
deriving Repr, DecidableEq

def ReferenceFault.message : ReferenceFault → String
  | .tooLong => "URL too long"
  | .unprintable mark position =>
    s!"Invalid non-printable ASCII character in URL, {quoted (.ofChars [mark])} at position {position}."
  | .longPart name => s!"URL component '{name}' too long"
  | .unprintablePart name mark position =>
    s!"Invalid non-printable ASCII character in URL {name} component, {quoted (.ofChars [mark])} at position {position}."
  | .host fault => fault.message
  | .badPort text => "Invalid port: " ++ quoted text
  | .unrootedPath => "For absolute URLs, path must be empty or begin with '/'"
  | .doubleSlash => "Relative URLs cannot have a path starting with '//'"
  | .colon => "Relative URLs cannot have a path starting with ':'"

namespace Reference

/-- How many characters a reference, or a part of one, may have. -/
def lengthLimit : Nat := 65536

def isControl (c : Char) : Bool :=
  c.toNat < 0x20 || c.toNat == 0x7F

def control? (text : List Char) : Option (Char × Nat) :=
  let before := text.takeWhile fun c => !isControl c
  (text.drop before.length).head?.map fun mark => (mark, before.length)

def isPrintableBut (others : List Char) (c : Char) : Bool :=
  0x20 ≤ c.toNat && c.toNat < 0x7F && !others.contains c

/-- Characters that stand for themselves in no part of a reference. -/
def neverSafe : List Char := [' ', '\x22', '<', '>']

def isSafeInFragment : Char → Bool :=
  isPrintableBut ('\x60' :: neverSafe)

def isSafeInQuery : Char → Bool :=
  isPrintableBut ('#' :: neverSafe)

def pathDelimiters : List Char :=
  ['#', '?', '\x60', '\x7b', '\x7d'] ++ neverSafe

def isSafeInPath : Char → Bool :=
  isPrintableBut pathDelimiters

def isSafeInUser : Char → Bool :=
  isPrintableBut (['/', ':', ';', '=', '@', '[', '\\', ']', '^', '|'] ++ pathDelimiters)

def standardPorts : List (String × Int) :=
  [("ftp", 21), ("http", 80), ("https", 443), ("ws", 80), ("wss", 443)]

def standardPort? (scheme : List Char) : Option Int :=
  (standardPorts.find? fun entry => entry.1.toList == scheme).map Prod.snd

/-- A port, unless it is the one that the scheme, as it is written, has of its own. -/
def readPort (scheme text : List Char) : Except ReferenceFault (Option Int) :=
  if text.isEmpty then .ok none
  else
    match readInteger (String.ofList text) with
    | .error _ => .error (.badPort (String.ofList text))
    | .ok port => .ok (if standardPort? scheme == some port then none else some port)

/-- What is wrong with a path behind a scheme or an authority, or behind neither. -/
def pathFault? (hasScheme hasAuthority : Bool) (path : List Char) : Option ReferenceFault :=
  if hasAuthority then
    if path.isEmpty || path.head? == some '/' then none else some .unrootedPath
  else if hasScheme then none
  else if ['/', '/'].isPrefixOf path then some .doubleSlash
  else if path.head? == some ':' then some .colon
  else none

def ofParts (parts : Parts) (authority : Authority) : Except ReferenceFault Reference := do
  let host ← (Host.read authority.host).mapError .host
  let port ← readPort parts.scheme authority.port
  let hasScheme := !parts.scheme.isEmpty
  let hasAuthority := !authority.user.isEmpty || !host.isEmpty || port.isSome
  if let some fault := pathFault? hasScheme hasAuthority parts.path then throw fault
  let path := if hasScheme || hasAuthority then Path.resolved parts.path else parts.path
  return {
    scheme := parts.scheme.map Char.toLower
    user := Percent.encode isSafeInUser authority.user
    host
    port
    path := Percent.encode isSafeInPath path
    query := parts.query.map (Percent.encode isSafeInQuery)
    fragment := parts.fragment.map (Percent.encode isSafeInFragment) }

def parse (text : List Char) : Except ReferenceFault Reference := do
  if lengthLimit < text.length then throw .tooLong
  if let some (mark, position) := control? text then throw (.unprintable mark position)
  let parts := Parts.ofText text
  ofParts parts (.ofText parts.authority)

def place (reference : Reference) : List Char :=
  (if reference.host.contains ':' then '[' :: reference.host ++ [']'] else reference.host)
    ++ match reference.port with
      | some port => ':' :: (toString port).toList
      | none => []

def authority (reference : Reference) : List Char :=
  (if reference.user.isEmpty then [] else reference.user ++ ['@']) ++ reference.place

def parts (reference : Reference) : Parts where
  scheme := reference.scheme
  authority := reference.authority
  path := reference.path
  query := reference.query
  fragment := reference.fragment

def partFault? (name : String) (text : List Char) : Option ReferenceFault :=
  if lengthLimit < text.length then some (.longPart name)
  else (control? text).map fun found => .unprintablePart name found.1 found.2

/-- The first part that is too long or holds a control character. -/
def firstPartFault? (parts : Parts) : Option ReferenceFault :=
  partFault? "scheme" parts.scheme <|> partFault? "authority" parts.authority
    <|> partFault? "path" parts.path <|> parts.query.bind (partFault? "query")
    <|> parts.fragment.bind (partFault? "fragment")

def rebuilt (parts : Parts) : Except ReferenceFault Reference := do
  if let some fault := firstPartFault? parts then throw fault
  ofParts parts (.ofText parts.authority)

def withHost (host : List Char) (reference : Reference) : Except ReferenceFault Reference := do
  let parts := reference.parts
  if let some fault := firstPartFault? parts then throw fault
  let written := if host.contains ':' then '[' :: host ++ [']'] else host
  if let some fault := partFault? "host" written then throw fault
  ofParts parts { Authority.ofText parts.authority with host := written }

def isWhole (reference : Reference) : Bool :=
  !reference.scheme.isEmpty && !reference.host.isEmpty

/-- The host as it is read: a name that is written in ASCII may stand for another. -/
def hostName (reference : Reference) : Except Domain.Fault (List Char) :=
  if Domain.codePrefix.isPrefixOf reference.host then
    (Domain.decode reference.host).map Text.shownChars
  else .ok reference.host

/-- The port, or the one that a page is asked for at. -/
def portOrStandard (reference : Reference) : Option Int :=
  reference.port <|>
    if reference.scheme == "http".toList || reference.scheme == "https".toList then
      standardPort? reference.scheme
    else none

end Reference

end BridgeState
