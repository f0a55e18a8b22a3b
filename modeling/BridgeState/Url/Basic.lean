import BridgeState.Text.LetterCase
import BridgeState.Text.Numeral
import BridgeState.Text.Quoted
import BridgeState.Text.Split
import BridgeState.Url.Address

/-!
# Locators

`Url.parse` divides a text into scheme, authority, path and query; fragments and the parameters of
the last path segment are cut off. Control characters and spaces in front of the text, and tabs and
line ends anywhere, do not count. The parts of the authority are read by `userInfo`, `hostName` and
`portNumber?`.
-/

namespace BridgeState

set_option autoImplicit false

open Text

structure Url where
  scheme : List Char
  authority : List Char
  path : List Char
  query : List Char
deriving Repr, DecidableEq

inductive UrlFault where
  | unbalancedBrackets
  | badFutureAddress
  | fourInBrackets
  | notAddress (host : String)
  | ambiguousAuthority (authority : String)
  | badPort (text : String)
  | longPort (digits : Nat)
  | portOutOfRange
deriving Repr, DecidableEq

def UrlFault.message : UrlFault → String
  | .unbalancedBrackets => "Invalid IPv6 URL"
  | .badFutureAddress => "IPvFuture address is invalid"
  | .fourInBrackets => "An IPv4 address cannot be in brackets"
  | .notAddress host => quoted host ++ " does not appear to be an IPv4 or IPv6 address"
  | .ambiguousAuthority authority =>
    s!"netloc '{authority}' contains invalid characters under NFKC normalization"
  | .badPort text => "Port could not be cast to integer value as " ++ quoted text
  | .longPort digits => (NumeralProblem.tooLong digits).message
  | .portOutOfRange => "Port out of range 0-65535"

namespace Url

def isAsciiLetter (c : Char) : Bool :=
  ('a' ≤ c && c ≤ 'z') || ('A' ≤ c && c ≤ 'Z')

def isSchemeChar (c : Char) : Bool :=
  isAsciiLetter c || ('0' ≤ c && c ≤ '9') || c == '+' || c == '-' || c == '.'

def isLeadIn (c : Char) : Bool :=
  c.toNat ≤ 0x20

def isIgnored (c : Char) : Bool :=
  c == '\t' || c == '\r' || c == '\n'

def cleaned (text : List Char) : List Char :=
  (text.dropWhile isLeadIn).filter fun c => !isIgnored c

def splitScheme (text : List Char) : List Char × List Char :=
  match cut ':' text with
  | (name, some rest) =>
    match name with
    | first :: _ =>
      if isAsciiLetter first && name.all isSchemeChar then (name.map Char.toLower, rest)
      else ([], text)
    | [] => ([], text)
  | (_, none) => ([], text)

def endsAuthority (c : Char) : Bool :=
  c == '/' || c == '?' || c == '#'

def splitAuthority : List Char → List Char × List Char
  | '/' :: '/' :: rest =>
    (rest.takeWhile fun c => !endsAuthority c, rest.dropWhile fun c => !endsAuthority c)
  | text => ([], text)

/-- Whether a text is an address of a version to come: `v`, hexadecimal digits, a point, a rest. -/
def isFutureAddress (text : List Char) : Bool :=
  match text with
  | 'v' :: rest =>
    let version := rest.takeWhile isHexDigit
    match rest.dropWhile isHexDigit with
    | '.' :: _ :: _ => !version.isEmpty
    | _ => false
  | _ => false

def checkBracketed (host : List Char) : Except UrlFault Unit :=
  if host.head? == some 'v' then
    if isFutureAddress host then .ok () else .error .badFutureAddress
  else if Address.isFour host then .error .fourInBrackets
  else if Address.isSix host then .ok ()
  else .error (.notAddress (String.ofList host))

/-- The host of an authority in which brackets stand: text may stand neither before its own brackets,
nor behind them but for a port. -/
def bracketedHost (authority : List Char) : Except UrlFault (List Char) :=
  let info := (cutLast '@' authority).2
  match cut '[' info with
  | (before, some inside) =>
    let (host, after) := cut ']' inside
    let behind := after.getD []
    if before.isEmpty && (behind.isEmpty || behind.head? == some ':') then .ok host
    else .error .unbalancedBrackets
  | (_, none) => .ok (cut ':' info).1

def checkBrackets (authority : List Char) : Except UrlFault Unit :=
  match authority.contains '[', authority.contains ']' with
  | false, false => .ok ()
  | true, true => (bracketedHost authority).bind checkBracketed
  | _, _ => .error .unbalancedBrackets

def delimiterForms : List Nat :=
  [0x2047, 0x2048, 0x2049, 0x2100, 0x2101, 0x2105, 0x2106, 0x2A74, 0xFE13, 0xFE16, 0xFE55, 0xFE56,
   0xFE5F, 0xFE6B, 0xFF03, 0xFF0F, 0xFF1A, 0xFF1F, 0xFF20]

def parameterSchemes : List String :=
  ["", "ftp", "hdl", "prospero", "http", "imap", "https", "shttp", "rtsp", "rtspu", "sip", "sips",
   "mms", "sftp", "tel"]

def withoutParameters (path : List Char) : List Char :=
  match cutLast '/' path with
  | (some directory, segment) => directory ++ '/' :: (cut ';' segment).1
  | (none, segment) => (cut ';' segment).1

def parse (text : List Char) : Except UrlFault Url := do
  let (scheme, rest) := splitScheme (cleaned text)
  let (authority, rest) := splitAuthority rest
  checkBrackets authority
  let (path, query) := cut '?' (cut '#' rest).1
  if authority.any fun c => delimiterForms.contains c.toNat then
    throw (.ambiguousAuthority (String.ofList authority))
  let path := if parameterSchemes.contains (String.ofList scheme) then withoutParameters path
    else path
  return { scheme, authority, path, query := query.getD [] }

def userInfo (url : Url) : Option (List Char × Option (List Char)) :=
  (cutLast '@' url.authority).1.map (cut ':')

def user? (url : Url) : Option (List Char) :=
  url.userInfo.map Prod.fst

def password? (url : Url) : Option (List Char) :=
  url.userInfo.bind Prod.snd

/-- The host, without brackets, and the number behind its colon; either may be empty. -/
def hostInfo (url : Url) : List Char × List Char :=
  let info := (cutLast '@' url.authority).2
  match cut '[' info with
  | (_, some inside) =>
    let (host, after) := cut ']' inside
    (host, (cut ':' (after.getD [])).2.getD [])
  | (_, none) =>
    let (host, number) := cut ':' info
    (host, number.getD [])

/-- The host in small letters; a zone behind a percent sign keeps its case. -/
def hostName (url : Url) : List Char :=
  match cut '%' url.hostInfo.1 with
  | (name, some zone) => lower name ++ '%' :: zone
  | (name, none) => lower name

def portNumber? (url : Url) : Except UrlFault (Option Nat) :=
  let text := url.hostInfo.2
  if text.isEmpty then .ok none
  else if !text.all fun c => (asciiDigit? c).isSome then .error (.badPort (String.ofList text))
  else if text.length > digitLimit then .error (.longPort text.length)
  else
    let number := decimalNumber (text.filterMap asciiDigit?)
    if number ≤ 65535 then .ok (some number) else .error .portOutOfRange

end Url

end BridgeState
