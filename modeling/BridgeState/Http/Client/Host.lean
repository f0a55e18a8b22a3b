import BridgeState.Http.Client.Domain.Name
import BridgeState.Text.LetterCase
import BridgeState.Url.Place

/-!
# Hosts

A host is an address of version four, an address of version six in brackets, a name in ASCII or a name
of other characters. Four numbers with points between them must be an address of version four, and what
stands in brackets one of version six. Names are taken in small letters, and those of other characters
are written in ASCII.
-/

namespace BridgeState.Host

set_option autoImplicit false

open Text

inductive Fault where
  | badFour (host : String)
  | badSix (host : String)
  | badName (host : String)
deriving Repr, DecidableEq

def Fault.message : Fault → String
  | .badFour host => "Invalid IPv4 address: " ++ quoted host
  | .badSix host => "Invalid IPv6 address: " ++ quoted host
  | .badName host => "Invalid IDNA hostname: " ++ quoted host

def looksLikeFour (host : List Char) : Bool :=
  let numbers := pieces '.' host
  numbers.length == 4 && numbers.all Place.isNumber

def nameMarks : List Char :=
  "-._~!$&'()*+,;=\"`\x7b\x7d%|\\".toList

def isSafe (c : Char) : Bool :=
  Percent.isPlain c.toNat || nameMarks.contains c

def read (host : List Char) : Except Fault (List Char) :=
  if host.isEmpty then .ok []
  else if looksLikeFour host then
    if Address.isFour host then .ok host else .error (.badFour (String.ofList host))
  else
    match Place.inBrackets? host with
    | some inside =>
      if Address.isSix inside then .ok inside else .error (.badSix (String.ofList host))
    | none =>
      if Domain.isAscii host then .ok (Percent.encode isSafe (lower host))
      else (Domain.encode (lower host)).mapError fun _ => .badName (String.ofList host)

end BridgeState.Host
