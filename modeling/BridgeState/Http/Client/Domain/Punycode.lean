/-!
# Punycode

A label of any script is written in letters, digits and hyphens of ASCII: first the characters that are
ASCII themselves, and behind the last hyphen where the others are put in, from the least to the greatest.
Each of them is a number whose digits count to thirty-six; where a number ends depends on a bias that
follows the numbers so far. `encode` writes a label and `decode?` reads one; `digitValue?_digit` ties a
digit to its value, and `number?_shorter` says that reading comes to an end.
-/

namespace BridgeState.Domain.Punycode

set_option autoImplicit false

def base : Nat := 36

/-- The digit of a value below `base`: a small letter or, behind the letters, a numeral. -/
def digit (value : Nat) : Char :=
  if value < 26 then Char.ofNat (0x61 + value) else Char.ofNat (0x16 + value)

/-- The value of a digit, of which a letter may have either case. -/
def digitValue? (c : Char) : Option Nat :=
  if 0x61 ≤ c.toNat ∧ c.toNat ≤ 0x7A then some (c.toNat - 0x61)
  else if 0x41 ≤ c.toNat ∧ c.toNat ≤ 0x5A then some (c.toNat - 0x41)
  else if 0x30 ≤ c.toNat ∧ c.toNat ≤ 0x39 then some (c.toNat - 0x16)
  else none

theorem digitValue?_digit (value : Nat) (small : value < base) :
    digitValue? (digit value) = some value := by
  have all : ∀ v : Fin base, digitValue? (digit v.val) = some v.val := by decide
  exact all ⟨value, small⟩

/-- The least value of a digit that does not end its number, by its weight in units of `base`. -/
def threshold (bias place : Nat) : Nat :=
  if base * place ≤ bias + 1 then 1 else min 26 (base * place - bias)

theorem threshold_pos (bias place : Nat) : 1 ≤ threshold bias place := by
  unfold threshold
  split <;> omega

/-- How much of a bias a number is worth; it grows with every time the number can be divided. -/
def biasOf (number divisions : Nat) : Nat :=
  if 455 < number then biasOf (number / 35) (divisions + 1)
  else base * divisions + base * number / (number + 38)
termination_by number
decreasing_by exact Nat.div_lt_self (by omega) (by omega)

/-- The bias behind a number that settled one of so many characters. -/
def adapted (number settled : Nat) (first : Bool) : Nat :=
  let damped := number / (if first then 700 else 2)
  biasOf (damped + damped / settled) 0

def initialBias : Nat := 72

/-- The digits of a number, of which the first has the given place. -/
def digits (bias place number : Nat) : List Char :=
  let least := threshold bias place
  if number < least then [digit number]
  else
    digit (least + (number - least) % (base - least))
      :: digits bias (place + 1) ((number - least) / (base - least))
termination_by number
decreasing_by
  have positive := threshold_pos bias place
  exact Nat.lt_of_le_of_lt (Nat.div_le_self _ _) (by omega)

/-- A label that is being written: how many characters are settled, the number that the next one takes
so far, its bias, and the text. -/
structure Writer where
  settled : Nat
  number : Nat
  bias : Nat
  first : Bool
  text : List Char

namespace Writer

/-- Goes past one character of the label while characters of one code point are settled. -/
def visit (code : Nat) (writer : Writer) (current : Nat) : Writer :=
  if current < code then { writer with number := writer.number + 1 }
  else if current = code then
    { settled := writer.settled + 1
      number := 0
      bias := adapted writer.number (writer.settled + 1) writer.first
      first := false
      text := writer.text ++ digits writer.bias 1 writer.number }
  else writer

/-- Settles the characters of all code points from `next` on, in their order. -/
def settle (label : List Nat) (next : Nat) : List Nat → Writer → Writer
  | [], writer => writer
  | code :: rest, writer =>
    let reached := { writer with number := writer.number + (code - next) * (writer.settled + 1) }
    let passed := label.foldl (visit code) reached
    settle label (code + 1) rest { passed with number := passed.number + 1 }

end Writer

def firstBeyond : Nat := 0x80

def encode (label : List Nat) : List Char :=
  let plain := (label.filter (· < firstBeyond)).map Char.ofNat
  let others := ((label.filter (firstBeyond ≤ ·)).mergeSort (· ≤ ·)).eraseReps
  let writer := Writer.settle label firstBeyond others ⟨plain.length, 0, initialBias, true, []⟩
  plain ++ (if plain.isEmpty then [] else ['-']) ++ writer.text

/-- Reads one number, whose digits so far make `sum`; `weight` is what the next one counts. -/
def number? (bias place weight sum : Nat) : List Char → Option (Nat × List Char)
  | [] => none
  | c :: rest =>
    match digitValue? c with
    | none => none
    | some value =>
      let sum := sum + value * weight
      if value < threshold bias place then some (sum, rest)
      else number? bias (place + 1) (weight * (base - threshold bias place)) sum rest

/-- A number takes a digit at least. -/
theorem number?_shorter {bias place weight sum number : Nat} {text rest : List Char}
    (read : number? bias place weight sum text = some (number, rest)) :
    rest.length < text.length := by
  induction text generalizing place weight sum with
  | nil => simp [number?] at read
  | cons c text ih =>
    simp only [number?] at read
    split at read
    · simp at read
    · split at read
      · obtain ⟨-, rfl⟩ := Prod.mk.inj (Option.some.inj read)
        simp
      · exact Nat.lt_trans (ih read) (by simp)

def lastCode : Nat := 0x10FFFF

/-- Puts characters into a label. `next` is the place behind the last one put in and `code` its code
point. -/
def insertAll (label : List Nat) (next code bias : Nat) (first : Bool) (text : List Char) :
    Option (List Nat) :=
  if text.isEmpty then some label
  else
    match read : number? bias 1 1 0 text with
    | none => none
    | some (number, rest) =>
      have shorter : rest.length < text.length := number?_shorter read
      let size := label.length + 1
      let reached := code + (next + number) / size
      let place := (next + number) % size
      if lastCode < reached then none
      else
        insertAll (label.take place ++ reached :: label.drop place) (place + 1) reached
          (adapted number size first) false rest
termination_by text.length

/-- The label that a text of ASCII writes, if it does. -/
def decode? (text : List Char) : Option (List Nat) :=
  let numbers := (text.reverse.takeWhile (· != '-')).reverse
  let plain := (text.take (text.length - numbers.length)).dropLast
  insertAll (plain.map Char.toNat) 0 firstBeyond initialBias true numbers

end BridgeState.Domain.Punycode
