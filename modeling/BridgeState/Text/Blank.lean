/-!
# Blank characters

Two sets of characters that are dropped around a text: the Unicode property White_Space
(`isWhite`), and that set together with the four information separators (`isStrippable`).
`trim` takes a text's blank ends off; its lemmas say that nothing blank is left at either end
and that nothing else is lost. `padded` puts spaces behind a text.
-/

namespace BridgeState.Text

set_option autoImplicit false

def inRanges (ranges : List (Nat × Nat)) (code : Nat) : Bool :=
  ranges.any fun range => range.1 ≤ code && code ≤ range.2

def whiteRanges : List (Nat × Nat) :=
  [(0x09, 0x0D), (0x20, 0x20), (0x85, 0x85), (0xA0, 0xA0), (0x1680, 0x1680),
   (0x2000, 0x200A), (0x2028, 0x2029), (0x202F, 0x202F), (0x205F, 0x205F), (0x3000, 0x3000)]

def isWhite (c : Char) : Bool :=
  inRanges whiteRanges c.toNat

/-- White space and the information separators U+001C to U+001F. -/
def isStrippable (c : Char) : Bool :=
  isWhite c || (0x1C ≤ c.toNat && c.toNat ≤ 0x1F)

/-- The white space of ASCII: tab to carriage return, and the space. -/
def isAsciiWhite (c : Char) : Bool :=
  (0x09 ≤ c.toNat && c.toNat ≤ 0x0D) || c.toNat == 0x20

theorem isWhite_of_isWhitespace (c : Char) (space : c.isWhitespace = true) :
    isWhite c = true := by
  simp [Char.isWhitespace] at space
  rcases space with ((h | h) | h) | h <;> subst h <;> decide

def trim (blank : Char → Bool) (text : List Char) : List Char :=
  ((text.dropWhile blank).reverse.dropWhile blank).reverse

theorem head_dropWhile_not_blank (blank : Char → Bool) (text : List Char) (c : Char)
    (first : (text.dropWhile blank).head? = some c) : blank c = false := by
  induction text with
  | nil => simp at first
  | cons d rest ih =>
    rw [List.dropWhile_cons] at first
    split at first
    · exact ih first
    · simp_all

/-- What is left ends in no blank. -/
theorem getLast_trim_not_blank (blank : Char → Bool) (text : List Char) (c : Char)
    (last : (trim blank text).getLast? = some c) : blank c = false := by
  unfold trim at last
  rw [List.getLast?_reverse] at last
  exact head_dropWhile_not_blank blank _ c last

/-- A text is its trimmed form between two blank ends. -/
theorem trim_between_blanks (blank : Char → Bool) (text : List Char) :
    ∃ before after, text = before ++ trim blank text ++ after ∧
      before.all blank = true ∧ after.all blank = true := by
  refine ⟨text.takeWhile blank,
    ((text.dropWhile blank).reverse.takeWhile blank).reverse, ?_, ?_, ?_⟩
  · unfold trim
    rw [List.append_assoc, ← List.reverse_append, List.takeWhile_append_dropWhile,
      List.reverse_reverse, List.takeWhile_append_dropWhile]
  · simp
  · simp

def padded (width : Nat) (text : String) : String :=
  text ++ String.ofList (List.replicate (width - text.length) ' ')

end BridgeState.Text
