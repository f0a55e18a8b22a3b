import BridgeState.Text.Split

/-!
# Lines

A line ends with a line feed, a carriage return, or a carriage return and a line feed. `lines` gives
the texts between the ends; what stands behind the last end is a line too, if only an empty one.
-/

namespace BridgeState.Text

set_option autoImplicit false

/-- The text with every end of a line written as a line feed. -/
def plainEnds : List Char → List Char
  | '\r' :: '\n' :: rest => '\n' :: plainEnds rest
  | '\r' :: rest => '\n' :: plainEnds rest
  | c :: rest => c :: plainEnds rest
  | [] => []

def lines (text : List Char) : List (List Char) :=
  pieces '\n' (plainEnds text)

theorem plainEnds_of_absent (text : List Char) (absent : '\r' ∉ text) : plainEnds text = text := by
  induction text with
  | nil => rfl
  | cons c rest ih =>
    have other : c ≠ '\r' := fun same => absent (by simp [same])
    rw [plainEnds.eq_3 c rest (fun _ same => absurd same other) (fun same => absurd same other),
      ih (fun inside => absent (by simp [inside]))]

/-- Where every line ends with a line feed alone, the lines with line feeds between them are the
text. -/
theorem join_lines (text : List Char) (absent : '\r' ∉ text) :
    List.intercalate ['\n'] (lines text) = text := by
  rw [lines, plainEnds_of_absent text absent, join_pieces]

end BridgeState.Text
