/-!
# Cutting texts

`cut` divides a text at the first occurrence of a character, `cutLast` at the last, `pieces` at
every one. What is cut away is the separator alone: `cut_some`, `join_pieces`.
-/

namespace BridgeState.Text

set_option autoImplicit false

/-- The text before the first separator, and the text behind it if there is one. -/
def cut (separator : Char) : List Char → List Char × Option (List Char)
  | [] => ([], none)
  | c :: rest =>
    if c == separator then ([], some rest)
    else
      let (before, after) := cut separator rest
      (c :: before, after)

theorem cut_some (separator : Char) (text before after : List Char)
    (found : cut separator text = (before, some after)) :
    text = before ++ separator :: after := by
  induction text generalizing before after with
  | nil => simp [cut] at found
  | cons c rest ih =>
    unfold cut at found
    split at found
    · rename_i same
      have isSeparator : c = separator := by simpa using same
      obtain ⟨isNil, isRest⟩ := Prod.mk.inj found
      cases isNil
      cases isRest
      simp [isSeparator]
    · rcases inner : cut separator rest with ⟨head, tail⟩
      rw [inner] at found
      obtain ⟨headEq, tailEq⟩ := Prod.mk.inj found
      cases headEq
      subst tailEq
      simp [ih head after inner]

theorem cut_none (separator : Char) (text : List Char) (absent : separator ∉ text) :
    cut separator text = (text, none) := by
  induction text with
  | nil => rfl
  | cons c rest ih =>
    have apart : ¬(c == separator) = true := by
      intro same
      exact absent (by simp at same; simp [same])
    simp [cut, apart, ih (fun inside => absent (by simp [inside]))]

/-- A text in which a separator stands behind text without one. -/
theorem cut_append (separator : Char) (before after : List Char) (absent : separator ∉ before) :
    cut separator (before ++ separator :: after) = (before, some after) := by
  induction before with
  | nil => simp [cut]
  | cons c rest ih =>
    have apart : ¬(c == separator) = true := by
      intro same
      exact absent (by simp at same; simp [same])
    simp [cut, apart, ih (fun inside => absent (by simp [inside]))]

/-- The text before the last separator, if there is one, and the text behind it. -/
def cutLast (separator : Char) (text : List Char) : Option (List Char) × List Char :=
  let (after, before) := cut separator text.reverse
  (before.map List.reverse, after.reverse)

def pieces (separator : Char) : List Char → List (List Char)
  | [] => [[]]
  | c :: rest =>
    if c == separator then [] :: pieces separator rest
    else
      match pieces separator rest with
      | [] => [[c]]
      | first :: more => (c :: first) :: more

theorem pieces_ne_nil (separator : Char) (text : List Char) : pieces separator text ≠ [] := by
  cases text with
  | nil => simp [pieces]
  | cons c rest =>
    unfold pieces
    split
    · simp
    · split <;> simp

/-- The pieces with separators between them are the text. -/
theorem join_pieces (separator : Char) (text : List Char) :
    List.intercalate [separator] (pieces separator text) = text := by
  induction text with
  | nil => rfl
  | cons c rest ih =>
    unfold pieces
    split
    · rename_i same
      have isSeparator : c = separator := by simpa using same
      cases found : pieces separator rest with
      | nil => exact absurd found (pieces_ne_nil separator rest)
      | cons first more =>
        rw [found] at ih
        simp [List.intercalate, isSeparator, ← ih]
    · cases found : pieces separator rest with
      | nil => exact absurd found (pieces_ne_nil separator rest)
      | cons first more =>
        rw [found] at ih
        cases more with
        | nil => simpa [List.intercalate] using ih
        | cons second others => simpa [List.intercalate] using ih

theorem pieces_none (separator : Char) (text : List Char) (absent : separator ∉ text) :
    pieces separator text = [text] := by
  induction text with
  | nil => rfl
  | cons c rest ih =>
      rw [List.mem_cons, not_or] at absent
      have apart : ¬(c == separator) = true := by simpa using Ne.symm absent.1
      rw [pieces, if_neg apart, ih absent.2]

theorem cut_last_append (separator : Char) (before after : List Char) (absent : separator ∉ after) :
    cutLast separator (before ++ separator :: after) = (some before, after) := by
  have reversed : (before ++ separator :: after).reverse =
      after.reverse ++ separator :: before.reverse := by simp
  rw [cutLast, reversed, cut_append separator _ _ (by simpa using absent)]
  simp

end BridgeState.Text
