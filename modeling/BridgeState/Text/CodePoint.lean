/-!
# Texts of code points

A `String` holds characters. A JSON string may hold surrogates as well that stand without their
partner, and so may the ids and names read from it: a `Text` is a list of code points, each a
character or a single surrogate. Strings are texts, `Text.toString?` gives the string back, and texts
are ordered by their code points: `Text.lt_irrefl`, `Text.lt_trans`, `Text.eq_of_not_lt`.
-/

namespace BridgeState

set_option autoImplicit false

/-- A character, or a surrogate by its place among the two thousand and forty-eight. -/
inductive CodePoint where
  | char (value : Char)
  | surrogate (index : Fin 2048)
deriving Repr, DecidableEq

namespace CodePoint

def surrogateBase : Nat := 0xD800

def code : CodePoint → Nat
  | .char value => value.toNat
  | .surrogate index => surrogateBase + index.val

/-- The code point of a number; one that no code point has gives the null character. -/
def ofCode (code : Nat) : CodePoint :=
  if surrogate : code - surrogateBase < 2048 ∧ surrogateBase ≤ code then
    .surrogate ⟨code - surrogateBase, surrogate.1⟩
  else .char (Char.ofNat code)

def char? : CodePoint → Option Char
  | .char value => some value
  | .surrogate _ => none

theorem char_ne_surrogate (value : Char) (index : Fin 2048) :
    value.toNat ≠ surrogateBase + index.val := by
  have bound := index.isLt
  have valid : value.toNat < 0xD800 ∨ 0xDFFF < value.toNat ∧ value.toNat < 0x110000 := value.valid
  simp only [surrogateBase]
  omega

/-- Code points are told apart by their numbers. -/
theorem code_injective {a b : CodePoint} (same : a.code = b.code) : a = b := by
  cases a with
  | char first =>
    cases b with
    | char second => exact congrArg char (Char.toNat_inj.mp same)
    | surrogate index => exact absurd same (char_ne_surrogate first index)
  | surrogate first =>
    cases b with
    | char value => exact absurd same.symm (char_ne_surrogate value first)
    | surrogate second =>
      simp only [code] at same
      exact congrArg surrogate (Fin.ext (by omega))

end CodePoint

structure Text where
  points : List CodePoint
deriving Repr, DecidableEq

namespace Text

def ofChars (chars : List Char) : Text :=
  ⟨chars.map .char⟩

def ofString (string : String) : Text :=
  ofChars string.toList

instance : Coe String Text where
  coe := ofString

instance : Append Text where
  append first second := ⟨first.points ++ second.points⟩

instance : Inhabited Text where
  default := ⟨[]⟩

def isEmpty (text : Text) : Bool :=
  text.points.isEmpty

def concat (texts : List Text) : Text :=
  ⟨texts.flatMap points⟩

def joined (separator : Text) (texts : List Text) : Text :=
  ⟨List.intercalate separator.points (texts.map points)⟩

/-- The string that a text is, unless it holds a surrogate. -/
def toString? (text : Text) : Option String :=
  (text.points.mapM CodePoint.char?).map String.ofList

/-- The characters of a text, three replacement characters standing for each surrogate: one for each
byte that it would take. -/
def shownChars (text : Text) : List Char :=
  text.points.flatMap fun point =>
    match point with
    | .char value => [value]
    | .surrogate _ => List.replicate 3 '\ufffd'

def shown (text : Text) : String :=
  String.ofList text.shownChars

def codes (text : Text) : List Nat :=
  text.points.map CodePoint.code

theorem codes_injective {a b : Text} (same : a.codes = b.codes) : a = b := by
  obtain ⟨first⟩ := a
  obtain ⟨second⟩ := b
  simp only [codes] at same
  exact congrArg mk ((List.map_inj_right fun _ _ => CodePoint.code_injective).mp same)

theorem ofString_injective {a b : String} (same : ofString a = ofString b) : a = b := by
  have lists : a.toList.map CodePoint.char = b.toList.map CodePoint.char := congrArg points same
  have inside : a.toList = b.toList :=
    (List.map_inj_right fun _ _ => CodePoint.char.inj).mp lists
  exact String.toList_inj.mp inside

@[simp] theorem ofString_inj {a b : String} : ofString a = ofString b ↔ a = b :=
  ⟨ofString_injective, congrArg ofString⟩

theorem ofString_append (first second : String) :
    ofString (first ++ second) = ofString first ++ ofString second := by
  change mk ((first ++ second).toList.map CodePoint.char)
    = mk (first.toList.map CodePoint.char ++ second.toList.map CodePoint.char)
  simp

theorem ofString_ofList (chars : List Char) : ofString (String.ofList chars) = ofChars chars := by
  simp [ofString]

theorem isEmpty_ofString (string : String) : (ofString string).isEmpty = string.isEmpty := by
  rw [Bool.eq_iff_iff]
  simp [isEmpty, ofString, ofChars]

theorem shownChars_ofChars (chars : List Char) : (ofChars chars).shownChars = chars := by
  simp [shownChars, ofChars, List.flatMap_map]

theorem shownChars_ofString (string : String) : (ofString string).shownChars = string.toList :=
  shownChars_ofChars string.toList

@[simp] theorem toString?_ofString (string : String) : (ofString string).toString? = some string := by
  have all : ∀ chars : List Char,
      (chars.map CodePoint.char).mapM CodePoint.char? = some chars := by
    intro chars
    induction chars with
    | nil => rfl
    | cons c rest ih => simp [CodePoint.char?, ih]
  simp [toString?, ofString, ofChars, all]

/-- A text that is a string is the text of that string. -/
theorem of_toString? (text : Text) (string : String) (isString : text.toString? = some string) :
    text = string := by
  obtain ⟨points⟩ := text
  obtain ⟨chars, isChars, rfl⟩ := Option.map_eq_some_iff.mp isString
  clear isString
  rw [ofString_ofList]
  induction points generalizing chars with
  | nil =>
    obtain rfl := Option.some.inj isChars
    rfl
  | cons point rest ih =>
    rw [List.mapM_cons] at isChars
    obtain ⟨c, isChar, isChars⟩ := Option.bind_eq_some_iff.mp isChars
    obtain ⟨others, isOthers, isList⟩ := Option.bind_eq_some_iff.mp isChars
    obtain rfl := Option.some.inj isList
    have isPoint : point = .char c := by
      cases point with
      | char value => exact congrArg CodePoint.char (Option.some.inj isChar)
      | surrogate index => cases isChar
    rw [isPoint]
    exact congrArg (fun text : Text => mk (.char c :: text.points)) (ih others isOthers)

/-- The order of texts by their code points. -/
instance : LT Text where
  lt a b := a.codes < b.codes

instance (a b : Text) : Decidable (a < b) :=
  inferInstanceAs (Decidable (a.codes < b.codes))

theorem lt_irrefl (a : Text) : ¬a < a :=
  List.lt_irrefl a.codes

theorem lt_trans {a b c : Text} (first : a < b) (second : b < c) : a < c :=
  List.lt_trans first second

/-- Texts neither of which stands before the other are one text. -/
theorem eq_of_not_lt {a b : Text} (notLess : ¬a < b) (notMore : ¬b < a) : a = b :=
  codes_injective (List.le_antisymm (List.not_lt.mp notMore) (List.not_lt.mp notLess))

end Text

end BridgeState
