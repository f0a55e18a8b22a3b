import BridgeState.Hex
import BridgeState.Proofs.EncodedTexts
import Mathlib.Data.List.DropRight
import Mathlib.Data.List.Forall2

/-!
# Texts of ids and addresses

What `HexString.normalize` accepts is a grammar of ASCII: without the white space at its ends a text
is `0x` or `0X` and one or more digits of either case. It is judged by its small letters, and
letters beyond ASCII have small letters too, one of them even in ASCII; but no mark and no digit of
an id is the small letter of such a one (`ascii_of_lower`), so whatever is accepted was written in
ASCII. An accepted text stands for itself in small letters, and two of them stand for the same id
where they differ in the white space at their ends and in the case of letters only. A text that is
refused breaks one of three rules (`HexFault.Applies`).
-/

namespace BridgeState

set_option autoImplicit false

open Text

namespace CodePoint

/-- White space that is dropped around a text; a single surrogate is none. -/
def isBlank : CodePoint → Bool
  | .char value => isStrippable value
  | .surrogate _ => false

/-- The same code point, or the same letter of ASCII in the other case. -/
inductive SameLetter : CodePoint → CodePoint → Prop
  | same (point : CodePoint) : SameLetter point point
  | small (letter : Char) : SameLetter (.char letter) (.char letter.toLower)
  | capital (letter : Char) : SameLetter (.char letter) (.char letter.toUpper)

theorem same_letter_iff {one other : Char} (ascii : one.toNat < 0x80)
    (otherAscii : other.toNat < 0x80) :
    SameLetter (.char one) (.char other) ↔ one.toLower = other.toLower := by
  -- A letter that is not small is the capital of its small form.
  have either {c : Char} (ascii : c.toNat < 0x80) : c = c.toLower ∨ c = c.toLower.toUpper :=
    of_ascii (p := fun c => c = c.toLower ∨ c = c.toLower.toUpper) (by decide) ascii
  constructor
  · intro letters
    cases letters with
    | same => rfl
    | small =>
        exact (of_ascii (p := fun c => c.toLower.toLower = c.toLower) (by decide) ascii).symm
    | capital =>
        exact (of_ascii (p := fun c => c.toUpper.toLower = c.toLower) (by decide) ascii).symm
  · intro same
    rcases either ascii with oneSmall | oneCapital <;>
      rcases either otherAscii with otherSmall | otherCapital
    · rw [oneSmall, same, ← otherSmall]
      exact .same _
    · rw [otherCapital, ← same, ← oneSmall]
      exact .capital one
    · rw [otherSmall, ← same]
      exact .small one
    · rw [oneCapital, same, ← otherCapital]
      exact .same _

theorem same_letters_iff {one other : List Char} (ascii : ∀ c ∈ one, c.toNat < 0x80)
    (otherAscii : ∀ c ∈ other, c.toNat < 0x80) :
    List.Forall₂ SameLetter (one.map .char) (other.map .char) ↔
      one.map Char.toLower = other.map Char.toLower := by
  induction one generalizing other with
  | nil => cases other <;> simp
  | cons c rest ih =>
      cases other with
      | nil => simp
      | cons d others =>
          rw [List.forall_mem_cons] at ascii otherAscii
          rw [List.map_cons, List.map_cons, List.forall₂_cons, List.map_cons, List.map_cons,
            List.cons.injEq, ih ascii.2 otherAscii.2, same_letter_iff ascii.1 otherAscii.1]

end CodePoint

namespace Text

/-! ## White space at the ends -/

def stripped (text : Text) : Text :=
  ⟨(text.points.dropWhile CodePoint.isBlank).rdropWhile CodePoint.isBlank⟩

theorem shown_chars_char (value : Char) (rest : List CodePoint) :
    shownChars ⟨.char value :: rest⟩ = value :: shownChars ⟨rest⟩ := rfl

theorem shown_chars_surrogate (index : Fin 2048) (rest : List CodePoint) :
    shownChars ⟨.surrogate index :: rest⟩ = List.replicate 3 '\ufffd' ++ shownChars ⟨rest⟩ := rfl

theorem shown_chars_reverse (points : List CodePoint) :
    (shownChars ⟨points⟩).reverse = shownChars ⟨points.reverse⟩ := by
  simp only [shownChars, List.reverse_flatMap]
  congr 1
  funext point
  cases point with
  | char value => rfl
  | surrogate index => rfl

theorem drop_while_shown (points : List CodePoint) :
    (shownChars ⟨points⟩).dropWhile isStrippable =
      shownChars ⟨points.dropWhile CodePoint.isBlank⟩ := by
  induction points with
  | nil => rfl
  | cons point rest ih =>
      cases point with
      | char value =>
          rw [shown_chars_char, List.dropWhile_cons, List.dropWhile_cons, CodePoint.isBlank, ih]
          split
          · rfl
          · rfl
      | surrogate index =>
          have notBlank : isStrippable '\ufffd' = false := by decide
          rw [shown_chars_surrogate, List.replicate_succ, List.cons_append, List.dropWhile_cons,
            notBlank]
          rfl

/-- What stands for a surrogate is no white space, so a text may be stripped before it is shown. -/
theorem trim_shown (text : Text) :
    trim isStrippable text.shownChars = text.stripped.shownChars := by
  rw [trim, drop_while_shown, shown_chars_reverse, drop_while_shown, shown_chars_reverse]
  rfl

theorem stripped_of_no_blank {text : List Char} (noBlank : ∀ c ∈ text, isStrippable c = false) :
    (ofChars text).stripped = ofChars text := by
  have points : ∀ point ∈ text.map CodePoint.char, ¬CodePoint.isBlank point = true := by
    intro point inside
    obtain ⟨c, isChar, rfl⟩ := List.mem_map.mp inside
    exact Bool.not_eq_true _ ▸ noBlank c isChar
  have front : (text.map CodePoint.char).dropWhile CodePoint.isBlank = text.map CodePoint.char :=
    List.dropWhile_eq_self_iff.mpr fun inside => points _ (List.getElem_mem inside)
  rw [stripped, ofChars, front, List.rdropWhile_eq_self_iff.mpr fun filled =>
    points _ (List.getLast_mem filled)]

/-- A text that shows characters of ASCII only holds no surrogate. -/
theorem of_shown_ascii {points : List CodePoint}
    (ascii : ∀ c ∈ shownChars ⟨points⟩, c.toNat < 0x80) :
    points = (shownChars ⟨points⟩).map CodePoint.char := by
  induction points with
  | nil => rfl
  | cons point rest ih =>
      cases point with
      | char value =>
          rw [shown_chars_char, List.forall_mem_cons] at ascii
          rw [shown_chars_char, List.map_cons, ← ih ascii.2]
      | surrogate index =>
          have mark := ascii '\ufffd' (by simp [shown_chars_surrogate])
          exact absurd mark (by decide)

/-! ## Small letters -/

theorem lower_char_ascii {c : Char} (ascii : c.toNat < 0x80) : lowerChar c = [c.toLower] :=
  of_ascii (p := fun c => lowerChar c = [c.toLower]) (by decide) ascii

theorem lower_after_ascii (before : List Char) {text : List Char}
    (ascii : ∀ c ∈ text, c.toNat < 0x80) : lowerAfter before text = text.map Char.toLower := by
  induction text generalizing before with
  | nil => rfl
  | cons c rest ih =>
      rw [List.forall_mem_cons] at ascii
      have noSigma : (c.toNat == 0x3A3) = false := by
        rw [beq_eq_false_iff_ne]
        omega
      rw [lowerAfter, noSigma, lower_char_ascii ascii.1, ih (c :: before) ascii.2]
      rfl

def isHexMark (c : Char) : Bool :=
  isLowerHexDigit c || c == 'x'

theorem ascii_of_hex_mark {c : Char} (mark : isHexMark c = true) : c.toNat < 0x80 := by
  rw [isHexMark, Bool.or_eq_true, beq_iff_eq] at mark
  rcases mark with digit | rfl
  · simp only [isLowerHexDigit, Bool.or_eq_true, Bool.and_eq_true, decide_eq_true_eq] at digit
    omega
  · decide

theorem not_hex_mark_of_wide {c : Char} (wide : 0x80 ≤ c.toNat) : isHexMark c = false :=
  Bool.eq_false_iff.mpr fun mark => absurd (ascii_of_hex_mark mark) (Nat.not_lt.mpr wide)

/-- No capital beyond ASCII has its small letter in ASCII but the sign of the kelvin, and that
letter is `k`. -/
theorem small_letters_beyond {run : CaseRun} (listed : run ∈ smallLetterRuns) {code : Nat}
    (first : run.first ≤ code) (last : code ≤ run.last) :
    0x80 ≤ (code : Int) + run.shift ∨ (code : Int) + run.shift = 0x6B := by
  have all : (smallLetterRuns.all fun run =>
      decide (0x80 ≤ (run.first : Int) + run.shift) ||
        run.first == run.last && decide ((run.first : Int) + run.shift = 0x6B)) = true := by
    decide +kernel
  have found := List.all_eq_true.mp all run listed
  simp only [Bool.or_eq_true, Bool.and_eq_true, decide_eq_true_eq, beq_iff_eq] at found
  omega

theorem lower_char_wide {c : Char} (wide : 0x80 ≤ c.toNat) :
    ∃ d ∈ lowerChar c, isHexMark d = false := by
  unfold lowerChar
  rw [if_neg (Nat.not_lt.mpr wide)]
  split
  · exact ⟨'i', List.mem_cons_self, by decide⟩
  · split
    · rename_i run found
      have listed := List.mem_of_find?_eq_some found
      have inRun := List.find?_some found
      simp only [Bool.and_eq_true, decide_eq_true_eq] at inRun
      refine ⟨_, List.mem_singleton_self _, ?_⟩
      rcases small_letters_beyond listed inRun.1.1 inRun.1.2 with beyond | kelvin
      · by_cases valid : ((c.toNat : Int) + run.shift).toNat.isValidChar
        · refine not_hex_mark_of_wide ?_
          rw [Char.ofNat, dif_pos valid]
          change 0x80 ≤ ((c.toNat : Int) + run.shift).toNat
          omega
        · rw [Char.ofNat, dif_neg valid]
          decide
      · rw [kelvin]
        decide
    · exact ⟨c, List.mem_singleton_self c, not_hex_mark_of_wide wide⟩

/-- A text whose small letters are marks and digits of an id is in ASCII. -/
theorem ascii_of_lower (before : List Char) {text : List Char}
    (marks : ∀ d ∈ lowerAfter before text, isHexMark d = true) : ∀ c ∈ text, c.toNat < 0x80 := by
  induction text generalizing before with
  | nil => exact List.forall_mem_nil _
  | cons c rest ih =>
      rw [lowerAfter, List.forall_mem_append] at marks
      refine List.forall_mem_cons.mpr ⟨?_, ih (c :: before) marks.2⟩
      by_contra wide
      obtain ⟨d, inside, other⟩ := lower_char_wide (Nat.le_of_not_lt wide)
      split at marks
      · -- The sigma has two small letters, and neither is a mark.
        have either : ∀ final : Bool,
            isHexMark (if final then '\u03c2' else '\u03c3') = false := by decide
        have mark := marks.1 _ (List.mem_singleton_self _)
        rw [either] at mark
        cases mark
      · rw [marks.1 d inside] at other
        cases other

/-- Texts that differ at most in the white space at their ends and in the case of letters. -/
def SameButCase (one other : Text) : Prop :=
  List.Forall₂ CodePoint.SameLetter one.stripped.points other.stripped.points

/-- The text on which a spelling is judged: stripped, and in small letters. -/
def judged (text : Text) : List Char :=
  lower text.stripped.shownChars

theorem canonical_text_judged (value : Text) :
    canonicalText value = String.ofList value.judged := by
  rw [canonicalText, trim_shown, judged]

end Text

/-! ## The grammar -/

/-- The grammar of ids and addresses: `0x` or `0X`, and one or more digits of either case. -/
def IsHexLiteral (text : List Char) : Prop :=
  ∃ mark digits, text = '0' :: mark :: digits ∧ (mark = 'x' ∨ mark = 'X') ∧ digits ≠ [] ∧
    ∀ c ∈ digits, isHexDigit c = true

theorem ascii_of_hex_digit {c : Char} (digit : isHexDigit c = true) : c.toNat < 0x80 := by
  obtain ⟨value, read⟩ := Option.isSome_iff_exists.mp digit
  have ranges := hexValue_eq_some_iff.mp read
  omega

theorem IsHexLiteral.ascii {literal : List Char} (spells : IsHexLiteral literal) :
    ∀ c ∈ literal, c.toNat < 0x80 := by
  obtain ⟨mark, digits, rfl, isMark, -, all⟩ := spells
  refine List.forall_mem_cons.mpr ⟨by decide, List.forall_mem_cons.mpr ⟨?_, ?_⟩⟩
  · rcases isMark with rfl | rfl <;> decide
  · exact fun c inside => ascii_of_hex_digit (all c inside)

theorem normal_chars_iff (text : List Char) : isNormalHexChars text = true ↔
    ∃ digits, text = '0' :: 'x' :: digits ∧ digits ≠ [] ∧
      ∀ c ∈ digits, isLowerHexDigit c = true := by
  constructor
  · intro normal
    unfold isNormalHexChars at normal
    split at normal
    · rename_i digit more
      rw [Bool.and_eq_true, List.all_eq_true] at normal
      exact ⟨digit :: more, rfl, List.cons_ne_nil _ _, List.forall_mem_cons.mpr normal⟩
    · cases normal
  · rintro ⟨digits, rfl, nonempty, all⟩
    cases digits with
    | nil => exact absurd rfl nonempty
    | cons digit more =>
        rw [List.forall_mem_cons] at all
        simp [isNormalHexChars, all.1, List.all_eq_true.mpr all.2]

theorem hex_mark_of_normal {text : List Char} (normal : isNormalHexChars text = true) :
    ∀ c ∈ text, isHexMark c = true := by
  obtain ⟨digits, rfl, -, all⟩ := (normal_chars_iff _).mp normal
  refine List.forall_mem_cons.mpr ⟨by decide, List.forall_mem_cons.mpr ⟨by decide, ?_⟩⟩
  intro c inside
  rw [isHexMark, all c inside, Bool.true_or]

/-- The small letters of a text in ASCII are in normal form where the text is in the grammar. -/
theorem normal_small_iff {text : List Char} (ascii : ∀ c ∈ text, c.toNat < 0x80) :
    isNormalHexChars (text.map Char.toLower) = true ↔ IsHexLiteral text := by
  have zero {c : Char} (ascii : c.toNat < 0x80) : c.toLower = '0' ↔ c = '0' :=
    of_ascii (p := fun c => c.toLower = '0' ↔ c = '0') (by decide) ascii
  have mark {c : Char} (ascii : c.toNat < 0x80) : c.toLower = 'x' ↔ c = 'x' ∨ c = 'X' :=
    of_ascii (p := fun c => c.toLower = 'x' ↔ c = 'x' ∨ c = 'X') (by decide) ascii
  have digit {c : Char} (ascii : c.toNat < 0x80) : isLowerHexDigit c.toLower = isHexDigit c :=
    of_ascii (p := fun c => isLowerHexDigit c.toLower = isHexDigit c) (by decide) ascii
  rw [normal_chars_iff]
  constructor
  · rintro ⟨digits, isSmall, nonempty, all⟩
    obtain ⟨first, rest, rfl, isZero, isSmall⟩ := List.map_eq_cons_iff.mp isSmall
    obtain ⟨second, rest, rfl, isMark, rfl⟩ := List.map_eq_cons_iff.mp isSmall
    rw [List.forall_mem_cons, List.forall_mem_cons] at ascii
    obtain rfl := (zero ascii.1).mp isZero
    refine ⟨second, rest, rfl, (mark ascii.2.1).mp isMark, mt List.map_eq_nil_iff.mpr nonempty,
      fun c inside => ?_⟩
    rw [← digit (ascii.2.2 c inside)]
    exact all _ (List.mem_map_of_mem inside)
  · rintro ⟨second, rest, rfl, isMark, nonempty, all⟩
    rw [List.forall_mem_cons, List.forall_mem_cons] at ascii
    refine ⟨rest.map Char.toLower, ?_, mt List.map_eq_nil_iff.mp nonempty, ?_⟩
    · rw [List.map_cons, List.map_cons, (mark ascii.2.1).mpr isMark]
      rfl
    · intro c inside
      obtain ⟨letter, inRest, rfl⟩ := List.mem_map.mp inside
      rw [digit (ascii.2.2 letter inRest)]
      exact all letter inRest

/-- What is in normal form once it is judged was a text of the grammar. -/
theorem literal_of_judged {value : Text} (normal : isNormalHexChars value.judged = true) :
    ∃ literal, IsHexLiteral literal ∧ value.stripped = ofChars literal ∧
      value.judged = literal.map Char.toLower := by
  have ascii := ascii_of_lower [] (hex_mark_of_normal normal)
  have small : value.judged = value.stripped.shownChars.map Char.toLower :=
    lower_after_ascii [] ascii
  refine ⟨value.stripped.shownChars, ?_, congrArg Text.mk (of_shown_ascii ascii), small⟩
  rw [← normal_small_iff ascii, ← small]
  exact normal

theorem judged_of_literal {value : Text} {literal : List Char} (spells : IsHexLiteral literal)
    (stripped : value.stripped = ofChars literal) : value.judged = literal.map Char.toLower := by
  rw [judged, stripped, shownChars_ofChars]
  exact lower_after_ascii [] spells.ascii

namespace HexString

theorem normalize_ok_iff {value : Text} {hex : HexString} :
    normalize value = .ok hex ↔ value.judged = hex.text.toList := by
  have canonical := canonical_text_judged value
  constructor
  · intro spells
    simp only [normalize] at spells
    split at spells
    · cases spells
    · split at spells
      · cases spells
      · split at spells
        · have text := congrArg HexString.text (Except.ok.inj spells)
          rw [← text]
          simp only [canonical, String.toList_ofList]
        · cases spells
  · intro judged
    obtain ⟨digits, chars, nonempty, -⟩ := (normal_chars_iff _).mp hex.normal
    have same : canonicalText value = hex.text := by rw [canonical, judged, String.ofList_toList]
    have marked : hexMarked hex.text.toList = true := by
      rw [chars]
      rfl
    have longer : (hex.text == "0x") = false := by
      rw [beq_eq_false_iff_ne]
      intro short
      rw [short] at chars
      injection chars with _ chars
      injection chars with _ chars
      exact nonempty chars.symm
    simp only [normalize, same, marked, longer, hex.normal]
    rfl

theorem chars_of_normal (hex : HexString) :
    ∃ digit more, hex.text.toList = '0' :: 'x' :: digit :: more ∧
      ∀ c ∈ digit :: more, isLowerHexDigit c = true := by
  obtain ⟨digits, chars, nonempty, all⟩ := (normal_chars_iff _).mp hex.normal
  obtain ⟨digit, more, rfl⟩ := List.exists_cons_of_ne_nil nonempty
  exact ⟨digit, more, chars, all⟩

theorem small_of_normal (hex : HexString) :
    ∀ c ∈ hex.text.toList, isLowerHexDigit c = true ∨ c = 'x' := by
  intro c inside
  have mark := hex_mark_of_normal hex.normal c inside
  rwa [isHexMark, Bool.or_eq_true, beq_iff_eq] at mark

/-- What is in normal form already stays as it is. -/
theorem normalize_text (hex : HexString) : normalize (hex.text : Text) = .ok hex := by
  have kept : ∀ c ∈ hex.text.toList,
      c.toNat < 0x80 ∧ c.toLower = c ∧ isStrippable c = false := by
    intro c inside
    have mark := hex_mark_of_normal hex.normal c inside
    have ascii := ascii_of_hex_mark mark
    exact ⟨ascii, of_ascii
      (p := fun c => isHexMark c = true → c.toLower = c ∧ isStrippable c = false) (by decide)
      ascii mark⟩
  have stripped : (ofString hex.text).stripped = ofChars hex.text.toList :=
    stripped_of_no_blank fun c inside => (kept c inside).2.2
  have small : hex.text.toList.map Char.toLower = hex.text.toList :=
    (List.map_congr_left fun c inside => (kept c inside).2.1).trans (List.map_id _)
  have literal : IsHexLiteral hex.text.toList := by
    rw [← normal_small_iff fun c inside => (kept c inside).1, small]
    exact hex.normal
  rw [normalize_ok_iff, judged_of_literal literal stripped, small]

theorem literal_of_normalize {value : Text} {hex : HexString} (spells : normalize value = .ok hex) :
    ∃ literal, IsHexLiteral literal ∧ value.stripped = ofChars literal ∧
      hex.text.toList = literal.map Char.toLower := by
  rw [← normalize_ok_iff.mp spells]
  refine literal_of_judged ?_
  rw [normalize_ok_iff.mp spells]
  exact hex.normal

theorem accepts_iff {value : Text} : (∃ hex, normalize value = .ok hex) ↔
    ∃ literal, IsHexLiteral literal ∧ value.stripped = ofChars literal := by
  constructor
  · rintro ⟨hex, spells⟩
    obtain ⟨literal, isLiteral, stripped, -⟩ := literal_of_normalize spells
    exact ⟨literal, isLiteral, stripped⟩
  · rintro ⟨literal, isLiteral, stripped⟩
    have normal : isNormalHexChars value.judged = true := by
      rw [judged_of_literal isLiteral stripped]
      exact (normal_small_iff isLiteral.ascii).mpr isLiteral
    refine ⟨⟨String.ofList value.judged, ?_⟩, normalize_ok_iff.mpr ?_⟩
    · rwa [isNormalHex, String.toList_ofList]
    · rw [String.toList_ofList]

theorem eq_iff_same_but_case {value other : Text} {hex otherHex : HexString}
    (spells : normalize value = .ok hex) (spellsOther : normalize other = .ok otherHex) :
    hex = otherHex ↔ value.SameButCase other := by
  obtain ⟨literal, isLiteral, stripped, small⟩ := literal_of_normalize spells
  obtain ⟨otherLiteral, isOther, otherStripped, otherSmall⟩ := literal_of_normalize spellsOther
  rw [← text_inj, ← String.toList_inj, small, otherSmall, SameButCase, stripped, otherStripped]
  exact (CodePoint.same_letters_iff isLiteral.ascii isOther.ascii).symm

end HexString

/-! ## Refused texts -/

inductive HexFault.Applies (value : Text) : HexFault → Prop
  | notMarked (unmarked : ¬['0', 'x'] <+: value.judged) : Applies value (.notMarked value)
  | noDigits (bare : value.judged = ['0', 'x']) : Applies value .noDigits
  | notHex (c : Char) (digits : List Char) (marked : value.judged = '0' :: 'x' :: digits)
      (inside : c ∈ digits) (other : isLowerHexDigit c = false) : Applies value (.notHex value)

namespace HexFault.Applies

variable {value : Text}

/-- A text breaks at most one rule. -/
theorem unique {first second : HexFault} (one : first.Applies value)
    (other : second.Applies value) : first = second := by
  cases one with
  | notMarked unmarked =>
      cases other with
      | notMarked => rfl
      | noDigits bare => exact absurd ⟨[], bare.symm⟩ unmarked
      | notHex c digits marked => exact absurd ⟨digits, marked.symm⟩ unmarked
  | noDigits bare =>
      cases other with
      | notMarked unmarked => exact absurd ⟨[], bare.symm⟩ unmarked
      | noDigits => rfl
      | notHex c digits marked inside =>
          obtain rfl : [] = digits := by simpa using bare.symm.trans marked
          cases inside
  | notHex c digits marked inside =>
      cases other with
      | notMarked unmarked => exact absurd ⟨digits, marked.symm⟩ unmarked
      | noDigits bare =>
          obtain rfl : [] = digits := by simpa using bare.symm.trans marked
          cases inside
      | notHex => rfl

theorem not_normal {fault : HexFault} (applies : fault.Applies value) :
    isNormalHexChars value.judged = false := by
  rw [← Bool.not_eq_true, normal_chars_iff]
  rintro ⟨digits, isJudged, nonempty, all⟩
  cases applies with
  | notMarked unmarked => exact unmarked ⟨digits, isJudged.symm⟩
  | noDigits bare => exact nonempty (by simpa using (bare.symm.trans isJudged).symm)
  | notHex c others marked inside other =>
      obtain rfl : others = digits := by simpa using marked.symm.trans isJudged
      rw [all c inside] at other
      cases other

theorem of_error {fault : HexFault} (refused : HexString.normalize value = .error fault) :
    fault.Applies value := by
  have chars : (canonicalText value).toList = value.judged := by
    rw [canonical_text_judged, String.toList_ofList]
  simp only [HexString.normalize, chars] at refused
  split at refused
  · rename_i unmarked
    obtain rfl := Except.error.inj refused
    refine .notMarked ?_
    rintro ⟨rest, marked⟩
    rw [← marked] at unmarked
    cases unmarked
  · rename_i marked
    have isMarked : hexMarked value.judged = true := by simpa using marked
    unfold hexMarked at isMarked
    split at isMarked
    · rename_i digits isJudged
      split at refused
      · rename_i short
        obtain rfl := Except.error.inj refused
        refine .noDigits ?_
        rw [← chars, beq_iff_eq.mp short]
        rfl
      · rename_i longer
        split at refused
        · cases refused
        · rename_i notNormal
          obtain rfl := Except.error.inj refused
          by_contra none
          have nonempty : digits ≠ [] := by
            rintro rfl
            exact longer (beq_iff_eq.mpr (String.toList_inj.mp (chars.trans isJudged)))
          have all : ∀ c ∈ digits, isLowerHexDigit c = true := by
            intro c inside
            by_contra other
            exact none (.notHex c digits isJudged inside (Bool.eq_false_iff.mpr other))
          refine notNormal ?_
          rw [isNormalHex, chars]
          exact (normal_chars_iff _).mpr ⟨digits, isJudged, nonempty, all⟩
    · cases isMarked

end HexFault.Applies

namespace HexString

theorem normalize_error_iff {value : Text} {fault : HexFault} :
    normalize value = .error fault ↔ fault.Applies value := by
  refine ⟨.of_error, fun applies => ?_⟩
  cases found : normalize value with
  | ok hex =>
      have normal := hex.normal
      rw [isNormalHex, ← normalize_ok_iff.mp found, applies.not_normal] at normal
      cases normal
  | error other => rw [(HexFault.Applies.of_error found).unique applies]

theorem refused_iff {value : Text} : (¬∃ hex, normalize value = .ok hex) ↔
    ∃! fault : HexFault, fault.Applies value := by
  constructor
  · intro refused
    cases found : normalize value with
    | ok hex => exact absurd ⟨hex, found⟩ refused
    | error fault =>
        have applies := normalize_error_iff.mp found
        exact ⟨fault, applies, fun other appliesToo => appliesToo.unique applies⟩
  · rintro ⟨fault, applies, -⟩ ⟨hex, spells⟩
    rw [normalize_error_iff.mpr applies] at spells
    cases spells

/-- Ids and addresses are read by their grammar. A text is accepted where it is in the grammar once
the white space at its ends is off, and then it stands for itself in small letters; that form stands
for itself, and two accepted texts stand for the same id where they differ in white space at their
ends and in case only. Any other text is refused for the one rule that it breaks. -/
theorem normalize_reads_grammar (value : Text) :
    ((∃ hex, normalize value = .ok hex) ↔
      ∃ literal, IsHexLiteral literal ∧ value.stripped = ofChars literal) ∧
    (∀ hex, normalize value = .ok hex →
      (∃ literal, IsHexLiteral literal ∧ value.stripped = ofChars literal ∧
        hex.text = String.ofList (literal.map Char.toLower)) ∧
      normalize (hex.text : Text) = .ok hex ∧
      ∀ other otherHex, normalize other = .ok otherHex →
        (hex = otherHex ↔ value.SameButCase other)) ∧
    (∀ fault, normalize value = .error fault ↔ fault.Applies value) ∧
    ((¬∃ hex, normalize value = .ok hex) ↔ ∃! fault : HexFault, fault.Applies value) := by
  refine ⟨accepts_iff, fun hex spells => ⟨?_, hex.normalize_text, fun _ _ spellsOther =>
    eq_iff_same_but_case spells spellsOther⟩, fun _ => normalize_error_iff, refused_iff⟩
  obtain ⟨literal, isLiteral, stripped, small⟩ := literal_of_normalize spells
  exact ⟨literal, isLiteral, stripped, by rw [← small, String.ofList_toList]⟩

/-- Two spellings of one address, and a text that has the sign of the kelvin for a digit. -/
theorem normalize_reads_grammar_spaced :
    Text.SameButCase ("\u00a00Xa0F\n" : String) ("0xA0f" : String) ∧
      ∃! fault : HexFault, fault.Applies ("0x\u212a" : String) := by
  have address : normalize ("\u00a00Xa0F\n" : String) = .ok ⟨"0xa0f", by decide⟩ := by
    decide +kernel
  have spelled : normalize ("0xA0f" : String) = .ok ⟨"0xa0f", by decide⟩ := by decide +kernel
  have kelvin : normalize ("0x\u212a" : String) = .error (.notHex ("0x\u212a" : String)) := by
    decide +kernel
  obtain ⟨-, accepted, -, -⟩ := normalize_reads_grammar ("\u00a00Xa0F\n" : String)
  obtain ⟨-, -, -, refused⟩ := normalize_reads_grammar ("0x\u212a" : String)
  refine ⟨((accepted _ address).2.2 _ _ spelled).mp rfl, refused.mp ?_⟩
  rintro ⟨hex, spells⟩
  rw [kelvin] at spells
  cases spells

end HexString

end BridgeState
