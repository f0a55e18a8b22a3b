import BridgeState.Schema.Decoder
import Mathlib.Algebra.Order.Field.Rat
import Mathlib.Data.List.TakeWhile
import Mathlib.Tactic.FieldSimp

/-!
# Numbers that values denote

An integer denotes itself, a truth value one or zero, a double its exact value, and a text the number
that its digits write. A value that is read as a natural number denotes that number: nothing is
rounded or cut off, at any size.
-/

namespace BridgeState

set_option autoImplicit false

/-! ## Texts -/

namespace Text

def notPoint (c : Char) : Bool :=
  c != '.'

def digits (text : List Char) : List Nat :=
  text.filterMap asciiDigit?

/-- The number that the digits of a text write, those from a point on as its fraction. -/
def magnitude (text : List Char) : ℚ :=
  let fraction := digits (text.dropWhile notPoint)
  decimalNumber (digits (text.takeWhile notPoint)) + decimalNumber fraction / 10 ^ fraction.length

/-- The number that a numeral denotes, negative where it has a minus. Blanks, underscores, a plus and
whatever else is neither a digit, a point nor a minus count for nothing. -/
def denoted (text : List Char) : ℚ :=
  if '-' ∈ text then -magnitude text else magnitude text

def isCounted (c : Char) : Bool :=
  (asciiDigit? c).isSome || c == '.' || c == '-'

theorem digits_cons_none {c : Char} (none : asciiDigit? c = none) (rest : List Char) :
    digits (c :: rest) = digits rest :=
  List.filterMap_cons_none none

theorem digits_append (first second : List Char) :
    digits (first ++ second) = digits first ++ digits second :=
  List.filterMap_append

theorem digits_zeros (count : Nat) :
    digits (List.replicate count '0') = List.replicate count 0 := by
  rw [digits, List.filterMap_replicate]
  rfl

theorem decimal_number_zeros (count : Nat) (rest : List Nat) :
    decimalNumber (List.replicate count 0 ++ rest) = decimalNumber rest := by
  induction count with
  | zero => rfl
  | succ count ih => exact ih

theorem digits_counted (text : List Char) : digits (text.filter isCounted) = digits text := by
  rw [digits, List.filterMap_filter]
  refine List.filterMap_congr fun c _ => ?_
  cases digit : asciiDigit? c with
  | none => rw [ite_self]
  | some value => rw [isCounted, digit]; rfl

/-- A point is counted, so the characters that do not count are all on one side of it. -/
theorem uncounted_or_not_point : (fun c => !isCounted c || notPoint c) = notPoint := by
  funext c
  by_cases point : c = '.'
  · subst point
    rfl
  · rw [notPoint, bne_iff_ne.mpr point, Bool.or_true]

theorem whole_counted (text : List Char) :
    digits ((text.filter isCounted).takeWhile notPoint) = digits (text.takeWhile notPoint) := by
  rw [List.takeWhile_filter, uncounted_or_not_point, digits_counted]

theorem fraction_counted (text : List Char) :
    digits ((text.filter isCounted).dropWhile notPoint) = digits (text.dropWhile notPoint) := by
  rw [List.dropWhile_filter, uncounted_or_not_point, digits_counted]

/-- What a text denotes depends on the characters that count alone. -/
theorem denoted_counted (text : List Char) : denoted (text.filter isCounted) = denoted text := by
  have minus : '-' ∈ text.filter isCounted ↔ '-' ∈ text := by
    rw [List.mem_filter]
    exact and_iff_left rfl
  simp only [denoted, minus, magnitude, whole_counted, fraction_counted]

theorem denoted_congr {one other : List Char}
    (same : one.filter isCounted = other.filter isCounted) : denoted one = denoted other := by
  rw [← denoted_counted one, same, denoted_counted]

theorem not_counted_of_white (c : Char) (white : isWhite c = true) : isCounted c = false := by
  rw [Bool.eq_false_iff]
  intro counted
  simp only [isCounted, Bool.or_eq_true, beq_iff_eq] at counted
  rcases counted with (digit | rfl) | rfl
  · simp only [asciiDigit?] at digit
    split at digit
    · rename_i inRange
      simp only [isWhite, inRanges, whiteRanges, List.any_cons, List.any_nil, Bool.or_eq_true,
        Bool.and_eq_true, decide_eq_true_eq, Bool.or_false] at white inRange
      omega
    · cases digit
  · exact absurd white (by decide)
  · exact absurd white (by decide)

theorem denoted_trim (text : List Char) : denoted (trim isWhite text) = denoted text := by
  obtain ⟨before, after, split, whiteBefore, whiteAfter⟩ := trim_between_blanks isWhite text
  have nothing (blanks : List Char) (white : blanks.all isWhite = true) :
      blanks.filter isCounted = [] := by
    refine List.filter_eq_nil_iff.mpr fun c member => ?_
    rw [not_counted_of_white c (List.all_eq_true.mp white c member)]
    exact Bool.false_ne_true
  refine denoted_congr ?_
  conv_rhs => rw [split]
  rw [List.filter_append, List.filter_append, nothing before whiteBefore, nothing after whiteAfter,
    List.nil_append, List.append_nil]

def withMinus (negative : Bool) (text : List Char) : List Char :=
  if negative then '-' :: text else text

theorem with_minus_split (text : List Char) :
    text = withMinus (splitMinus text).1 (splitMinus text).2 := by
  unfold splitMinus
  split <;> rfl

theorem filter_with_minus (negative : Bool) (text : List Char) :
    (withMinus negative text).filter isCounted = withMinus negative (text.filter isCounted) := by
  cases negative <;> rfl

theorem denoted_with_minus (negative : Bool) (text : List Char) :
    denoted (withMinus negative text) =
      if negative = true ∨ '-' ∈ text then -magnitude text else magnitude text := by
  cases negative with
  | false => simp only [withMinus, denoted, Bool.false_eq_true, if_false, false_or]
  | true =>
      rw [if_pos (Or.inl rfl)]
      exact if_pos List.mem_cons_self

/-- Zeros in front count for nothing. -/
theorem denoted_zeros (negative : Bool) (count : Nat) (text : List Char) :
    denoted (withMinus negative (List.replicate count '0' ++ text)) =
      denoted (withMinus negative text) := by
  have noMinus : '-' ∈ List.replicate count '0' ++ text ↔ '-' ∈ text := by
    rw [List.mem_append]
    exact or_iff_right fun member => absurd (List.eq_of_mem_replicate member) (by decide)
  have noPoint : ∀ c ∈ List.replicate count '0', notPoint c = true := fun c member =>
    List.eq_of_mem_replicate member ▸ rfl
  have plain : magnitude (List.replicate count '0' ++ text) = magnitude text := by
    simp only [magnitude, List.takeWhile_append_of_pos noPoint, List.dropWhile_append_of_pos noPoint,
      digits_append, digits_zeros, decimal_number_zeros]
  simp only [denoted_with_minus, noMinus, plain]

/-- What is left behind zeros is the text without some of them. -/
theorem behind_zero_counted (last : Char) (text kept : List Char) (isLast : last = '0' ∨ last = '_')
    (isKept : behindZero last text = some kept) :
    ∃ count, (last :: text).filter isCounted =
      List.replicate count '0' ++ kept.filter isCounted := by
  induction text generalizing last with
  | nil =>
      obtain rfl := Option.some.inj isKept
      exact ⟨0, rfl⟩
  | cons c rest ih =>
      have oneMore (count : Nat) (left : List Char)
          (isLeft : (c :: rest).filter isCounted = List.replicate count '0' ++ left) :
          ∃ count, (last :: c :: rest).filter isCounted = List.replicate count '0' ++ left := by
        rcases isLast with rfl | rfl
        · exact ⟨count + 1, congrArg ('0' :: ·) isLeft⟩
        · exact ⟨count, isLeft⟩
      unfold behindZero at isKept
      split at isKept
      · rename_i skipped
        obtain ⟨count, isLeft⟩ := ih c (by simpa using skipped) isKept
        exact oneMore count _ isLeft
      · split at isKept
        · obtain rfl := Option.some.inj isKept
          exact oneMore 0 _ rfl
        · split at isKept
          · obtain rfl := Option.some.inj isKept
            exact ⟨0, rfl⟩
          · cases isKept

theorem without_leading_zeros_counted (text kept : List Char)
    (isKept : withoutLeadingZeros text = some kept) :
    ∃ count, text.filter isCounted = List.replicate count '0' ++ kept.filter isCounted := by
  cases text with
  | nil => cases isKept
  | cons c rest =>
      rw [withoutLeadingZeros] at isKept
      split at isKept
      · rename_i zero
        exact behind_zero_counted c rest kept (Or.inl (by simpa using zero)) isKept
      · split at isKept
        · obtain rfl := Option.some.inj isKept
          exact ⟨0, rfl⟩
        · cases isKept

theorem take_while_of_cut (text whole fraction : List Char)
    (isCut : cut '.' text = (whole, some fraction)) :
    text.takeWhile notPoint = whole ∧ text.dropWhile notPoint = '.' :: fraction := by
  induction text generalizing whole with
  | nil => cases isCut
  | cons c rest ih =>
      by_cases point : c = '.'
      · subst point
        obtain ⟨rfl, isFraction⟩ := Prod.mk.inj isCut
        obtain rfl := Option.some.inj isFraction
        exact ⟨rfl, rfl⟩
      · have goesOn : notPoint c = true := bne_iff_ne.mpr point
        rcases inner : cut '.' rest with ⟨head, tail⟩
        rw [cut, if_neg (by simpa using point), inner] at isCut
        obtain ⟨rfl, rfl⟩ := Prod.mk.inj isCut
        obtain ⟨isHead, isTail⟩ := ih head inner
        rw [List.takeWhile_cons_of_pos goesOn, List.dropWhile_cons_of_pos goesOn]
        exact ⟨congrArg (c :: ·) isHead, isTail⟩

/-- The magnitude of a text without a point. -/
theorem magnitude_of_whole (text : List Char) (whole : ∀ c ∈ text, notPoint c = true) :
    magnitude text = decimalNumber (digits text) := by
  have noFraction : text.dropWhile notPoint = [] := List.dropWhile_eq_nil_iff.mpr whole
  have isWhole : text.takeWhile notPoint = text := List.takeWhile_eq_self_iff.mpr whole
  simp only [magnitude, noFraction, isWhole]
  exact (congrArg _ (zero_div _)).trans (add_zero _)

/-- A fraction of zeros counts for nothing. -/
theorem denoted_without_zero_fraction (text : List Char) :
    denoted (withoutZeroFraction text) = denoted text := by
  unfold withoutZeroFraction
  split
  · rename_i whole zero zeros isCut
    split
    · rename_i allZero
      obtain ⟨isWhole, isFraction⟩ := take_while_of_cut text whole (zero :: zeros) isCut
      obtain ⟨count, isZeros⟩ : ∃ count, zero :: zeros = List.replicate count '0' :=
        ⟨_, List.eq_replicate_of_mem fun c member => by
          simpa using List.all_eq_true.mp allZero c member⟩
      have noMinus : '-' ∈ text ↔ '-' ∈ whole := by
        rw [cut_some '.' text whole _ isCut, List.mem_append, isZeros]
        refine or_iff_left fun member => ?_
        rcases List.mem_cons.mp member with point | zero
        · exact absurd point (by decide)
        · exact absurd (List.eq_of_mem_replicate zero) (by decide)
      have noPoint : ∀ c ∈ whole, notPoint c = true := fun c member =>
        List.mem_takeWhile_imp (isWhole ▸ member)
      have nothing : decimalNumber (digits ('.' :: zero :: zeros)) = 0 := by
        rw [isZeros, digits_cons_none rfl, digits_zeros, ← List.append_nil (List.replicate count 0),
          decimal_number_zeros]
        rfl
      have sameMagnitude : magnitude whole = magnitude text := by
        rw [magnitude_of_whole whole noPoint, magnitude, isWhole, isFraction, nothing]
        simp
      simp only [denoted, noMinus, sameMagnitude]
    · rfl
  · rfl

theorem denoted_without_underscores (text : List Char) :
    denoted (withoutUnderscores text) = denoted text := by
  unfold withoutUnderscores
  split
  · rfl
  · refine denoted_congr ?_
    rw [List.filter_filter]
    refine List.filter_congr fun c _ => ?_
    by_cases underscore : c = '_'
    · subst underscore
      rfl
    · rw [bne_iff_ne.mpr underscore, Bool.and_true]

theorem denoted_in_order (text body : List Char) (ordered : inOrder text = some body) :
    denoted body = denoted text := by
  rw [inOrder, Option.bind_eq_some_iff] at ordered
  obtain ⟨unsigned, isUnsigned, ordered⟩ := ordered
  obtain ⟨kept, isKept, isBody⟩ := Option.map_eq_some_iff.mp ordered
  have sameUnsigned : denoted unsigned = denoted text := by
    rw [← denoted_trim text]
    split at isUnsigned
    · cases isUnsigned
    · rename_i rest _ isTrimmed
      obtain rfl := Option.some.inj isUnsigned
      rw [isTrimmed]
      exact (denoted_counted rest).symm.trans (denoted_counted ('+' :: rest))
    · obtain rfl := Option.some.inj isUnsigned
      rfl
  obtain ⟨count, zeros⟩ := without_leading_zeros_counted _ kept isKept
  rw [← isBody, denoted_without_underscores, denoted_without_zero_fraction]
  calc denoted (withMinus (splitMinus unsigned).1 kept)
      = denoted (withMinus (splitMinus unsigned).1
          (List.replicate count '0' ++ kept.filter isCounted)) := by
        rw [denoted_zeros, ← denoted_counted, filter_with_minus]
    _ = denoted (withMinus (splitMinus unsigned).1 (splitMinus unsigned).2) := by
        rw [← zeros, ← filter_with_minus, denoted_counted]
        rfl
    _ = denoted unsigned := by rw [← with_minus_split]
    _ = denoted text := sameUnsigned

theorem digits_of_plain (text : List Char) (found : List Nat)
    (plain : plainDigits text = (found, [])) :
    digits text = found ∧ ∀ c ∈ text, (asciiDigit? c).isSome = true := by
  unfold plainDigits at plain
  split at plain
  · obtain ⟨rfl, rfl⟩ := Prod.mk.inj plain
    exact ⟨rfl, List.forall_mem_singleton.mpr rfl⟩
  · obtain ⟨isFound, noRest⟩ := Prod.mk.inj plain
    have allDigits := List.dropWhile_eq_nil_iff.mp noRest
    rw [List.takeWhile_eq_self_iff.mpr allDigits] at isFound
    exact ⟨isFound, allDigits⟩

theorem denoted_of_plain (text : List Char) (value : Int)
    (isValue : (PlainNumeral.ofChars text).value? = some value) : (value : ℚ) = denoted text := by
  rcases isMinus : splitMinus text with ⟨negative, body⟩
  rcases isPlain : plainDigits body with ⟨found, rest⟩
  simp only [PlainNumeral.ofChars, isMinus, isPlain, PlainNumeral.value?] at isValue
  split at isValue
  · cases isValue
  · rename_i complete
    simp only [Bool.or_eq_true, Bool.not_eq_true_eq_eq_false, not_or, Bool.not_eq_false,
      List.isEmpty_iff] at complete
    obtain ⟨⟨_, rfl⟩, _⟩ := complete
    obtain ⟨rfl, allDigits⟩ := digits_of_plain body found isPlain
    have noPoint : ∀ c ∈ body, notPoint c = true := by
      intro c member
      refine bne_iff_ne.mpr fun point => ?_
      have isDigit := allDigits c member
      rw [point] at isDigit
      cases isDigit
    have noMinus : '-' ∉ body := fun member => by cases allDigits '-' member
    have isText := with_minus_split text
    rw [isMinus] at isText
    rw [← Option.some.inj isValue, isText, denoted_with_minus, magnitude_of_whole body noPoint]
    cases negative with
    | false =>
        rw [if_neg (by simpa using noMinus)]
        rfl
    | true =>
        rw [if_pos (Or.inl rfl)]
        exact Rat.intCast_neg _

/-- A whole number that is read of a text is the number that the text denotes. -/
theorem denoted_of_whole (text : String) (value : Int) (read : readWhole text = .ok value) :
    (value : ℚ) = denoted text.toList := by
  simp only [readWhole] at read
  split at read
  · cases read
  · split at read
    · rename_i found isFound
      obtain rfl := Except.ok.inj read
      cases plain : (PlainNumeral.ofChars text.toList).value? with
      | some number =>
          rw [plain] at isFound
          obtain rfl : number = found := Option.some.inj isFound
          exact denoted_of_plain _ _ plain
      | none =>
          rw [plain] at isFound
          obtain ⟨body, ordered, plainBody⟩ := Option.bind_eq_some_iff.mp isFound
          rw [denoted_of_plain body _ plainBody, denoted_in_order _ body ordered]
    · cases read

end Text

/-! ## Doubles -/

namespace Binary64

def denoted? : Binary64 → Option ℚ
  | .finite negative mantissa exponent =>
    let magnitude : ℚ := mantissa * 2 ^ exponent
    some (if negative then -magnitude else magnitude)
  | _ => none

theorem whole_part_exact (mantissa : Nat) (exponent : Int)
    (whole : isWhole mantissa exponent = true) :
    (wholePart mantissa exponent : ℚ) = mantissa * 2 ^ exponent := by
  rw [isWhole, beq_iff_eq] at whole
  obtain ⟨size, rfl | rfl⟩ := exponent.eq_nat_or_neg
  · have noDivisor : (-(size : Int)).toNat = 0 := by omega
    rw [wholePart, noDivisor, Int.toNat_natCast]
    simp
  · have noFactor : (-(size : Int)).toNat = 0 := by omega
    rw [neg_neg, Int.toNat_natCast] at whole
    obtain ⟨quotient, rfl⟩ := Nat.dvd_of_mod_eq_zero whole
    have positive : 0 < Nat.pow 2 size := Nat.pow_pos (by decide)
    have isQuotient : wholePart (Nat.pow 2 size * quotient) (-size) = quotient := by
      rw [wholePart, noFactor, neg_neg, Int.toNat_natCast]
      exact Nat.div_eq_of_eq_mul_right positive (Nat.mul_one _)
    rw [isQuotient, zpow_neg, zpow_natCast]
    change (quotient : ℚ) = ((2 ^ size * quotient : Nat) : ℚ) * _
    push_cast
    field_simp

theorem denoted_of_int (value : Binary64) (whole : Int) (isInt : value.toInt? = some whole) :
    value.denoted? = some (whole : ℚ) := by
  cases value with
  | infinite negative => cases isInt
  | undefined => cases isInt
  | finite negative mantissa exponent =>
      simp only [toInt?, truncate?] at isInt
      split at isInt
      · rename_i isWhole
        obtain rfl := Option.some.inj isInt
        rw [denoted?, ← whole_part_exact mantissa exponent isWhole]
        cases negative with
        | false => rfl
        | true => exact congrArg some (Rat.intCast_neg _).symm
      · cases isInt

end Binary64

/-! ## JSON values -/

def Json.denoted? : Json → Option ℚ
  | .int value => some value
  | .bool value => some (if value then 1 else 0)
  | .float value => value.denoted?
  | .str text => text.toString?.map fun text => Text.denoted text.toList
  | _ => none

namespace Decoder

theorem denoted_of_whole_double (double : Binary64) (value : Int)
    (read : wholeDouble double = .ok value) : double.denoted? = some (value : ℚ) := by
  cases double with
  | infinite negative => cases read
  | undefined => cases read
  | finite negative mantissa exponent =>
      simp only [wholeDouble] at read
      split at read
      · cases read
      · rename_i whole isInt
        split at read
        · obtain rfl := Except.ok.inj read
          exact Binary64.denoted_of_int _ _ isInt
        · cases read

theorem denoted_of_whole_text (text : Text) (value : Int) (read : wholeText text = .ok value) :
    (Json.str text).denoted? = some (value : ℚ) := by
  unfold wholeText at read
  split at read
  · cases read
  · rename_i string isString
    split at read
    · rename_i whole isWhole
      obtain rfl := Except.ok.inj read
      rw [Json.denoted?, isString, Option.map_some, Text.denoted_of_whole string _ isWhole]
    · cases read
    · cases read

theorem denoted_of_whole_value (json : Json) (value : Int) (read : wholeValue json = .ok value) :
    json.denoted? = some (value : ℚ) := by
  cases json with
  | int number =>
      obtain rfl := Except.ok.inj read
      rfl
  | bool truth =>
      obtain rfl := Except.ok.inj read
      cases truth with
      | false => exact congrArg some Int.cast_zero.symm
      | true => exact congrArg some Int.cast_one.symm
  | float double => exact denoted_of_whole_double double value read
  | str text => exact denoted_of_whole_text text value read
  | null => cases read
  | arr items => cases read
  | obj members => cases read

/-- A value that is read as a natural number denotes that number. -/
theorem denoted_of_natural (json : Json) (value : Nat) (read : natural json = .valid value) :
    json.denoted? = some (value : ℚ) := by
  simp only [natural, atLeast, integer, ofRule] at read
  cases isWhole : wholeValue json with
  | error fault =>
      rw [isWhole] at read
      cases read
  | ok whole =>
      rw [isWhole] at read
      simp only [Checked.andThen] at read
      split at read
      · cases read
      · rename_i notBelow
        injection read with isValue
        have same : (whole : ℚ) = (whole.toNat : ℚ) := by
          rw [← Int.cast_natCast, Int.toNat_of_nonneg (by omega)]
        rw [denoted_of_whole_value json whole isWhole, same, isValue]

/-- The spaces, the plus, the zeros and the underscore are all passed over. -/
example : (Json.str " +01_0.00 ").denoted? = some 10 := by decide +kernel

end Decoder

end BridgeState
