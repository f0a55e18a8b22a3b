import BridgeState.Text.Numeral
import BridgeState.Text.Percent

/-!
# Encoded texts read back

The UTF-8 bytes of a text are read back as that text, whatever its characters. So is its form with
percent signs, in which a space is a plus sign; and that form is the text itself exactly where
all characters are letters, digits or one of the four marks that are never encoded. The digits of a
number tell it, and no blank is among them.
-/

namespace BridgeState.Text

set_option autoImplicit false

/-- Of the characters of ASCII a finite check tells all. -/
theorem of_ascii {p : Char → Prop} (all : ∀ code : Fin 128, p (Char.ofNat code)) {c : Char}
    (ascii : c.toNat < 128) : p c := by
  have checked := all ⟨c.toNat, ascii⟩
  rwa [Char.ofNat_toNat] at checked

theorem not_mem_of_all {p : Char → Bool} {text : List Char} (all : ∀ c ∈ text, p c = true)
    {c : Char} (other : p c = false) : c ∉ text := by
  intro inside
  rw [all c inside] at other
  cases other

namespace Utf8

theorem toNat_of_byte (value : Nat) (small : value < 0x100) : (UInt8.ofNat value).toNat = value := by
  rw [UInt8.toNat_ofNat']
  omega

section Following

variable (bits least most value : Nat) (rest : List UInt8) (small : value < 0x40)
  (above : least ≤ 0x80 + value) (below : 0x80 + value ≤ most)

include small above below

theorem decode_last :
    decodeWith (some ⟨bits, 1, least, most⟩) (UInt8.ofNat (0x80 + value) :: rest) =
      Char.ofNat (0x40 * bits + value) :: decodeWith none rest := by
  have byte := toNat_of_byte (0x80 + value) (by omega)
  have isValue : (0x80 + value) % 0x40 = value := by omega
  simp only [decodeWith, byte, above, below, decide_true, Bool.and_self, if_true, isValue,
    beq_self_eq_true]

theorem decode_next (following : Nat) :
    decodeWith (some ⟨bits, following + 2, least, most⟩) (UInt8.ofNat (0x80 + value) :: rest) =
      decodeWith (some ⟨0x40 * bits + value, following + 1, 0x80, 0xBF⟩) rest := by
  have byte := toNat_of_byte (0x80 + value) (by omega)
  have isValue : (0x80 + value) % 0x40 = value := by omega
  have more : (following + 2 == 1) = false := by simp
  simp only [decodeWith, byte, above, below, decide_true, Bool.and_self, if_true, isValue, more,
    Bool.false_eq_true, if_false, Nat.add_succ_sub_one]

end Following

theorem decode_lead (value : Nat) (state : Lead) (rest : List UInt8) (small : value < 0x100)
    (notAscii : 0x80 ≤ value) (isLead : lead? value = some state) :
    decodeWith none (UInt8.ofNat value :: rest) = decodeWith (some state) rest := by
  have byte := toNat_of_byte value small
  rw [decodeWith]
  simp only [byte, isLead, if_neg (Nat.not_lt.mpr notAscii)]

theorem lead_of_two (code : Nat) (low : 0x80 ≤ code) (high : code < 0x800) :
    lead? (0xC0 + code / 0x40) = some ⟨code / 0x40, 1, 0x80, 0xBF⟩ := by
  have fits : 0xC2 ≤ 0xC0 + code / 0x40 ∧ 0xC0 + code / 0x40 ≤ 0xDF := by omega
  simp only [lead?, fits, decide_true, Bool.and_self, if_true, Nat.add_sub_cancel_left]

/-- The lead of three bytes lets pass what may follow in a character that is no surrogate. -/
theorem lead_of_three (code : Nat) (low : 0x800 ≤ code) (high : code < 0x10000)
    (noSurrogate : code < 0xD800 ∨ 0xDFFF < code) :
    ∃ least most, lead? (0xE0 + code / 0x1000) = some ⟨code / 0x1000, 2, least, most⟩ ∧
      least ≤ 0x80 + code / 0x40 % 0x40 ∧ 0x80 + code / 0x40 % 0x40 ≤ most := by
  by_cases first : code / 0x1000 = 0
  · refine ⟨0xA0, 0xBF, ?_, ?_, ?_⟩
    · rw [first]; rfl
    · omega
    · omega
  · by_cases surrogate : code / 0x1000 = 0xD
    · refine ⟨0x80, 0x9F, ?_, ?_, ?_⟩
      · rw [surrogate]; rfl
      · omega
      · omega
    · refine ⟨0x80, 0xBF, ?_, ?_, ?_⟩
      · unfold lead?
        grind
      · omega
      · omega

theorem lead_of_four (code : Nat) (low : 0x10000 ≤ code) (high : code < 0x110000) :
    ∃ least most, lead? (0xF0 + code / 0x40000) = some ⟨code / 0x40000, 3, least, most⟩ ∧
      least ≤ 0x80 + code / 0x1000 % 0x40 ∧ 0x80 + code / 0x1000 % 0x40 ≤ most := by
  by_cases first : code / 0x40000 = 0
  · refine ⟨0x90, 0xBF, ?_, ?_, ?_⟩
    · rw [first]; rfl
    · omega
    · omega
  · by_cases last : code / 0x40000 = 4
    · refine ⟨0x80, 0x8F, ?_, ?_, ?_⟩
      · rw [last]; rfl
      · omega
      · omega
    · refine ⟨0x80, 0xBF, ?_, ?_, ?_⟩
      · unfold lead?
        grind
      · omega
      · omega

theorem decode_two (code : Nat) (low : 0x80 ≤ code) (high : code < 0x800) (rest : List UInt8) :
    decodeWith none (UInt8.ofNat (0xC0 + code / 0x40) :: UInt8.ofNat (0x80 + code % 0x40) :: rest) =
      Char.ofNat code :: decodeWith none rest := by
  have whole : 0x40 * (code / 0x40) + code % 0x40 = code := by omega
  rw [decode_lead _ _ _ (by omega) (by omega) (lead_of_two code low high),
    decode_last _ _ _ _ _ (by omega) (by omega) (by omega), whole]

theorem decode_three (code : Nat) (low : 0x800 ≤ code) (high : code < 0x10000)
    (noSurrogate : code < 0xD800 ∨ 0xDFFF < code) (rest : List UInt8) :
    decodeWith none (UInt8.ofNat (0xE0 + code / 0x1000) ::
        UInt8.ofNat (0x80 + code / 0x40 % 0x40) :: UInt8.ofNat (0x80 + code % 0x40) :: rest) =
      Char.ofNat code :: decodeWith none rest := by
  obtain ⟨least, most, isLead, above, below⟩ := lead_of_three code low high noSurrogate
  have whole : 0x40 * (0x40 * (code / 0x1000) + code / 0x40 % 0x40) + code % 0x40 = code := by omega
  rw [decode_lead _ _ _ (by omega) (by omega) isLead,
    decode_next _ _ _ _ _ (by omega) above below 0,
    decode_last _ _ _ _ _ (by omega) (by omega) (by omega), whole]

theorem decode_four (code : Nat) (low : 0x10000 ≤ code) (high : code < 0x110000)
    (rest : List UInt8) :
    decodeWith none (UInt8.ofNat (0xF0 + code / 0x40000) ::
        UInt8.ofNat (0x80 + code / 0x1000 % 0x40) :: UInt8.ofNat (0x80 + code / 0x40 % 0x40) ::
          UInt8.ofNat (0x80 + code % 0x40) :: rest) =
      Char.ofNat code :: decodeWith none rest := by
  obtain ⟨least, most, isLead, above, below⟩ := lead_of_four code low high
  have whole : 0x40 * (0x40 * (0x40 * (code / 0x40000) + code / 0x1000 % 0x40) +
      code / 0x40 % 0x40) + code % 0x40 = code := by omega
  rw [decode_lead _ _ _ (by omega) (by omega) isLead,
    decode_next _ _ _ _ _ (by omega) above below 1,
    decode_next _ _ _ _ _ (by omega) (by omega) (by omega) 0,
    decode_last _ _ _ _ _ (by omega) (by omega) (by omega), whole]

theorem decode_char (c : Char) (rest : List UInt8) :
    decodeWith none (encodeChar c ++ rest) = c :: decodeWith none rest := by
  have isCode := Char.ofNat_toNat c
  have valid : c.toNat < 0xD800 ∨ 0xDFFF < c.toNat ∧ c.toNat < 0x110000 := c.valid
  unfold encodeChar
  dsimp only
  split
  · rename_i one
    have byte := toNat_of_byte c.toNat (by omega)
    rw [List.singleton_append, decodeWith, byte, if_pos one, isCode]
  · split
    · rename_i two
      exact (decode_two c.toNat (by omega) two rest).trans (by rw [isCode])
    · split
      · rename_i three
        exact (decode_three c.toNat (by omega) three (by omega) rest).trans (by rw [isCode])
      · exact (decode_four c.toNat (by omega) (by omega) rest).trans (by rw [isCode])

/-- What was encoded is read back. -/
theorem decode_encode (text : List Char) : decode (encode text) = text := by
  unfold decode encode
  induction text with
  | nil => rfl
  | cons c rest ih => rw [List.flatMap_cons, decode_char, ih]

end Utf8

namespace Percent

theorem hex_value_upper (value : Nat) (small : value < 16) :
    hexValue? (upperHexDigit value) = some value := by
  have all : ∀ v : Fin 16, hexValue? (upperHexDigit v.val) = some v.val := by decide
  exact all ⟨value, small⟩

theorem upper_hex_plain (value : Nat) (small : value < 16) :
    isPlain (upperHexDigit value).toNat = true := by
  have all : ∀ v : Fin 16, isPlain (upperHexDigit v.val).toNat = true := by decide
  exact all ⟨value, small⟩

/-- What is never encoded is in ASCII and is no mark of an encoding. -/
theorem code_of_plain {code : Nat} (plain : isPlain code = true) :
    code < 0x80 ∧ code ≠ 0x2B ∧ code ≠ 0x25 ∧ code ≠ 0x20 := by
  simp only [isPlain, Bool.or_eq_true, Bool.and_eq_true, decide_eq_true_eq, beq_iff_eq] at plain
  omega

theorem toNat_of_small {code : Nat} (small : code < 0x80) : (Char.ofNat code).toNat = code := by
  have valid : code.isValidChar := Or.inl (by omega)
  rw [Char.ofNat, dif_pos valid]
  rfl

theorem encode_char_ascii {c : Char} (ascii : c.toNat < 0x80) :
    Utf8.encodeChar c = [UInt8.ofNat c.toNat] := by
  simp only [Utf8.encodeChar, ascii, if_true]

theorem decode_bytes_other {c : Char} (other : c ≠ '%') (rest : List Char) :
    decodeBytes (c :: rest) = Utf8.encodeChar c ++ decodeBytes rest := by
  simp [decodeBytes, other]

theorem decode_bytes_escaped (byte : UInt8) (rest : List Char) :
    decodeBytes (escaped byte ++ rest) = byte :: decodeBytes rest := by
  have bound : byte.toNat < 256 := byte.toNat_lt
  have high := hex_value_upper (byte.toNat / 16) (by omega)
  have low := hex_value_upper (byte.toNat % 16) (by omega)
  have whole : 16 * (byte.toNat / 16) + byte.toNat % 16 = byte.toNat := by omega
  simp [escaped, decodeBytes, high, low, whole]

theorem plus_to_space_escaped (byte : UInt8) : plusToSpace (escaped byte) = escaped byte := by
  have bound : byte.toNat < 256 := byte.toNat_lt
  have noPlus : ∀ v : Fin 16, upperHexDigit v.val ≠ '+' := by decide
  have high : upperHexDigit (byte.toNat / 16) ≠ '+' := noPlus ⟨byte.toNat / 16, by omega⟩
  have low : upperHexDigit (byte.toNat % 16) ≠ '+' := noPlus ⟨byte.toNat % 16, by omega⟩
  simp [escaped, plusToSpace, high, low]

theorem decode_encode_byte (byte : UInt8) (rest : List Char) :
    decodeBytes (plusToSpace (encodeByte byte) ++ rest) = byte :: decodeBytes rest := by
  unfold encodeByte
  split
  · rename_i plain
    obtain ⟨small, noPlus, noPercent, -⟩ := code_of_plain plain
    have code := toNat_of_small small
    have isPlus : Char.ofNat byte.toNat ≠ '+' := by
      intro same
      rw [same] at code
      exact noPlus code.symm
    have isPercent : Char.ofNat byte.toNat ≠ '%' := by
      intro same
      rw [same] at code
      exact noPercent code.symm
    have kept : plusToSpace [Char.ofNat byte.toNat] = [Char.ofNat byte.toNat] := by
      simp [plusToSpace, isPlus]
    rw [kept, List.singleton_append, decode_bytes_other isPercent,
      encode_char_ascii (by omega), code, UInt8.ofNat_toNat]
    rfl
  · split
    · rename_i space
      have isSpace : byte = 0x20 := by
        apply UInt8.toNat_inj.mp
        simpa using space
      rw [isSpace]
      exact decode_bytes_other (by decide) rest
    · rw [plus_to_space_escaped, decode_bytes_escaped]

theorem decode_bytes_form (bytes : List UInt8) :
    decodeBytes (plusToSpace (bytes.flatMap encodeByte)) = bytes := by
  induction bytes with
  | nil => rfl
  | cons byte rest ih =>
      have append : plusToSpace (encodeByte byte ++ rest.flatMap encodeByte) =
          plusToSpace (encodeByte byte) ++ plusToSpace (rest.flatMap encodeByte) :=
        List.map_append
      rw [List.flatMap_cons, append, decode_encode_byte, ih]

/-- What was encoded is read back. -/
theorem decode_encode_form (text : List Char) : decodeForm (encodeForm text) = text := by
  rw [decodeForm, decode, encodeForm, decode_bytes_form, Utf8.decode_encode]

/-- A text without marks of an encoding is read as it is. -/
theorem decode_form_unmarked (text : List Char) (noPlus : '+' ∉ text) (noPercent : '%' ∉ text) :
    decodeForm text = text := by
  have kept : plusToSpace text = text := by
    unfold plusToSpace
    rw [List.map_congr_left (g := id), List.map_id]
    intro c inside
    rw [if_neg]
    · rfl
    · intro plus
      exact noPlus (beq_iff_eq.mp plus ▸ inside)
  have bytes : decodeBytes text = Utf8.encode text := by
    clear noPlus kept
    unfold Utf8.encode
    induction text with
    | nil => rfl
    | cons c rest ih =>
        rw [List.mem_cons, not_or] at noPercent
        rw [decode_bytes_other (Ne.symm noPercent.1), ih noPercent.2, List.flatMap_cons]
  rw [decodeForm, decode, kept, bytes, Utf8.decode_encode]

/-! ## What the encoding leaves alone -/

theorem mem_encode_form {text : List Char} {c : Char} (inside : c ∈ encodeForm text) :
    isPlain c.toNat = true ∨ c = '+' ∨ c = '%' := by
  obtain ⟨byte, -, member⟩ := List.mem_flatMap.mp inside
  unfold encodeByte at member
  split at member
  · rename_i plain
    rw [List.mem_singleton.mp member, toNat_of_small (code_of_plain plain).1]
    exact Or.inl plain
  · split at member
    · exact Or.inr (Or.inl (List.mem_singleton.mp member))
    · have bound : byte.toNat < 256 := byte.toNat_lt
      simp only [escaped, List.mem_cons, List.not_mem_nil, or_false] at member
      rcases member with rfl | rfl | rfl
      · exact Or.inr (Or.inr rfl)
      · exact Or.inl (upper_hex_plain _ (by omega))
      · exact Or.inl (upper_hex_plain _ (by omega))

theorem encode_form_cons (c : Char) (rest : List Char) :
    encodeForm (c :: rest) = encodeForm [c] ++ encodeForm rest := by
  simp only [encodeForm, Utf8.encode, List.flatMap_cons, List.flatMap_nil, List.append_nil,
    List.flatMap_append]

theorem not_plain_of_wide {code : Nat} (wide : 0x80 ≤ code) : isPlain code = false := by
  cases plain : isPlain code with
  | false => rfl
  | true =>
      have small := (code_of_plain plain).1
      omega

theorem encode_char_wide {c : Char} (wide : 0x80 ≤ c.toNat) :
    ∃ byte more, Utf8.encodeChar c = byte :: more ∧ 0x80 ≤ byte.toNat := by
  have valid : c.toNat < 0xD800 ∨ 0xDFFF < c.toNat ∧ c.toNat < 0x110000 := c.valid
  unfold Utf8.encodeChar
  rw [if_neg (by omega)]
  split
  · refine ⟨_, _, rfl, ?_⟩
    rw [Utf8.toNat_of_byte _ (by omega)]
    omega
  · split
    · refine ⟨_, _, rfl, ?_⟩
      rw [Utf8.toNat_of_byte _ (by omega)]
      omega
    · refine ⟨_, _, rfl, ?_⟩
      rw [Utf8.toNat_of_byte _ (by omega)]
      omega

/-- A character is left alone, or it is a space, or a percent sign and two digits begin its form. -/
theorem encode_form_char (c : Char) :
    (isPlain c.toNat = true ∧ encodeForm [c] = [c]) ∨ (c = ' ' ∧ encodeForm [c] = ['+']) ∨
      (isPlain c.toNat = false ∧ ∃ high low more, encodeForm [c] = '%' :: high :: low :: more) := by
  have form : encodeForm [c] = (Utf8.encodeChar c).flatMap encodeByte := by
    rw [encodeForm, Utf8.encode, List.flatMap_singleton]
  rw [form]
  by_cases ascii : c.toNat < 0x80
  · rw [encode_char_ascii ascii, List.flatMap_singleton, encodeByte,
      Utf8.toNat_of_byte _ (by omega)]
    cases plain : isPlain c.toNat with
    | true => exact Or.inl ⟨rfl, by rw [if_pos rfl, Char.ofNat_toNat]⟩
    | false =>
        rw [if_neg (by simp)]
        by_cases space : c.toNat = 0x20
        · have isSpace : c = ' ' := Char.toNat_inj.mp space
          exact Or.inr (Or.inl ⟨isSpace, by simp [space]⟩)
        · rw [if_neg (by simpa using space)]
          exact Or.inr (Or.inr ⟨rfl, _, _, [], rfl⟩)
  · have wide : 0x80 ≤ c.toNat := by omega
    obtain ⟨byte, more, bytes, wideByte⟩ := encode_char_wide wide
    have notSpace : (byte.toNat == 0x20) = false := by
      rw [beq_eq_false_iff_ne]
      omega
    rw [bytes, List.flatMap_cons, encodeByte, not_plain_of_wide wideByte, notSpace]
    exact Or.inr (Or.inr ⟨not_plain_of_wide wide, _, _, _, rfl⟩)

theorem length_encode_form (text : List Char) : text.length ≤ (encodeForm text).length := by
  induction text with
  | nil => exact Nat.le_refl 0
  | cons c rest ih =>
      have first : 1 ≤ (encodeForm [c]).length := by
        rcases encode_form_char c with ⟨-, form⟩ | ⟨-, form⟩ | ⟨-, high, low, more, form⟩ <;>
          simp [form]
      rw [encode_form_cons, List.length_append, List.length_cons]
      omega

theorem encode_form_eq_iff (text : List Char) :
    encodeForm text = text ↔ ∀ c ∈ text, isPlain c.toNat = true := by
  induction text with
  | nil => exact iff_of_true rfl fun c inside => by cases inside
  | cons c rest ih =>
      rw [encode_form_cons, List.forall_mem_cons, ← ih]
      have long := length_encode_form rest
      rcases encode_form_char c with ⟨plain, form⟩ | ⟨space, form⟩ | ⟨notPlain, high, low, more, form⟩
      · rw [form, List.singleton_append, List.cons.injEq]
        exact and_congr_left fun _ => iff_of_true rfl plain
      · subst space
        exact iff_of_false (by simp [form]) (fun both => by cases both.1)
      · rw [form, notPlain]
        refine iff_of_false (fun same => ?_) (fun both => by cases both.1)
        have lengths := congrArg List.length same
        simp only [List.cons_append, List.length_cons, List.length_append] at lengths
        omega

end Percent

/-! ## Digits -/

namespace Numbers

theorem digits_of_natural (number : Nat) :
    (toString (Int.ofNat number)).toList = Nat.toDigits 10 number :=
  Nat.toList_repr

theorem digits_of_negative (number : Nat) :
    (toString (Int.negSucc number)).toList = '-' :: Nat.toDigits 10 (number + 1) := by
  change ("-" ++ Nat.repr (number + 1)).toList = _
  rw [String.toList_append, Nat.toList_repr]
  rfl

theorem all_digits (number : Nat) : ∀ c ∈ Nat.toDigits 10 number, c.isDigit = true :=
  fun _ inside => Nat.isDigit_of_mem_toDigits (by decide) (by decide) inside

theorem no_blank (number : Int) : ' ' ∉ (toString number).toList := by
  cases number with
  | ofNat natural =>
      rw [digits_of_natural]
      exact not_mem_of_all (all_digits natural) (by decide)
  | negSucc natural =>
      rw [digits_of_negative, List.mem_cons, not_or]
      exact ⟨by decide, not_mem_of_all (all_digits (natural + 1)) (by decide)⟩

theorem digits_unique {one other : Nat} (same : Nat.toDigits 10 one = Nat.toDigits 10 other) :
    one = other :=
  calc one = Nat.ofDigitChars 10 (Nat.toDigits 10 one) 0 := Nat.ofDigitChars_ten_toDigits.symm
    _ = Nat.ofDigitChars 10 (Nat.toDigits 10 other) 0 := by rw [same]
    _ = other := Nat.ofDigitChars_ten_toDigits

theorem natural_not_negative (one other : Nat) :
    (toString (Int.ofNat one)).toList ≠ (toString (Int.negSucc other)).toList := by
  rw [digits_of_natural, digits_of_negative]
  intro same
  have dash : '-' ∉ Nat.toDigits 10 one := not_mem_of_all (all_digits one) (by decide)
  rw [same] at dash
  exact dash List.mem_cons_self

theorem text_unique {one other : Int} (same : (toString one).toList = (toString other).toList) :
    one = other := by
  cases one with
  | ofNat first =>
      cases other with
      | ofNat second =>
          rw [digits_of_natural, digits_of_natural] at same
          rw [digits_unique same]
      | negSucc second => exact absurd same (natural_not_negative first second)
  | negSucc first =>
      cases other with
      | ofNat second => exact absurd same.symm (natural_not_negative second first)
      | negSucc second =>
          rw [digits_of_negative, digits_of_negative, List.cons.injEq] at same
          have successors := digits_unique same.2
          rw [Nat.add_right_cancel successors]

theorem ascii_digit {c : Char} (digit : c.isDigit = true) :
    asciiDigit? c = some (c.toNat - '0'.toNat) := by
  have range : 0x30 ≤ c.toNat ∧ c.toNat ≤ 0x39 := Char.isDigit_iff_toNat.mp digit
  simp only [asciiDigit?, range, decide_true, Bool.and_self, if_true]
  rfl

theorem decimal_number_digits {text : List Char} (digits : ∀ c ∈ text, c.isDigit = true) :
    decimalNumber (text.filterMap asciiDigit?) = Nat.ofDigitChars 10 text 0 := by
  unfold decimalNumber
  rw [Nat.ofDigitChars_eq_foldl]
  generalize 0 = front
  induction text generalizing front with
  | nil => rfl
  | cons c rest ih =>
      rw [List.forall_mem_cons] at digits
      rw [List.filterMap_cons_some (ascii_digit digits.1), List.foldl_cons, List.foldl_cons,
        ih digits.2]

end Numbers

end BridgeState.Text
