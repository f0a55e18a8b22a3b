import BridgeState.Identifier

/-!
# What salts are accepted

A salt and a numeral are read as bytes together, two digits each, and white space may stand between
two pairs but not inside one. The text is made even in length beforehand, and white space counts
there. So a salt of hexadecimal digits is accepted for every block, and one with any character that
is neither a digit nor white space is refused for every block. A salt with white space is no text of
digits, yet it may be accepted (`SaltFits`): for the blocks whose numeral has an odd length or for
those where it is even, and never for both.
-/

namespace BridgeState.Identifier

set_option autoImplicit false

open Text

theorem white_no_digit {c : Char} (white : isAsciiWhite c = true) : hexValue? c = none := by
  simp only [isAsciiWhite, Bool.or_eq_true, Bool.and_eq_true, decide_eq_true_eq,
    beq_iff_eq] at white
  refine Option.eq_none_iff_forall_ne_some.mpr fun value read => ?_
  have ranges := hexValue_eq_some_iff.mp read
  omega

theorem white_not_digit {c : Char} (white : isAsciiWhite c = true) : isHexDigit c = false := by
  rw [isHexDigit, white_no_digit white]
  rfl

theorem count_behind_white {c : Char} (white : isAsciiWhite c = true) (rest : List Char) :
    (c :: rest).countP isHexDigit = rest.countP isHexDigit :=
  List.countP_cons_of_neg (by simp [white_not_digit white])

theorem digit_not_white {c : Char} (digit : isHexDigit c = true) : isAsciiWhite c = false := by
  refine Bool.eq_false_iff.mpr fun white => ?_
  rw [white_not_digit white] at digit
  cases digit

theorem bytes_behind_white {c : Char} (white : isAsciiWhite c = true) (rest : List Char) :
    bytesOfHex (c :: rest) = bytesOfHex rest := by
  rw [bytesOfHex.eq_def]
  simp only [white, if_true]

/-- All white space of a text stands behind a number of digits of this parity. -/
def WhiteBehind (parity : Nat) (text : List Char) : Prop :=
  ∀ place c, text[place]? = some c → isAsciiWhite c = true →
    (text.take place).countP isHexDigit % 2 = parity

theorem white_behind_nil (parity : Nat) : WhiteBehind parity [] := by
  intro place c found
  cases found

theorem white_behind_white {c : Char} (white : isAsciiWhite c = true) (parity : Nat)
    (rest : List Char) :
    WhiteBehind parity (c :: rest) ↔ parity = 0 ∧ WhiteBehind parity rest := by
  constructor
  · intro behind
    refine ⟨(behind 0 c rfl white).symm, fun place d found isWhite => ?_⟩
    have moved := behind (place + 1) d found isWhite
    rwa [List.take_succ_cons, count_behind_white white] at moved
  · rintro ⟨rfl, behind⟩ place d found isWhite
    cases place with
    | zero => rfl
    | succ place =>
        rw [List.take_succ_cons, count_behind_white white]
        exact behind place d found isWhite

theorem white_behind_digit {c : Char} (digit : isHexDigit c = true) {parity : Nat}
    (small : parity < 2) (rest : List Char) :
    WhiteBehind parity (c :: rest) ↔ WhiteBehind (1 - parity) rest := by
  constructor
  · intro behind place d found isWhite
    have moved := behind (place + 1) d found isWhite
    rw [List.take_succ_cons, List.countP_cons_of_pos digit] at moved
    omega
  · intro behind place d found isWhite
    cases place with
    | zero =>
        obtain rfl := Option.some.inj found
        rw [digit_not_white digit] at isWhite
        cases isWhite
    | succ place =>
        have moved := behind place d found isWhite
        rw [List.take_succ_cons, List.countP_cons_of_pos digit]
        omega

theorem white_behind_digits (parity : Nat) (text digits : List Char)
    (all : ∀ c ∈ digits, isAsciiWhite c = false) :
    WhiteBehind parity (text ++ digits) ↔ WhiteBehind parity text := by
  constructor
  · intro behind place c found isWhite
    obtain ⟨within, isChar⟩ := List.getElem?_eq_some_iff.mp found
    have moved := behind place c (by rw [List.getElem?_append_left within, found]) isWhite
    rwa [List.take_append_of_le_length (Nat.le_of_lt within)] at moved
  · intro behind place c found isWhite
    rcases Nat.lt_or_ge place text.length with within | beyond
    · rw [List.getElem?_append_left within] at found
      rw [List.take_append_of_le_length (Nat.le_of_lt within)]
      exact behind place c found isWhite
    · rw [List.getElem?_append_right beyond] at found
      rw [all c (List.mem_of_getElem? found)] at isWhite
      cases isWhite

/-- A text is read as bytes where it is digits and white space, and the digits are even in number:
all of them, and those in front of any white space. -/
theorem bytes_of_hex_is_some_iff (text : List Char) : (bytesOfHex text).isSome = true ↔
    (∀ c ∈ text, isHexDigit c = true ∨ isAsciiWhite c = true) ∧ WhiteBehind 0 text ∧
      text.countP isHexDigit % 2 = 0 := by
  induction text using bytesOfHex.induct with
  | case1 => simp [bytesOfHex, white_behind_nil]
  | case2 c rest white ih =>
      rw [bytes_behind_white white, ih, List.forall_mem_cons, white_behind_white white,
        count_behind_white white]
      simp [white]
  | case3 c noWhite =>
      simp only [bytesOfHex, noWhite, Bool.false_eq_true, if_false]
      refine iff_of_false (by simp) ?_
      rintro ⟨all, -, even⟩
      rcases all c List.mem_cons_self with digit | white
      · rw [List.countP_cons_of_pos digit] at even
        simp at even
      · exact noWhite white
  | case4 c noWhite d more high low readD readC ih =>
      have digitC : isHexDigit c = true := by rw [isHexDigit, readC]; rfl
      have digitD : isHexDigit d = true := by rw [isHexDigit, readD]; rfl
      simp only [bytesOfHex, noWhite, Bool.false_eq_true, if_false, readC, readD, Option.isSome_map]
      rw [ih, List.forall_mem_cons, List.forall_mem_cons, white_behind_digit digitC (by decide),
        white_behind_digit digitD (by decide), List.countP_cons_of_pos digitC,
        List.countP_cons_of_pos digitD, Nat.add_assoc, Nat.add_mod_right]
      simp [digitC, digitD]
  | case5 c noWhite d more noPair =>
      simp only [bytesOfHex, noWhite, Bool.false_eq_true, if_false]
      refine iff_of_false (by simp) ?_
      rintro ⟨all, behind, -⟩
      rw [List.forall_mem_cons, List.forall_mem_cons] at all
      have digitC := all.1.resolve_right noWhite
      rw [white_behind_digit digitC (by decide)] at behind
      rcases all.2.1 with digitD | white
      · obtain ⟨high, readC⟩ := Option.isSome_iff_exists.mp digitC
        obtain ⟨low, readD⟩ := Option.isSome_iff_exists.mp digitD
        exact noPair high low readC readD
      · rw [white_behind_white white] at behind
        exact absurd behind.1 (by decide)

/-- A salt that a block can follow. Its white space is even in amount and never stands inside a
pair: behind an odd number of digits where salt and numeral get a zero in front, else behind an even
number. -/
structure SaltFits (salt : List Char) (block : Nat) : Prop where
  chars : ∀ c ∈ salt, isHexDigit c = true ∨ isAsciiWhite c = true
  even : salt.countP isAsciiWhite % 2 = 0
  behind : WhiteBehind ((salt.length + (hexNumeral block).length) % 2) salt

theorem length_of_chars {salt : List Char}
    (chars : ∀ c ∈ salt, isHexDigit c = true ∨ isAsciiWhite c = true) :
    salt.length = salt.countP isHexDigit + salt.countP isAsciiWhite := by
  have same : salt.countP isAsciiWhite = salt.countP fun c => ¬isHexDigit c := by
    refine List.countP_congr fun c inside => ?_
    constructor
    · intro white
      simp [white_not_digit white]
    · intro noDigit
      exact (chars c inside).resolve_left (by simpa using noDigit)
  rw [same]
  exact List.length_eq_countP_add_countP isHexDigit

/-- The zero in front counts for the digits that stand before the white space of the salt. -/
theorem padded_reads_iff (salt : List Char) {numeral : List Char}
    (digits : ∀ c ∈ numeral, isHexDigit c = true) :
    (bytesOfHex (evenLength (salt ++ numeral))).isSome = true ↔
      (∀ c ∈ salt, isHexDigit c = true ∨ isAsciiWhite c = true) ∧
      WhiteBehind ((salt.length + numeral.length) % 2) salt ∧
      ((salt.length + numeral.length) % 2 + salt.countP isHexDigit + numeral.length) % 2 = 0 := by
  have noWhite : ∀ c ∈ numeral, isAsciiWhite c = false :=
    fun c inside => digit_not_white (digits c inside)
  have isZero : isHexDigit '0' = true := by decide
  have chars : (∀ c ∈ salt ++ numeral, isHexDigit c = true ∨ isAsciiWhite c = true) ↔
      ∀ c ∈ salt, isHexDigit c = true ∨ isAsciiWhite c = true := by
    rw [List.forall_mem_append]
    exact and_iff_left fun c inside => Or.inl (digits c inside)
  have count : (salt ++ numeral).countP isHexDigit = salt.countP isHexDigit + numeral.length := by
    rw [List.countP_append, List.countP_eq_length.mpr digits]
  rw [bytes_of_hex_is_some_iff, evenLength, List.length_append]
  rcases Nat.mod_two_eq_zero_or_one (salt.length + numeral.length) with even | odd
  · rw [even, if_neg Nat.zero_ne_one, chars, white_behind_digits _ _ _ noWhite, count, Nat.zero_add]
  · rw [odd, if_pos rfl, List.forall_mem_cons, chars, white_behind_digit isZero (by decide),
      white_behind_digits _ _ _ noWhite, List.countP_cons_of_pos isZero, count, Nat.add_comm _ 1,
      Nat.add_assoc 1]
    exact and_congr_left fun _ => and_iff_right (Or.inl isZero)

theorem hashed_bytes_is_some_iff (salt : String) (block : Nat) :
    (hashedBytes salt block).isSome = true ↔ SaltFits salt.toList block := by
  have digits : ∀ c ∈ hexNumeral block, isHexDigit c = true :=
    fun c inside => (hexNumeral_isHexDigit block c inside).1
  rw [hashedBytes, body, padded_reads_iff _ digits]
  constructor
  · rintro ⟨chars, behind, even⟩
    have length := length_of_chars chars
    exact ⟨chars, by omega, behind⟩
  · rintro ⟨chars, even, behind⟩
    have length := length_of_chars chars
    exact ⟨chars, behind, by omega⟩

/-- A salt with white space fits blocks of one parity only. -/
theorem SaltFits.same_parity {salt : List Char} {one other : Nat} (fits : SaltFits salt one)
    (fitsOther : SaltFits salt other) {c : Char} (inside : c ∈ salt)
    (white : isAsciiWhite c = true) :
    (hexNumeral one).length % 2 = (hexNumeral other).length % 2 := by
  obtain ⟨place, found⟩ := List.mem_iff_getElem?.mp inside
  have first := fits.behind place c found white
  have second := fitsOther.behind place c found white
  omega

/-- A salt of digits fits every block, and no other salt does. -/
theorem fits_every_block_iff (salt : List Char) :
    (∀ block, SaltFits salt block) ↔ ∀ c ∈ salt, isHexDigit c = true := by
  constructor
  · intro fits c inside
    refine ((fits 0).chars c inside).resolve_right fun white => ?_
    -- The numerals of these two blocks are one digit and two digits long.
    exact absurd ((fits 0).same_parity (fits 16) inside white) (by decide)
  · intro digits block
    refine ⟨fun c inside => Or.inl (digits c inside), ?_, fun place c found white => ?_⟩
    · rw [List.countP_eq_zero.mpr fun c inside => by simp [digit_not_white (digits c inside)]]
    · rw [digit_not_white (digits c (List.mem_of_getElem? found))] at white
      cases white

theorem hashed_bytes_limit_salt (block : Nat) : (hashedBytes limitSalt block).isSome = true := by
  have digits : ∀ c ∈ limitSalt.toList, isHexDigit c = true := List.forall_mem_singleton.mpr rfl
  rw [hashed_bytes_is_some_iff]
  exact (fits_every_block_iff limitSalt.toList).mpr digits block

/-- Deriving the id of a limit snapshot never fails. -/
theorem derive_limitSalt (block : Nat) : derive limitSalt block = .ok (limitMessageId block) := by
  obtain ⟨bytes, found⟩ := Option.isSome_iff_exists.mp (hashed_bytes_limit_salt block)
  simp [derive, limitMessageId, found]

theorem derive_eq_ok_iff {salt : String} {block : Nat} {id : HexString} :
    derive salt block = .ok id ↔
      ∃ bytes, hashedBytes salt block = some bytes ∧ id = digestId bytes := by
  rw [derive]
  cases hashedBytes salt block with
  | none => simp
  | some bytes => simp [eq_comm]

theorem derive_ok_iff (salt : String) (block : Nat) :
    (∃ id, derive salt block = .ok id) ↔ SaltFits salt.toList block := by
  rw [← hashed_bytes_is_some_iff, Option.isSome_iff_exists]
  constructor
  · rintro ⟨id, derives⟩
    obtain ⟨bytes, read, -⟩ := derive_eq_ok_iff.mp derives
    exact ⟨bytes, read⟩
  · rintro ⟨bytes, read⟩
    exact ⟨digestId bytes, derive_eq_ok_iff.mpr ⟨bytes, read, rfl⟩⟩

theorem derive_error_iff (salt : String) (block : Nat) :
    derive salt block = .error (.badSalt salt) ↔ ¬SaltFits salt.toList block := by
  rw [← hashed_bytes_is_some_iff, derive]
  cases hashedBytes salt block with
  | none => simp
  | some bytes => simp

/-- What salts are accepted. For each block a salt is accepted where it fits and refused as a salt
where it does not, and the salts accepted for every block are those of hexadecimal digits. -/
theorem salt_accepted_iff (salt : String) :
    (∀ block, (∃ id, deriveFrom salt (.nat block) = .ok id) ↔ SaltFits salt.toList block) ∧
    (∀ block, deriveFrom salt (.nat block) = .error (.badSalt salt) ↔
      ¬SaltFits salt.toList block) ∧
    ((∀ block, ∃ id, deriveFrom salt (.nat block) = .ok id) ↔
      ∀ c ∈ salt.toList, isHexDigit c = true) := by
  have accepted (block : Nat) :
      (∃ id, deriveFrom salt (.nat block) = .ok id) ↔ SaltFits salt.toList block := by
    rw [deriveFrom_nat, derive_ok_iff]
  refine ⟨accepted, fun block => ?_, ?_⟩
  · rw [deriveFrom_nat, derive_error_iff]
  · rw [← fits_every_block_iff]
    exact forall_congr' accepted

/-- This salt is accepted for one block and refused for another. -/
theorem spaced_salt_accepted_for_some_blocks :
    (∃ id, deriveFrom " ab " (.nat 16) = .ok id) ∧
      deriveFrom " ab " (.nat 1) = .error (.badSalt " ab ") ∧
      ¬∀ c ∈ " ab ".toList, isHexDigit c = true := by
  have read : hashedBytes " ab " 16 = some [0xab, 0x10] := by decide
  have unread : hashedBytes " ab " 1 = none := by decide
  refine ⟨⟨digestId [0xab, 0x10], ?_⟩, ?_, fun digits => ?_⟩
  · rw [deriveFrom_nat, derive, read]
  · rw [deriveFrom_nat, derive, unread]
  · have blank := digits ' ' List.mem_cons_self
    cases blank

end BridgeState.Identifier
