import BridgeState.Proofs.Salts

/-!
# Derived ids of different blocks

The values of the digits that are read as bytes can be told from the bytes. They are those of the
salt and those of the numeral, with a zero in front at most, and a numeral with a zero in front is
of the same number: so under one salt no two blocks have the same bytes, whatever white space is in
the salt and however long the numerals are. The ids of two blocks are the same only where the digest
of two different byte strings is the same.
-/

namespace BridgeState.Identifier

set_option autoImplicit false

open Text

def digitValues (text : List Char) : List Nat :=
  text.filterMap hexValue?

def numberOf (values : List Nat) : Nat :=
  values.foldl (fun front value => 16 * front + value) 0

/-- The values of the two digits that a byte is read from. -/
def halves (byte : UInt8) : List Nat :=
  [byte.toNat / 16, byte.toNat % 16]

theorem digit_values_append (first second : List Char) :
    digitValues (first ++ second) = digitValues first ++ digitValues second :=
  List.filterMap_append

theorem number_of_digit_values (number : Nat) :
    numberOf (digitValues (hexNumeral number)) = number := by
  have single (value : Nat) (small : value < 16) : digitValues [value.digitChar] = [value] :=
    List.filterMap_cons_some (hexValue_digitChar value small).1
  induction number using Nat.strongRecOn with
  | _ number ih =>
    rw [hexNumeral, Nat.toDigits_eq_if (by decide)]
    split
    · rename_i small
      rw [single number small, numberOf, List.foldl_cons, List.foldl_nil]
      omega
    · rename_i large
      have front := ih (number / 16) (by omega)
      rw [hexNumeral, numberOf] at front
      rw [digit_values_append, single _ (Nat.mod_lt _ (by decide)), numberOf, List.foldl_append,
        front, List.foldl_cons, List.foldl_nil]
      omega

theorem hex_value_small (c : Char) (value : Nat) (read : hexValue? c = some value) :
    value < 16 := by
  have ranges := hexValue_eq_some_iff.mp read
  omega

theorem halves_of_digits (high low : Nat) (highSmall : high < 16) (lowSmall : low < 16) :
    halves (UInt8.ofNat (16 * high + low)) = [high, low] := by
  have whole : (UInt8.ofNat (16 * high + low)).toNat = 16 * high + low := by
    rw [UInt8.toNat_ofNat']
    omega
  have upper : (16 * high + low) / 16 = high := by omega
  have lower : (16 * high + low) % 16 = low := by omega
  rw [halves, whole, upper, lower]

/-- The digits that bytes are read from can be told from the bytes. -/
theorem halves_of_bytes (text : List Char) (bytes : List UInt8)
    (read : bytesOfHex text = some bytes) : bytes.flatMap halves = digitValues text := by
  induction text using bytesOfHex.induct generalizing bytes with
  | case1 => cases read; rfl
  | case2 c rest white ih =>
      rw [bytes_behind_white white] at read
      rw [ih bytes read, digitValues, digitValues, List.filterMap_cons_none (white_no_digit white)]
  | case3 c noWhite => simp [bytesOfHex, noWhite] at read
  | case4 c noWhite d more high low readD readC ih =>
      simp only [bytesOfHex, noWhite, Bool.false_eq_true, if_false, readC, readD,
        Option.map_eq_some_iff] at read
      obtain ⟨others, readMore, rfl⟩ := read
      rw [List.flatMap_cons, ih others readMore, digitValues, digitValues,
        List.filterMap_cons_some readC, List.filterMap_cons_some readD,
        halves_of_digits high low (hex_value_small c high readC) (hex_value_small d low readD)]
      rfl
  | case5 c noWhite d more noPair =>
      simp only [bytesOfHex, noWhite, Bool.false_eq_true, if_false] at read
      cases read

/-- A zero in front of a shared front is a zero behind it. -/
theorem zero_behind_front (front first second : List Nat)
    (same : 0 :: (front ++ first) = front ++ second) : second = 0 :: first := by
  induction front with
  | nil => exact same.symm
  | cons value rest ih =>
      rw [List.cons_append, List.cons_append, List.cons.injEq] at same
      obtain ⟨isZero, same⟩ := same
      subst isZero
      exact ih same

theorem digit_values_body (salt : String) (block : Nat) :
    digitValues (body salt block) =
        0 :: (digitValues salt.toList ++ digitValues (hexNumeral block)) ∨
      digitValues (body salt block) =
        digitValues salt.toList ++ digitValues (hexNumeral block) := by
  rw [body, evenLength, ← digit_values_append]
  split
  · exact Or.inl rfl
  · exact Or.inr rfl

/-- Numerals with the same values are of the same number, and a zero in front changes nothing. -/
theorem number_of_same {one other : Nat}
    (same : digitValues (hexNumeral other) = digitValues (hexNumeral one) ∨
      digitValues (hexNumeral other) = 0 :: digitValues (hexNumeral one)) : one = other := by
  have zeroFirst (values : List Nat) : numberOf (0 :: values) = numberOf values := rfl
  rw [← number_of_digit_values one, ← number_of_digit_values other]
  rcases same with same | same
  · rw [same]
  · rw [same, zeroFirst]

/-- Under one salt the bytes tell the block. -/
theorem block_of_bytes (salt : String) {one other : Nat} {bytes : List UInt8}
    (read : hashedBytes salt one = some bytes) (readOther : hashedBytes salt other = some bytes) :
    one = other := by
  have same : digitValues (body salt one) = digitValues (body salt other) := by
    rw [← halves_of_bytes _ bytes read, ← halves_of_bytes _ bytes readOther]
  rcases digit_values_body salt one with padded | plain <;>
    rcases digit_values_body salt other with otherPadded | otherPlain
  · rw [padded, otherPadded] at same
    exact number_of_same (Or.inl (List.append_cancel_left (List.cons.inj same).2).symm)
  · rw [padded, otherPlain] at same
    exact number_of_same (Or.inr (zero_behind_front _ _ _ same))
  · rw [plain, otherPadded] at same
    exact (number_of_same (Or.inr (zero_behind_front _ _ _ same.symm))).symm
  · rw [plain, otherPlain] at same
    exact number_of_same (Or.inl (List.append_cancel_left same).symm)

/-- The digits of a byte are read back as that byte. -/
theorem bytes_of_byte_text (byte : UInt8) (rest : List Char) :
    bytesOfHex (byteText byte ++ rest) = (bytesOfHex rest).map (byte :: ·) := by
  have bound : byte.toNat < 256 := byte.toNat_lt
  have high := hexValue_hexDigit (byte.toNat / 16) (by omega)
  have low := hexValue_hexDigit (byte.toNat % 16) (Nat.mod_lt _ (by decide))
  have noWhite : ∀ v : Fin 16, isAsciiWhite (hexDigit v.val) = false := by decide
  have highNoWhite := noWhite ⟨byte.toNat / 16, by omega⟩
  have whole : 16 * (byte.toNat / 16) + byte.toNat % 16 = byte.toNat := by omega
  simp [byteText, bytesOfHex, highNoWhite, high, low, whole]

theorem bytes_of_id_text (bytes : List UInt8) :
    bytesOfHex (bytes.flatMap byteText) = some bytes := by
  induction bytes with
  | nil => rfl
  | cons byte rest ih => rw [List.flatMap_cons, bytes_of_byte_text, ih, Option.map_some]

theorem id_text_injective (first second : List UInt8) (same : idText first = idText second) :
    first = second := by
  have chars := congrArg String.toList same
  simp only [idText, String.toList_ofList, List.cons.injEq, true_and] at chars
  have back := bytes_of_id_text first
  rw [chars, bytes_of_id_text second] at back
  exact (Option.some.inj back).symm

theorem digest_id_eq_iff {first second : List UInt8} :
    digestId first = digestId second ↔ Keccak.digest first = Keccak.digest second := by
  constructor
  · intro same
    exact id_text_injective _ _ (congrArg HexString.text same)
  · intro digests
    apply HexString.ext_text
    simp only [digestId, digests]

/-- Under one salt the ids of two blocks are the digests of different bytes, so they are the same
only where these bytes have the same digest. -/
theorem bytes_of_blocks_differ {salt : String} {one other : Nat} (apart : one ≠ other)
    {id otherId : HexString} (derives : deriveFrom salt (.nat one) = .ok id)
    (derivesOther : deriveFrom salt (.nat other) = .ok otherId) :
    ∃ first second, hashedBytes salt one = some first ∧ hashedBytes salt other = some second ∧
      first ≠ second ∧ id = digestId first ∧ otherId = digestId second ∧
      (id = otherId ↔ Keccak.digest first = Keccak.digest second) := by
  rw [deriveFrom_nat] at derives derivesOther
  obtain ⟨first, read, isId⟩ := derive_eq_ok_iff.mp derives
  obtain ⟨second, readOther, isOther⟩ := derive_eq_ok_iff.mp derivesOther
  refine ⟨first, second, read, readOther, ?_, isId, isOther, ?_⟩
  · intro same
    exact apart (block_of_bytes salt read (same ▸ readOther))
  · rw [isId, isOther, digest_id_eq_iff]

/-- The body of the first block is padded, that of the second one is not, and they are of one
length. -/
theorem bytes_of_blocks_differ_padded :
    deriveFrom "00" (.nat 1) = .ok (digestId [0x00, 0x01]) ∧
      deriveFrom "00" (.nat 16) = .ok (digestId [0x00, 0x10]) ∧
      (digestId [0x00, 0x01] = digestId [0x00, 0x10] ↔
        Keccak.digest [0x00, 0x01] = Keccak.digest [0x00, 0x10]) := by
  have padded : hashedBytes "00" 1 = some [0x00, 0x01] := by decide
  have plain : hashedBytes "00" 16 = some [0x00, 0x10] := by decide
  have derives : deriveFrom "00" (.nat 1) = .ok (digestId [0x00, 0x01]) := by
    rw [deriveFrom_nat, derive, padded]
  have derivesOther : deriveFrom "00" (.nat 16) = .ok (digestId [0x00, 0x10]) := by
    rw [deriveFrom_nat, derive, plain]
  obtain ⟨first, second, read, readOther, -, -, -, same⟩ :=
    bytes_of_blocks_differ (by decide : (1 : Nat) ≠ 16) derives derivesOther
  obtain rfl := Option.some.inj (padded.symm.trans read)
  obtain rfl := Option.some.inj (plain.symm.trans readOther)
  exact ⟨derives, derivesOther, same⟩

/-- Of the byte strings that are digested for these blocks no two different ones have the same
digest. -/
def NoCollision (blocks : List Nat) : Prop :=
  ∀ one ∈ blocks, ∀ other ∈ blocks, ∀ first second,
    hashedBytes limitSalt one = some first → hashedBytes limitSalt other = some second →
      Keccak.digest first = Keccak.digest second → first = second

theorem no_collision_iff (blocks : List Nat) :
    NoCollision blocks ↔ ∀ one ∈ blocks, ∀ other ∈ blocks,
      limitMessageId one = limitMessageId other → one = other := by
  have read (block : Nat) : hashedBytes limitSalt block =
      some ((hashedBytes limitSalt block).getD []) := by
    obtain ⟨bytes, found⟩ := Option.isSome_iff_exists.mp (hashed_bytes_limit_salt block)
    rw [found, Option.getD_some]
  constructor
  · intro noCollision one oneThere other otherThere same
    have bytes := noCollision one oneThere other otherThere _ _ (read one) (read other)
      (digest_id_eq_iff.mp same)
    exact block_of_bytes limitSalt (read one) (bytes ▸ read other)
  · intro apart one oneThere other otherThere first second readFirst readSecond digests
    have sameId : limitMessageId one = limitMessageId other := by
      simp only [limitMessageId, readFirst, readSecond, Option.getD_some, digest_id_eq_iff, digests]
    have same := apart one oneThere other otherThere sameId
    subst same
    exact Option.some.inj (readFirst.symm.trans readSecond)

end BridgeState.Identifier
