import BridgeState.Entity.Codec
import BridgeState.Proofs.HexTexts

/-!
# Rows read back

An id or address in normal form is its own normal form, so every field is read back as it was
written. Decoders look members up by name only: a row is read back from every object that has the
members of the written row, in whatever order they stand and whatever else stands with them.
-/

namespace BridgeState

set_option autoImplicit false

namespace Decoder

@[simp] theorem natural_nat (value : Nat) : natural (.nat value) = .valid value := by
  have notBelow : ¬(value : Int) < 0 := by omega
  simp only [natural, atLeast, integer, ofRule, wholeValue, Json.nat, Checked.andThen,
    if_neg notBelow, Checked.map, Int.toNat_natCast]

theorem string_str (text : Text) : string (.str text) = .valid text := rfl

theorem boolean_bool (value : Bool) : boolean (.bool value) = .valid value := rfl

@[simp] theorem hex_hex (value : HexString) : hex (.hex value) = .valid value := by
  simp [hex, Json.hex, string_str, Checked.andThen, HexString.normalize_text]

theorem word_word {α : Type} [Named α] (value : α)
    (named : Named.ofName? (Named.name value) = some value) :
    word α (.word value) = .valid value := by
  simp [word, ofRule, Json.word, namedWord, named]

@[simp] theorem nullable_text (text : Option Text) :
    nullable string (.ofOption .str text) = .valid text := by
  cases text <;> rfl

theorem items_from_hexes (index : Nat) (values : List HexString) :
    itemsFrom hex index (values.map Json.hex) = .valid values := by
  induction values generalizing index with
  | nil => rfl
  | cons value rest ih =>
      simp only [List.map_cons, itemsFrom, hex_hex, Checked.under_valid, ih, Checked.map_valid,
        Checked.seq_valid]

@[simp] theorem list_hexes (values : List HexString) :
    list hex (.hexes values) = .valid values :=
  items_from_hexes 0 values

end Decoder

def SameMembers (members other : Members) : Prop :=
  ∀ name, Json.lookup name members = Json.lookup name other

theorem Message.decode_of_same (row : Message) (members : Members)
    (same : SameMembers members (Coded.encode row)) :
    (Coded.decode members : Checked Message) = .valid row := by
  simp [Coded.decode, required, optional, same _, Coded.encode, Json.lookup, Decoder.string_str,
    Decoder.word_word, MessageStatus.ofName?_name, Direction.ofName?_name]

theorem BridgeMessage.decode_of_same (row : BridgeMessage) (members : Members)
    (same : SameMembers members (Coded.encode row)) :
    (Coded.decode members : Checked BridgeMessage) = .valid row := by
  simp [Coded.decode, required, optional, same _, Coded.encode, Json.lookup, Decoder.string_str,
    Decoder.word_word, BridgeAction.ofName?_name, BridgeMessageStatus.ofName?_name]

theorem AccountMessage.decode_of_same (row : AccountMessage) (members : Members)
    (same : SameMembers members (Coded.encode row)) :
    (Coded.decode members : Checked AccountMessage) = .valid row := by
  simp [Coded.decode, required, same _, Coded.encode, Json.lookup, Decoder.string_str,
    Decoder.word_word, AccountAction.ofName?_name, Direction.ofName?_name]

theorem Account.decode_of_same (row : Account) (members : Members)
    (same : SameMembers members (Coded.encode row)) :
    (Coded.decode members : Checked Account) = .valid row := by
  simp [Coded.decode, required, same _, Coded.encode, Json.lookup, Decoder.string_str,
    Decoder.word_word, ChainKind.ofName?_name, AccountStatus.ofName?_name]

theorem LimitProposal.decode_of_same (row : LimitProposal) (members : Members)
    (same : SameMembers members (Coded.encode row)) :
    (Coded.decode members : Checked LimitProposal) = .valid row := by
  simp [Coded.decode, required, optional, same _, Coded.encode, Json.lookup, Decoder.string_str,
    LimitValues.encode, Named.all, LimitKind.fieldName, LimitValues.get, LimitValues.decode,
    Decoder.word_word, ProposalStatus.ofName?_name]

theorem LimitMessage.decode_of_same (row : LimitMessage) (members : Members)
    (same : SameMembers members (Coded.encode row)) :
    (Coded.decode members : Checked LimitMessage) = .valid row := by
  simp [Coded.decode, required, same _, Coded.encode, Json.lookup, Decoder.string_str,
    LimitValues.encode, Named.all, LimitKind.fieldName, LimitValues.get, LimitValues.decode]

theorem Limit.decode_of_same (row : Limit) (members : Members)
    (same : SameMembers members (Coded.encode row)) :
    (Coded.decode members : Checked Limit) = .valid row := by
  simp [Coded.decode, required, same _, Coded.encode, Json.lookup, Decoder.string_str]

theorem CandidateValidator.decode_of_same (row : CandidateValidator) (members : Members)
    (same : SameMembers members (Coded.encode row)) :
    (Coded.decode members : Checked CandidateValidator) = .valid row := by
  simp [Coded.decode, required, same _, Coded.encode, Json.lookup, Decoder.string_str,
    Decoder.boolean_bool]

theorem CandidateValidatorMessage.decode_of_same (row : CandidateValidatorMessage)
    (members : Members) (same : SameMembers members (Coded.encode row)) :
    (Coded.decode members : Checked CandidateValidatorMessage) = .valid row := by
  simp [Coded.decode, required, same _, Coded.encode, Json.lookup, Decoder.string_str,
    Decoder.word_word, ValidatorAction.ofName?_name]

theorem CandidatesValidatorsProposal.decode_of_same (row : CandidatesValidatorsProposal)
    (members : Members) (same : SameMembers members (Coded.encode row)) :
    (Coded.decode members : Checked CandidatesValidatorsProposal) = .valid row := by
  simp [Coded.decode, required, optional, same _, Coded.encode, Json.lookup, Decoder.string_str,
    Decoder.word_word, ProposalStatus.ofName?_name]

theorem ValidatorsListMessage.decode_of_same (row : ValidatorsListMessage) (members : Members)
    (same : SameMembers members (Coded.encode row)) :
    (Coded.decode members : Checked ValidatorsListMessage) = .valid row := by
  simp [Coded.decode, required, same _, Coded.encode, Json.lookup, Decoder.string_str]

/-- A row is read back from every object with the members of the written row. -/
theorem Collection.decode_of_same (collection : Collection) (row : collection.Row)
    (members : Members) (same : SameMembers members (Coded.encode row)) :
    collection.decodeRow (.obj members) = .valid row := by
  cases collection with
  | messages => exact Message.decode_of_same row members same
  | bridgeMessages => exact BridgeMessage.decode_of_same row members same
  | accountMessages => exact AccountMessage.decode_of_same row members same
  | accounts => exact Account.decode_of_same row members same
  | limitProposals => exact LimitProposal.decode_of_same row members same
  | limitMessages => exact LimitMessage.decode_of_same row members same
  | limits => exact Limit.decode_of_same row members same
  | candidateValidators => exact CandidateValidator.decode_of_same row members same
  | candidateValidatorMessages => exact CandidateValidatorMessage.decode_of_same row members same
  | candidatesValidatorsProposals =>
      exact CandidatesValidatorsProposal.decode_of_same row members same
  | validatorsListMessages => exact ValidatorsListMessage.decode_of_same row members same

theorem Collection.decode_encode (collection : Collection) (row : collection.Row) :
    collection.decodeRow (collection.encodeRow row) = .valid row :=
  collection.decode_of_same row _ fun _ => rfl

end BridgeState
