import BridgeState.Proofs.Attempts
import BridgeState.Proofs.Calls
import BridgeState.Proofs.Watermark
import Mathlib.Data.List.Forall2

/-!
# What is stored is in normal form

Whatever JSON values an engine is given one behind the other, every row that it stores stands under
its own id and is written in normal form: ids and addresses are `0x` and digits without capitals,
and no number is negative. A limit stands under the name of its kind, and a snapshot of limits under
the id that is derived from its block.
-/

namespace BridgeState

set_option autoImplicit false

open Text

/-- The text is `0x` and so many hexadecimal digits, none of them a capital. -/
def Text.IsMarked (count : Nat) (text : Text) : Prop :=
  ∃ digits : List Char, digits.length = count ∧
    text = Text.ofString (String.ofList ('0' :: 'x' :: digits)) ∧
    ∀ digit ∈ digits, ('0' ≤ digit ∧ digit ≤ '9') ∨ ('a' ≤ digit ∧ digit ≤ 'f')

theorem digit_or_letter_of_lower (c : Char) (lower : isLowerHexDigit c = true) :
    ('0' ≤ c ∧ c ≤ '9') ∨ ('a' ≤ c ∧ c ≤ 'f') := by
  simp only [isLowerHexDigit, Bool.or_eq_true, Bool.and_eq_true, decide_eq_true_eq] at lower
  simp only [Char.le_def, UInt32.le_iff_toNat_le]
  exact lower

theorem HexString.is_marked (hex : HexString) :
    ∃ count, 0 < count ∧ Text.IsMarked count hex.text := by
  obtain ⟨digit, more, chars, digits⟩ := hex.chars_of_normal
  refine ⟨(digit :: more).length, Nat.succ_pos _, digit :: more, rfl, ?_, ?_⟩
  · rw [← chars, String.ofList_toList]
  · exact fun c member => digit_or_letter_of_lower c (digits c member)

theorem Identifier.digest_id_is_marked (bytes : List UInt8) :
    Text.IsMarked 64 (digestId bytes).text := by
  refine ⟨(Keccak.digest bytes).flatMap byteText, ?_, rfl, fun c member => ?_⟩
  · have two : ∀ byte ∈ Keccak.digest bytes, (byteText byte).length = 2 := fun _ _ => rfl
    rw [List.length_flatMap, List.map_congr_left two, List.map_const', Keccak.digest_length]
    rfl
  · obtain ⟨byte, _, inside⟩ := List.mem_flatMap.mp member
    exact digit_or_letter_of_lower c (List.all_eq_true.mp (isLowerHexDigit_byteText byte) c inside)

/-- What a field of a row holds in normal form: the id that the row stands under, an id or address,
a list of addresses, or a number. Other fields hold words or free text. -/
inductive FieldForm where
  | key
  | hex
  | hexes
  | count
  | other

def FieldForm.Holds (id : Text) : FieldForm → Json → Prop
  | .key, value => value = .str id
  | .hex, value => ∃ text count, value = .str text ∧ 0 < count ∧ text.IsMarked count
  | .hexes, value => ∃ texts : List Text, value = .arr (texts.map Json.str) ∧
      ∀ text ∈ texts, ∃ count, 0 < count ∧ text.IsMarked count
  | .count, value => ∃ number : Int, value = .int number ∧ 0 ≤ number
  | .other, _ => True

def FieldForm.Writes (id : Text) (field : Text × FieldForm) (member : Text × Json) : Prop :=
  member.1 = field.1 ∧ field.2.Holds id member.2

namespace Collection

def limitForms : List (Text × FieldForm) :=
  (Named.all : List LimitKind).map fun kind => (Text.ofString kind.fieldName, .count)

/-- The fields of a row, in the order in which they are written. -/
def fieldForms : Collection → List (Text × FieldForm)
  | .messages => [("id", .key), ("block_number", .count), ("origin_address", .hex),
      ("destination_address", .hex), ("amount", .count), ("token", .other), ("status", .other),
      ("direction", .other)]
  | .bridgeMessages => [("id", .key), ("block_number", .count), ("action", .other),
      ("status", .other)]
  | .accountMessages => [("id", .key), ("block_number", .count), ("action", .other),
      ("direction", .other), ("address", .hex), ("timestamp", .count)]
  | .accounts => [("id", .key), ("block_number", .count), ("message_id", .hex), ("kind", .other),
      ("status", .other), ("timestamp", .count)]
  | .limitProposals => limitForms ++ ([("id", .key), ("block_number", .count),
      ("proposer_address", .hex), ("status", .other)] : List (Text × FieldForm))
  | .limitMessages =>
      limitForms ++ ([("id", .key), ("block_number", .count)] : List (Text × FieldForm))
  | .limits => [("id", .key), ("block_number", .count), ("value", .count), ("message_id", .hex)]
  | .candidateValidators => [("id", .key), ("block_number", .count), ("guest_address", .hex),
      ("active", .other)]
  | .candidateValidatorMessages => [("id", .key), ("block_number", .count), ("host_address", .hex),
      ("guest_address", .hex), ("action", .other)]
  | .candidatesValidatorsProposals => [("id", .key), ("block_number", .count), ("status", .other),
      ("host_addresses", .hexes)]
  | .validatorsListMessages => [("id", .key), ("block_number", .count), ("proposal_id", .hex),
      ("guest_addresses", .hexes), ("threshold", .count)]

/-- The form of the id of a row that has the given block. -/
def IdForm (collection : Collection) (block : Nat) (id : Text) : Prop :=
  match collection with
  | .limits => ∃ kind : LimitKind, id = Text.ofString (Named.name kind)
  | .limitMessages => id.IsMarked 64 ∧
      ∃ derived, Identifier.derive Identifier.limitSalt block = .ok derived ∧ id = derived.text
  | _ => ∃ count, 0 < count ∧ id.IsMarked count

/-- The row stands under its own id, which is an id of its collection, and is written with exactly
the fields of its collection, each in normal form. -/
structure NormalRow (collection : Collection) (id : Text) (row : collection.Row) : Prop where
  own : Record.id row = id
  idForm : collection.IdForm (Record.block row) id
  fields : List.Forall₂ (FieldForm.Writes id) collection.fieldForms (Coded.encode row)

end Collection

namespace FieldForm

variable {id : Text}

theorem holds_key : key.Holds id (.str id) := rfl

theorem holds_hex (value : HexString) : hex.Holds id (.hex value) := by
  obtain ⟨count, some, marked⟩ := value.is_marked
  exact ⟨value.text, count, rfl, some, marked⟩

theorem holds_hexes (values : List HexString) : hexes.Holds id (.hexes values) := by
  refine ⟨values.map fun value => value.text, ?_, fun text member => ?_⟩
  · rw [List.map_map]
    rfl
  · obtain ⟨value, _, isText⟩ := List.mem_map.mp member
    exact isText ▸ value.is_marked

theorem holds_count (number : Nat) : count.Holds id (.nat number) :=
  ⟨number, rfl, Int.natCast_nonneg number⟩

theorem holds_other (value : Json) : other.Holds id value := trivial

theorem write_limits (values : LimitValues) :
    List.Forall₂ (Writes id) Collection.limitForms values.encode := by
  rw [Collection.limitForms, LimitValues.encode, List.forall₂_map_left_iff,
    List.forall₂_map_right_iff, List.forall₂_same]
  exact fun kind _ => ⟨rfl, holds_count _⟩

end FieldForm

theorem Collection.fields_normal (collection : Collection) (row : collection.Row) :
    List.Forall₂ (FieldForm.Writes (Record.id row)) collection.fieldForms (Coded.encode row) := by
  cases collection
  case limitProposals =>
    refine List.rel_append (FieldForm.write_limits row.values) ?_
    simp [Record.id, FieldForm.Writes, FieldForm.holds_key, FieldForm.holds_hex,
      FieldForm.holds_count, FieldForm.holds_other]
  case limitMessages =>
    refine List.rel_append (FieldForm.write_limits row.values) ?_
    simp [Record.id, FieldForm.Writes, FieldForm.holds_key, FieldForm.holds_count]
  all_goals
    simp [Record.id, Coded.encode, Collection.fieldForms, FieldForm.Writes, FieldForm.holds_key,
      FieldForm.holds_hex, FieldForm.holds_hexes, FieldForm.holds_count, FieldForm.holds_other]

namespace Effect

/-- A row that the effect creates or sets has an id of its collection. -/
def IdFormed : Effect → Prop
  | .first collection row => collection.IdForm (Record.block row) (Record.id row)
  | .last collection row => collection.IdForm (Record.block row) (Record.id row)
  | .alter _ _ _ => True

end Effect

theorem effect_id_formed (event : Event) (store : Store) (effect : Effect)
    (member : effect ∈ event.effects store) : effect.IdFormed := by
  obtain ⟨blockNumber, body⟩ := event
  cases body with
  | transfer direction transfer =>
      rw [List.mem_singleton.mp member]
      exact HexString.is_marked _
  | control change messageId =>
      rw [List.mem_singleton.mp member]
      exact messageId.is_marked
  | account chain action messageId address timestamp =>
      refine Effect.of_mem_pair ?_ ?_ member
      · exact messageId.is_marked
      · exact address.is_marked
  | limits values =>
      rcases List.mem_cons.mp member with isSnapshot | isLimit
      · rw [isSnapshot]
        exact ⟨Identifier.digest_id_is_marked _, _, Identifier.derive_limitSalt blockNumber, rfl⟩
      · obtain ⟨kind, _, isKind⟩ := List.mem_map.mp isLimit
        rw [← isKind]
        exact ⟨kind, rfl⟩
  | limitProposal proposalId sender values =>
      rw [List.mem_singleton.mp member]
      exact proposalId.is_marked
  | candidate action messageId hostAddress guestAddress =>
      refine Effect.of_mem_pair ?_ ?_ member
      · exact messageId.is_marked
      · exact hostAddress.is_marked
  | listProposal proposalId hostAddresses =>
      rw [List.mem_singleton.mp member]
      exact proposalId.is_marked
  | validatorList messageId proposalId hostAddresses threshold =>
      simp only [Event.effects] at member
      split at member
      · refine Effect.of_mem_pair ?_ ?_ member
        · exact messageId.is_marked
        · trivial
      · simp at member
  | status | limitApproval =>
      rw [List.mem_singleton.mp member]
      trivial

namespace Store

theorem id_form_of_load (events : List Event) {collection : Collection} {id : Text}
    {row : collection.Row} (found : (empty.replay events).load collection id = some row) :
    collection.IdForm (Record.block row) id := by
  induction events using List.reverseRecOn generalizing row with
  | nil =>
      have none : (empty.replay []).load collection id = none := History.load_nil collection id
      cases none.symm.trans found
  | append_singleton events event ih =>
      rw [replay_append_one] at found
      obtain ⟨effect, member, atPlace⟩ | same :=
        effect_or_kept event (empty.replay events) collection id
      · -- A row that the event creates or sets has an id that it forms; one that it changes keeps
        -- its id, and its block with it.
        have formed := effect_id_formed event _ effect member
        cases effect with
        | first collection new =>
            cases atPlace
            rw [load_apply_first member] at found
            cases was : (empty.replay events).load collection (Record.id new) with
            | none =>
                rw [was] at found
                obtain rfl := Option.some.inj found
                exact formed
            | some old =>
                rw [was] at found
                obtain rfl := Option.some.inj found
                exact ih was
        | last collection new =>
            cases atPlace
            rw [load_apply_last member] at found
            obtain rfl := Option.some.inj found
            exact formed
        | alter collection id change =>
            cases atPlace
            rw [load_apply_alter member] at found
            obtain ⟨old, was, changed⟩ := Option.map_eq_some_iff.mp found
            cases effect_of_event event _ _ member with
            | alter _ changes =>
                rw [← changed, changes.block_result]
                exact ih was
      · exact ih (same ▸ found)

end Store

namespace Engine

/-- Whatever JSON values an engine is given one behind the other, every row that is stored then is
in normal form. -/
theorem stored_rows_in_normal_form (metrics : Option Metrics) (inputs : List Json)
    (collection : Collection) (id : Text) (row : collection.Row)
    (stored : ((start Store.empty metrics).calls
      (inputs.map fun input => .one (.raw input))).2.state.load collection id = some row) :
    collection.NormalRow id row := by
  have own := Store.id_of_load stored
  obtain ⟨-, after⟩ := calls_in_memory (inputs.map fun input => Call.one (.raw input))
    (start Store.empty metrics)
  rw [after, state_apply_events] at stored
  exact ⟨own, Store.id_form_of_load _ stored, own ▸ collection.fields_normal row⟩

/-- A transfer that comes with an id that is not in normal form, and behind it something that is no
event. -/
theorem stored_rows_in_normal_form_relay :
    ∃ row : Message,
      ((start Store.empty none).calls ([relayInput, .null].map fun input =>
        .one (.raw input))).2.state.load .messages HexString.sample.text = some row ∧
      Collection.messages.NormalRow HexString.sample.text row := by
  have present : (((start Store.empty none).calls ([relayInput, .null].map fun input =>
      .one (.raw input))).2.state.load .messages HexString.sample.text).isSome = true := by
    decide +kernel
  obtain ⟨row, stored⟩ := Option.isSome_iff_exists.mp present
  exact ⟨row, stored, stored_rows_in_normal_form none _ .messages _ row stored⟩

end Engine

end BridgeState
