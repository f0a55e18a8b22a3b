import BridgeState.Proofs.Attempts
import BridgeState.Proofs.Denoted
import BridgeState.Proofs.Limits

/-!
# Events read back

What an object must hold to be read as an event is said field by field: `kind` names its kind, and
under the name of each field of the event stands something that is read as the value of the field.
So an event is read back of the object that it is written as, members that are no fields of it and the
order of members count for nothing, and each number of an event is the one that the object denotes.
-/

namespace BridgeState

set_option autoImplicit false

namespace Checked

variable {α β : Type}

/-- If the check ends with a value, that has the property. -/
def Gives (property : α → Prop) (checked : Checked α) : Prop :=
  ∀ value, checked = .valid value → property value

theorem Gives.map {property : β → Prop} {f : α → β} {checked : Checked α}
    (each : ∀ value, property (f value)) : Gives property (f <$> checked) := by
  intro result valid
  obtain ⟨value, _, rfl⟩ := (map_eq_valid_iff f checked result).mp valid
  exact each value

theorem Gives.seq {property : β → Prop} {f : Checked (α → β)} {checked : Checked α}
    (first : Gives (fun g => ∀ value, property (g value)) f) : Gives property (f <*> checked) := by
  intro result valid
  obtain ⟨g, value, isFirst, _, rfl⟩ := (seq_eq_valid_iff f checked result).mp valid
  exact first g isFirst value

end Checked

/-! ## Members by name -/

section Members

theorem lookup_eq_some_iff {members : Members} (distinct : (members.map Prod.fst).Nodup) (name : Text)
    (value : Json) : Json.lookup name members = some value ↔ (name, value) ∈ members := by
  induction members with
  | nil => simp [Json.lookup]
  | cons first rest ih =>
      obtain ⟨key, held⟩ := first
      obtain ⟨fresh, distinctRest⟩ := List.nodup_cons.mp distinct
      by_cases same : key = name
      · subst same
        have notLater : (key, value) ∉ rest := fun member => fresh (List.mem_map.mpr ⟨_, member, rfl⟩)
        simp [Json.lookup, notLater, eq_comm]
      · simp [Json.lookup, same, ih distinctRest, Ne.symm same]

/-- In whatever order the members come, and whatever members of other names come with them, the same
is found under a name. -/
theorem lookup_of_perm {members extra other : Members} (sameMembers : other.Perm (members ++ extra))
    (distinct : (other.map Prod.fst).Nodup) {name : Text}
    (notExtra : ∀ member ∈ extra, member.1 ≠ name) :
    Json.lookup name other = Json.lookup name members := by
  have distinctAll : ((members ++ extra).map Prod.fst).Nodup :=
    (sameMembers.map Prod.fst).nodup_iff.mp distinct
  have distinctMembers : (members.map Prod.fst).Nodup := by
    rw [List.map_append] at distinctAll
    exact distinctAll.of_append_left
  refine Option.ext fun value => ?_
  rw [lookup_eq_some_iff distinct, lookup_eq_some_iff distinctMembers, sameMembers.mem_iff,
    List.mem_append]
  exact or_iff_left fun member => notExtra _ member rfl

theorem required_valid_iff {α : Type} {members : Members} {name : String} (decoder : Decoder α)
    (value : α) :
    required name decoder members = .valid value ↔
      ∃ held, Json.lookup name members = some held ∧ decoder held = .valid value := by
  unfold required
  cases Json.lookup name members with
  | none => simp [Checked.fail, Checked.under]
  | some held => simp [Checked.under_eq_valid_iff]

end Members

/-! ## Fields -/

inductive FieldValue where
  | number (value : Nat)
  | hex (value : HexString)
  | hexes (values : List HexString)
  | token (value : Option Text)

namespace FieldValue

def encode : FieldValue → Json
  | .number value => .nat value
  | .hex value => .hex value
  | .hexes values => .hexes values
  | .token value => .ofOption .str value

/-- Under the name stands something that is read as the value; a token may be absent. -/
def Stands (members : Members) (name : String) : FieldValue → Prop
  | .number value => required name Decoder.natural members = .valid value
  | .hex value => required name Decoder.hex members = .valid value
  | .hexes values => required name (Decoder.list Decoder.hex) members = .valid values
  | .token value =>
    optional name none (Decoder.nullable Decoder.string) members = .valid value

variable {members other : Members} {name : String}

/-- What is written of a value is read as the value. -/
theorem stands_of_lookup {value : FieldValue}
    (written : Json.lookup name members = some value.encode) : value.Stands members name := by
  cases value <;> simp [Stands, required, optional, written, encode]

theorem stands_congr (same : Json.lookup name other = Json.lookup name members)
    (value : FieldValue) : value.Stands other name ↔ value.Stands members name := by
  cases value with
  | number value => simp only [Stands, required_valid_iff, same]
  | hex value => simp only [Stands, required_valid_iff, same]
  | hexes values => simp only [Stands, required_valid_iff, same]
  | token value => simp only [Stands, optional, same]

theorem number_of_encode {value : FieldValue} {number : Nat} (isNumber : value.encode = .nat number) :
    value = .number number := by
  cases value with
  | number value => exact congrArg FieldValue.number (Int.ofNat.inj (Json.int.inj isNumber))
  | hex value => cases isNumber
  | hexes values => cases isNumber
  | token value => cases value <;> cases isNumber

end FieldValue

namespace Event

def limitFields (values : LimitValues) : List (String × FieldValue) :=
  (Named.all : List LimitKind).map fun kind => (kind.fieldName, .number (values.get kind))

def bodyFields : EventBody → List (String × FieldValue)
  | .transfer _ transfer =>
    [("message_id", .hex transfer.messageId), ("sender", .hex transfer.sender),
     ("recipient", .hex transfer.recipient), ("amount", .number transfer.amount),
     ("token", .token transfer.token)]
  | .status _ messageId => [("message_id", .hex messageId)]
  | .control _ messageId => [("message_id", .hex messageId)]
  | .account _ _ messageId address timestamp =>
    [("message_id", .hex messageId), ("address", .hex address), ("timestamp", .number timestamp)]
  | .limits values => limitFields values
  | .limitProposal proposalId sender values =>
    limitFields values ++ [("proposal_id", .hex proposalId), ("sender", .hex sender)]
  | .limitApproval proposalId => [("proposal_id", .hex proposalId)]
  | .candidate _ messageId hostAddress guestAddress =>
    [("message_id", .hex messageId), ("host_address", .hex hostAddress),
     ("guest_address", .hex guestAddress)]
  | .listProposal proposalId hostAddresses =>
    [("proposal_id", .hex proposalId), ("host_addresses", .hexes hostAddresses)]
  | .validatorList messageId proposalId hostAddresses threshold =>
    [("message_id", .hex messageId), ("proposal_id", .hex proposalId),
     ("host_addresses", .hexes hostAddresses), ("threshold", .number threshold)]

def fields (event : Event) : List (String × FieldValue) :=
  ("block_number", .number event.blockNumber) :: bodyFields event.body

def written (field : String × FieldValue) : Text × Json :=
  (field.1, field.2.encode)

/-- An event is written as its kind and its fields. -/
theorem encode_members_eq (event : Event) :
    event.encodeMembers =
      (Text.ofString "kind", Json.str event.kindName) :: event.fields.map written := by
  obtain ⟨blockNumber, body⟩ := event
  cases body <;> rfl

theorem field_names_distinct (event : Event) :
    ("kind" :: event.fields.map Prod.fst).Nodup := by
  obtain ⟨blockNumber, body⟩ := event
  cases body <;> simp [fields, bodyFields, limitFields, Named.all, LimitKind.fieldName]

/-- Each field is written once, and none is named as the kind is. -/
theorem written_once (event : Event) : (event.encodeMembers.map Prod.fst).Nodup := by
  have names : event.encodeMembers.map Prod.fst =
      ("kind" :: event.fields.map Prod.fst).map Text.ofString := by
    simp [encode_members_eq, written, Function.comp_def]
  rw [names]
  exact (field_names_distinct event).map fun _ _ => Text.ofString_injective

/-! ## Decoding, field by field -/

def Stand (members : Members) (fields : List (String × FieldValue)) : Prop :=
  ∀ field ∈ fields, field.2.Stands members field.1

section Decode

variable {members : Members}

@[simp] theorem stand_nil : Stand members [] :=
  List.forall_mem_nil _

@[simp] theorem stand_cons (field : String × FieldValue) (fields : List (String × FieldValue)) :
    Stand members (field :: fields) ↔ field.2.Stands members field.1 ∧ Stand members fields :=
  List.forall_mem_cons

@[simp] theorem stand_append (fields others : List (String × FieldValue)) :
    Stand members (fields ++ others) ↔ Stand members fields ∧ Stand members others :=
  List.forall_mem_append

theorem limit_values_valid_iff (values : LimitValues) :
    LimitValues.decode members = .valid values ↔ Stand members (limitFields values) := by
  obtain ⟨minHost, maxHost, dayHost, dayHostForOne, hostPending, minGuest, maxGuest, dayGuest,
    dayGuestForOne, guestPending⟩ := values
  simp only [LimitValues.decode, Checked.seq_eq_valid_iff, Checked.map_eq_valid_iff, exists_and_left,
    exists_exists_and_eq_and, exists_exists_and_exists_and_eq_and, existsAndEq, and_true, and_assoc,
    LimitValues.mk.injEq, limitFields, LimitKind.fieldName, LimitValues.get, Named.all,
    List.map_cons, List.map_nil, stand_cons, FieldValue.Stands, stand_nil]

theorem plain_valid_iff {decodeBody : Members → Checked EventBody} {event : Event}
    (body : decodeBody members = .valid event.body ↔ Stand members (bodyFields event.body)) :
    decodePlain decodeBody members = .valid event ↔ Stand members event.fields := by
  obtain ⟨blockNumber, eventBody⟩ := event
  rw [fields, stand_cons, ← body]
  simp [decodePlain, Checked.seq_eq_valid_iff, Checked.map_eq_valid_iff, FieldValue.Stands]

theorem transfer_valid_iff (direction : Direction) (transfer : Transfer) :
    EventBody.decodeTransfer direction members = .valid (.transfer direction transfer) ↔
      Stand members (bodyFields (.transfer direction transfer)) := by
  obtain ⟨messageId, sender, recipient, amount, token⟩ := transfer
  simp [EventBody.decodeTransfer, Checked.seq_eq_valid_iff, Checked.map_eq_valid_iff,
    bodyFields, FieldValue.Stands, and_assoc]

theorem status_valid_iff (change : StatusEvent) (messageId : HexString) :
    EventBody.decodeStatus change members = .valid (.status change messageId) ↔
      Stand members (bodyFields (.status change messageId)) := by
  simp [EventBody.decodeStatus, Checked.map_eq_valid_iff, bodyFields, FieldValue.Stands]

theorem control_valid_iff (change : ControlEvent) (messageId : HexString) :
    EventBody.decodeControl change members = .valid (.control change messageId) ↔
      Stand members (bodyFields (.control change messageId)) := by
  simp [EventBody.decodeControl, Checked.map_eq_valid_iff, bodyFields, FieldValue.Stands]

theorem account_valid_iff (chain : ChainKind) (action : AccountAction)
    (messageId address : HexString) (timestamp : Nat) :
    EventBody.decodeAccount chain action members =
        .valid (.account chain action messageId address timestamp) ↔
      Stand members (bodyFields (.account chain action messageId address timestamp)) := by
  simp [EventBody.decodeAccount, Checked.seq_eq_valid_iff, Checked.map_eq_valid_iff,
    bodyFields, FieldValue.Stands]

theorem candidate_valid_iff (action : ValidatorAction)
    (messageId hostAddress guestAddress : HexString) :
    EventBody.decodeCandidate action members =
        .valid (.candidate action messageId hostAddress guestAddress) ↔
      Stand members (bodyFields (.candidate action messageId hostAddress guestAddress)) := by
  simp [EventBody.decodeCandidate, Checked.seq_eq_valid_iff, Checked.map_eq_valid_iff,
    bodyFields, FieldValue.Stands]

/-- The members are those of an event of its kind just if each field of the event stands in them. -/
theorem decode_valid_iff (event : Event) :
    decode event.kind members = .valid event ↔ Stand members event.fields := by
  obtain ⟨blockNumber, body⟩ := event
  cases body with
  | transfer direction transfer =>
      cases direction <;> exact plain_valid_iff (transfer_valid_iff _ transfer)
  | status change messageId =>
      cases change <;> exact plain_valid_iff (status_valid_iff _ messageId)
  | control change messageId =>
      cases change <;> exact plain_valid_iff (control_valid_iff _ messageId)
  | account chain action messageId address timestamp =>
      cases chain <;> cases action <;>
        exact plain_valid_iff (account_valid_iff _ _ messageId address timestamp)
  | candidate action messageId hostAddress guestAddress =>
      cases action <;>
        exact plain_valid_iff (candidate_valid_iff _ messageId hostAddress guestAddress)
  | limits values =>
      -- With limits, the block number is not read first: the same conjuncts in another order.
      simp [kind, EventBody.kind, decode, Checked.seq_eq_valid_iff, Checked.map_eq_valid_iff, fields,
        bodyFields, FieldValue.Stands, limit_values_valid_iff, and_comm]
  | limitProposal proposalId sender values =>
      simp [kind, EventBody.kind, decode, Checked.seq_eq_valid_iff, Checked.map_eq_valid_iff, fields,
        bodyFields, FieldValue.Stands, limit_values_valid_iff, and_assoc, and_left_comm, and_comm]
  | limitApproval proposalId =>
      simp only [kind, EventBody.kind, decode]
      refine plain_valid_iff ?_
      simp [Checked.map_eq_valid_iff, bodyFields, FieldValue.Stands]
  | listProposal proposalId hostAddresses =>
      simp only [kind, EventBody.kind, decode]
      refine plain_valid_iff ?_
      simp [Checked.seq_eq_valid_iff, Checked.map_eq_valid_iff, bodyFields, FieldValue.Stands]
  | validatorList messageId proposalId hostAddresses threshold =>
      simp only [kind, EventBody.kind, decode]
      refine plain_valid_iff ?_
      simp [Checked.seq_eq_valid_iff, Checked.map_eq_valid_iff, bodyFields, FieldValue.Stands,
        and_assoc]

theorem plain_gives {decodeBody : Members → Checked EventBody} {kind : EventKind}
    (body : Checked.Gives (fun body => body.kind = kind) (decodeBody members)) :
    Checked.Gives (fun event => event.kind = kind) (decodePlain decodeBody members) := by
  intro event valid
  obtain ⟨make, eventBody, blocks, isBody, rfl⟩ := (Checked.seq_eq_valid_iff _ _ _).mp valid
  obtain ⟨blockNumber, _, rfl⟩ := (Checked.map_eq_valid_iff _ _ _).mp blocks
  exact body eventBody isBody

/-- Members that are read as an event of a kind give an event of that kind. -/
theorem kind_of_decode (kind : EventKind) :
    Checked.Gives (fun event => event.kind = kind) (decode kind members) := by
  cases kind with
  | relayMessage | withdrawMessage =>
      exact plain_gives (.seq (.seq (.seq (.seq (.map fun _ _ _ _ _ => rfl)))))
  | approvedRelayMessage | confirmMessage | confirmWithdrawMessage | confirmCancelMessage
  | revertMessage | bridgeStarted | bridgeStopped | bridgePaused | bridgeResumed
  | bridgePausedByVolume | bridgeStartedByVolume =>
      exact plain_gives (.map fun _ => rfl)
  | hostAccountPaused | hostAccountResumed | guestAccountPaused | guestAccountResumed
  | validatorAdded | validatorRemoved =>
      exact plain_gives (.seq (.seq (.map fun _ _ _ => rfl)))
  | setNewLimits => exact .seq (.map fun _ _ => rfl)
  | proposalCreated => exact .seq (.seq (.seq (.map fun _ _ _ _ => rfl)))
  | proposalApproved =>
      simp only [decode]
      refine plain_gives ?_
      exact .map fun _ => rfl
  | validatorsListProposalCreated =>
      simp only [decode]
      refine plain_gives ?_
      exact .seq (.map fun _ _ => rfl)
  | validatorsListMessage =>
      simp only [decode]
      refine plain_gives ?_
      exact .seq (.seq (.seq (.map fun _ _ _ _ => rfl)))

/-- A tag names a kind just if it is the name of the kind. -/
theorem kind_of_tag_iff (tag : Json) (kind : EventKind) :
    kindOfTag? tag = some kind ↔ tag = .str (Named.name kind) := by
  constructor
  · intro named
    cases tag with
    | str text =>
        obtain ⟨name, isName, isKind⟩ := Option.bind_eq_some_iff.mp named
        rw [Text.of_toString? text name isName, Named.name_of_ofName? name kind isKind]
    | _ => cases named
  · rintro rfl
    simp [kindOfTag?, EventKind.ofName?_name]

/-- An object is read as an event just if it has the kind of the event for its own and each field of
the event stands in it. -/
theorem parse_ok_iff (event : Event) :
    parse (.obj members) = .ok event ↔
      Json.lookup "kind" members = some (.str event.kindName) ∧ Stand members event.fields := by
  have ofTagged : parse (.obj members) = .ok event ↔ decodeTagged members = .valid event := by
    simp only [parse]
    cases decodeTagged members <;> simp
  rw [ofTagged, decodeTagged]
  cases tagged : Json.lookup "kind" members with
  | none => simp [Checked.fail]
  | some tag =>
      cases known : kindOfTag? tag with
      | none =>
          have unknown : tag ≠ .str event.kindName := fun isTag => by
            rw [(kind_of_tag_iff tag event.kind).mpr isTag] at known
            cases known
          simp [known, Checked.fail, unknown]
      | some kind =>
          simp only [known, Checked.under_eq_valid_iff, Option.some.injEq]
          have isTag : tag = .str event.kindName ↔ kind = event.kind := by
            change tag = .str (Named.name event.kind) ↔ _
            rw [← kind_of_tag_iff, known, Option.some.injEq]
          rw [isTag]
          constructor
          · intro valid
            obtain rfl := kind_of_decode kind event valid
            exact ⟨rfl, (decode_valid_iff event).mp valid⟩
          · rintro ⟨rfl, stand⟩
            exact (decode_valid_iff event).mpr stand

end Decode

/-! ## Reading back -/

section ReadBack

variable {members : Members} {event : Event}

theorem kind_written (event : Event) :
    (Text.ofString "kind", Json.str event.kindName) ∈ event.encodeMembers := by
  rw [encode_members_eq]
  exact List.mem_cons_self

theorem field_written {field : String × FieldValue} (isField : field ∈ event.fields) :
    (Text.ofString field.1, field.2.encode) ∈ event.encodeMembers := by
  rw [encode_members_eq]
  exact List.mem_cons_of_mem _ (List.mem_map_of_mem isField)

theorem field_of_number {name : Text} {number : Nat}
    (member : (name, Json.nat number) ∈ event.encodeMembers) :
    ∃ fieldName : String, name = fieldName ∧ (fieldName, .number number) ∈ event.fields := by
  rw [encode_members_eq] at member
  rcases List.mem_cons.mp member with isKind | inFields
  · cases isKind
  · obtain ⟨⟨fieldName, value⟩, isField, isWritten⟩ := List.mem_map.mp inFields
    obtain ⟨isName, isNumber⟩ := Prod.mk.inj isWritten
    obtain rfl := FieldValue.number_of_encode isNumber
    exact ⟨fieldName, isName.symm, isField⟩

theorem parse_written (event : Event) : parse event.encode = .ok event := by
  have distinct := written_once event
  refine (parse_ok_iff event).mpr ⟨?_, fun field isField => ?_⟩
  · exact (lookup_eq_some_iff distinct _ _).mpr (kind_written event)
  · exact FieldValue.stands_of_lookup ((lookup_eq_some_iff distinct _ _).mpr (field_written isField))

/-- What an object is read as depends on no member but those that the event has names for. -/
theorem parse_congr {other : Members} (read : parse (.obj members) = .ok event)
    (same : ∀ name ∈ event.encodeMembers.map Prod.fst,
      Json.lookup name other = Json.lookup name members) : parse (.obj other) = .ok event := by
  obtain ⟨isKind, stand⟩ := (parse_ok_iff event).mp read
  refine (parse_ok_iff event).mpr ⟨?_, fun field isField => ?_⟩
  · exact (same "kind" (List.mem_map_of_mem (kind_written event))).trans isKind
  · have sameField := same field.1 (List.mem_map_of_mem (field_written isField))
    exact (FieldValue.stands_congr sameField field.2).mpr (stand field isField)

end ReadBack

/-- An event that is read of an object is of the kind that the object names, and it is read back of
what it is written as. It is still what is read when members come in another order or with others that
the event has no name for. Each of its numbers is exactly the one that the object denotes. -/
theorem parsed_event_reads_back (members : Members) (event : Event)
    (read : parse (.obj members) = .ok event) :
    Json.lookup "kind" members = some (.str event.kindName) ∧
      parse event.encode = .ok event ∧
      (∀ extra other : Members,
        (∀ member ∈ extra, member.1 ∉ event.encodeMembers.map Prod.fst) →
        other.Perm (members ++ extra) → (other.map Prod.fst).Nodup →
        parse (.obj other) = .ok event) ∧
      ∀ (name : Text) (number : Nat), (name, Json.nat number) ∈ event.encodeMembers →
        ∃ value, Json.lookup name members = some value ∧ value.denoted? = some (number : ℚ) := by
  obtain ⟨isKind, stand⟩ := (parse_ok_iff event).mp read
  refine ⟨isKind, parse_written event, ?_, ?_⟩
  · intro extra other unknown sameMembers distinct
    refine parse_congr read fun name known => ?_
    refine lookup_of_perm sameMembers distinct fun member isExtra isName => ?_
    exact unknown member isExtra (isName ▸ known)
  · intro name number isNumber
    obtain ⟨fieldName, rfl, isField⟩ := field_of_number isNumber
    obtain ⟨value, found, isValue⟩ := (required_valid_iff _ _).mp (stand _ isField)
    exact ⟨value, found, Decoder.denoted_of_natural value number isValue⟩

/-- A transfer with its members in reverse and one more among them. -/
theorem parsed_event_reads_back_relay :
    ∃ members event, Engine.relayInput = .obj members ∧
      parse Engine.relayInput = .ok event ∧ parse event.encode = .ok event ∧
      parse (.obj (("note", .null) :: members.reverse)) = .ok event ∧
      ∃ value, Json.lookup "amount" members = some value ∧ value.denoted? = some 12 := by
  obtain ⟨_, written, reordered, numbers⟩ :=
    parsed_event_reads_back _ _ Engine.parse_relay_input
  refine ⟨_, _, rfl, Engine.parse_relay_input, written, ?_, ?_⟩
  · refine reordered [("note", .null)] _ ?_ ?_ (by decide +kernel)
    · exact List.forall_mem_singleton.mpr (by decide +kernel)
    · exact ((List.reverse_perm _).cons _).trans (List.perm_append_singleton _ _).symm
  · exact numbers "amount" 12 (by simp [encodeMembers, bodyMembers])

end Event

end BridgeState
