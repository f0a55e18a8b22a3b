import BridgeState.Proofs.Attempts
import BridgeState.Proofs.Calls
import BridgeState.Proofs.Lookups

/-!
# Spellings

Two raw events that differ only in how ids and addresses are spelled are read as the same event, or
refused with the same report. A report of a complaint does not tell the value that was found, so
what is told of every check is compared without it: `reported` passes through the combination of
checks, and a decoder of an id reports all spellings alike. Applied one after the other, two lists
of such events have the same answers and leave the same engine, and a row is shown under every
spelling of its id.
-/

namespace BridgeState

set_option autoImplicit false

def SameHex (one other : Text) : Prop :=
  ∃ hex, HexString.normalize one = .ok hex ∧ HexString.normalize other = .ok hex

/-- The members that are read as an id or address, or as a list of them. -/
def hexFields : List String :=
  ["message_id", "proposal_id", "sender", "recipient", "address", "host_address", "guest_address",
   "host_addresses"]

namespace Json

/-- A value that may be an id or address in another spelling. -/
inductive ItemRespelled : Json → Json → Prop
  | same (value : Json) : ItemRespelled value value
  | hex {one other : Text} (spellings : SameHex one other) : ItemRespelled (.str one) (.str other)

/-- The same with lists, whose items may each be spelled otherwise. -/
inductive ValueRespelled : Json → Json → Prop
  | item {one other : Json} (item : ItemRespelled one other) : ValueRespelled one other
  | items {one other : List Json} (items : List.Forall₂ ItemRespelled one other) :
      ValueRespelled (.arr one) (.arr other)

inductive MemberRespelled : Text × Json → Text × Json → Prop
  | same (member : Text × Json) : MemberRespelled member member
  | field {name : String} (isHex : name ∈ hexFields) {one other : Json}
      (value : ValueRespelled one other) : MemberRespelled (name, one) (name, other)

/-- Two values that differ at most in how ids and addresses are spelled in their hexadecimal
fields. -/
inductive Respelled : Json → Json → Prop
  | same (value : Json) : Respelled value value
  | members {one other : Members} (members : List.Forall₂ MemberRespelled one other) :
      Respelled (.obj one) (.obj other)

end Json

/-- A complaint as `Complaint.toJson` reports it, without the value that was found. -/
def Complaint.reported (complaint : Complaint) : Complaint :=
  { complaint with found := .plain .null }

namespace Checked

variable {α β : Type}

def reported : Checked α → Checked α
  | .valid value => .valid value
  | .invalid complaints => .invalid (complaints.map Complaint.reported)

@[simp] theorem reported_map (f : α → β) (checked : Checked α) :
    (f <$> checked).reported = f <$> checked.reported := by
  cases checked <;> rfl

@[simp] theorem reported_seq (f : Checked (α → β)) (checked : Checked α) :
    (f <*> checked).reported = f.reported <*> checked.reported := by
  cases f with
  | valid f => cases checked <;> rfl
  | invalid first =>
      cases checked with
      | valid value => rfl
      | invalid second => exact congrArg Checked.invalid List.map_append

@[simp] theorem reported_under (step : PathStep) (checked : Checked α) :
    (checked.under step).reported = checked.reported.under step := by
  cases checked with
  | valid value => rfl
  | invalid complaints =>
      simp only [under, reported, List.map_map]
      rfl

end Checked

open Json

section Fields

variable {one other : Members} (respelled : List.Forall₂ MemberRespelled one other)

include respelled

theorem lookup_respelled (name : String) :
    Option.Rel (fun value spelled => value = spelled ∨
        name ∈ hexFields ∧ ValueRespelled value spelled)
      (Json.lookup name one) (Json.lookup name other) := by
  induction respelled with
  | nil => exact .none
  | @cons first spelled rest others member _ ih =>
      cases member with
      | same =>
          simp only [Json.lookup]
          split
          · exact .some (Or.inl rfl)
          · exact ih
      | @field key isHex _ _ value =>
          simp only [Json.lookup]
          split
          · rename_i isName
            have sameName : key = name := Text.ofString_injective (by simpa using isName)
            exact .some (Or.inr ⟨sameName ▸ isHex, value⟩)
          · exact ih

theorem lookup_plain {name : String} (plain : name ∉ hexFields) :
    Json.lookup name one = Json.lookup name other := by
  have related := lookup_respelled respelled name
  generalize Json.lookup name one = found at related
  generalize Json.lookup name other = foundOther at related
  cases related with
  | none => rfl
  | some values =>
      rcases values with same | ⟨isHex, _⟩
      · exact congrArg some same
      · exact absurd isHex plain

theorem required_plain {α : Type} {name : String} (decoder : Decoder α)
    (plain : name ∉ hexFields) :
    (required name decoder one).reported = (required name decoder other).reported := by
  -- Of a field that is missing the whole object is complained of, but not reported.
  simp only [required, lookup_plain respelled plain]
  cases Json.lookup name other <;> rfl

theorem optional_plain {α : Type} {name : String} (absent : α) (decoder : Decoder α)
    (plain : name ∉ hexFields) :
    optional name absent decoder one = optional name absent decoder other := by
  simp only [optional, lookup_plain respelled plain]

/-- A field is reported the same if its decoder reports every two spellings the same. -/
theorem required_respelled {α : Type} (name : String) (decoder : Decoder α)
    (agree : ∀ value spelled, ValueRespelled value spelled →
      (decoder value).reported = (decoder spelled).reported) :
    (required name decoder one).reported = (required name decoder other).reported := by
  have related := lookup_respelled respelled name
  simp only [required]
  generalize Json.lookup name one = found at related
  generalize Json.lookup name other = foundOther at related
  cases related with
  | none => rfl
  | @some value spelled values =>
      rcases values with rfl | ⟨_, values⟩
      · rfl
      · simp only [Checked.reported_under, agree value spelled values]

end Fields

theorem hex_item_reported {one other : Json} (respelled : ItemRespelled one other) :
    (Decoder.hex one).reported = (Decoder.hex other).reported := by
  cases respelled with
  | same => rfl
  | hex spellings =>
      obtain ⟨hex, isHex, otherIsHex⟩ := spellings
      simp only [Decoder.hex, Decoder.string, Checked.andThen, isHex, otherIsHex]

theorem hex_reported {one other : Json} (respelled : ValueRespelled one other) :
    (Decoder.hex one).reported = (Decoder.hex other).reported := by
  cases respelled with
  | item item => exact hex_item_reported item
  | items items => rfl

theorem hex_items_reported (index : Nat) {one other : List Json}
    (respelled : List.Forall₂ ItemRespelled one other) :
    (Decoder.itemsFrom Decoder.hex index one).reported =
      (Decoder.itemsFrom Decoder.hex index other).reported := by
  induction respelled generalizing index with
  | nil => rfl
  | cons item _ ih =>
      simp only [Decoder.itemsFrom, Checked.reported_seq, Checked.reported_map,
        Checked.reported_under, hex_item_reported item, ih]

theorem hexes_reported {one other : Json} (respelled : ValueRespelled one other) :
    (Decoder.list Decoder.hex one).reported = (Decoder.list Decoder.hex other).reported := by
  cases respelled with
  | items items => exact hex_items_reported 0 items
  | item item =>
      cases item with
      | same => rfl
      | hex => rfl

section Events

variable {one other : Members} (respelled : List.Forall₂ MemberRespelled one other)

include respelled

theorem required_hex (name : String) :
    (required name Decoder.hex one).reported = (required name Decoder.hex other).reported := by
  exact required_respelled respelled name _ fun _ _ => hex_reported

theorem required_hexes (name : String) :
    (required name (Decoder.list Decoder.hex) one).reported =
      (required name (Decoder.list Decoder.hex) other).reported := by
  exact required_respelled respelled name _ fun _ _ => hexes_reported

theorem limit_values_reported :
    (LimitValues.decode one).reported = (LimitValues.decode other).reported := by
  simp (disch := decide) only [LimitValues.decode, Checked.reported_seq, Checked.reported_map,
    required_plain respelled Decoder.natural]

theorem transfer_reported (direction : Direction) :
    (EventBody.decodeTransfer direction one).reported =
      (EventBody.decodeTransfer direction other).reported := by
  simp (disch := decide) only [EventBody.decodeTransfer, Checked.reported_seq,
    Checked.reported_map, required_hex respelled, required_plain respelled Decoder.natural,
    optional_plain respelled none]

theorem account_reported (chain : ChainKind) (action : AccountAction) :
    (EventBody.decodeAccount chain action one).reported =
      (EventBody.decodeAccount chain action other).reported := by
  simp (disch := decide) only [EventBody.decodeAccount, Checked.reported_seq,
    Checked.reported_map, required_hex respelled, required_plain respelled Decoder.natural]

theorem candidate_reported (action : ValidatorAction) :
    (EventBody.decodeCandidate action one).reported =
      (EventBody.decodeCandidate action other).reported := by
  simp only [EventBody.decodeCandidate, Checked.reported_seq, Checked.reported_map,
    required_hex respelled]

theorem plain_reported (decodeBody : Members → Checked EventBody)
    (body : (decodeBody one).reported = (decodeBody other).reported) :
    (Event.decodePlain decodeBody one).reported =
      (Event.decodePlain decodeBody other).reported := by
  simp (disch := decide) only [Event.decodePlain, Checked.reported_seq, Checked.reported_map,
    required_plain respelled Decoder.natural, body]

theorem decode_reported (kind : EventKind) :
    (Event.decode kind one).reported = (Event.decode kind other).reported := by
  have blocks : (required "block_number" Decoder.natural one).reported =
      (required "block_number" Decoder.natural other).reported :=
    required_plain respelled Decoder.natural (by decide)
  cases kind with
  | relayMessage | withdrawMessage =>
      exact plain_reported respelled _ (transfer_reported respelled _)
  | approvedRelayMessage | confirmMessage | confirmWithdrawMessage | confirmCancelMessage
  | revertMessage | bridgeStarted | bridgeStopped | bridgePaused | bridgeResumed
  | bridgePausedByVolume | bridgeStartedByVolume =>
      refine plain_reported respelled _ ?_
      simp only [EventBody.decodeStatus, EventBody.decodeControl, Checked.reported_map,
        required_hex respelled]
  | hostAccountPaused | hostAccountResumed | guestAccountPaused | guestAccountResumed =>
      exact plain_reported respelled _ (account_reported respelled _ _)
  | validatorAdded | validatorRemoved =>
      exact plain_reported respelled _ (candidate_reported respelled _)
  | setNewLimits | proposalCreated =>
      simp only [Event.decode, Checked.reported_seq, Checked.reported_map,
        limit_values_reported respelled, blocks, required_hex respelled]
  | proposalApproved | validatorsListProposalCreated | validatorsListMessage =>
      simp only [Event.decode]
      refine plain_reported respelled _ ?_
      simp (disch := decide) only [Checked.reported_seq, Checked.reported_map,
        required_hex respelled, required_hexes respelled, required_plain respelled Decoder.natural]

theorem tagged_reported :
    (Event.decodeTagged one).reported = (Event.decodeTagged other).reported := by
  have tags : Json.lookup "kind" one = Json.lookup "kind" other :=
    lookup_plain respelled (by decide)
  simp only [Event.decodeTagged, tags]
  cases Json.lookup "kind" other with
  | none => rfl
  | some tag =>
      cases known : Event.kindOfTag? tag with
      | none =>
          simp only [known]
          rfl
      | some kind => simp only [known, Checked.reported_under, decode_reported respelled kind]

end Events

def MalformedEvent.reported : MalformedEvent → MalformedEvent
  | .notObject kindName => .notObject kindName
  | .invalid shownKind complaints => .invalid shownKind (complaints.map Complaint.reported)

def EngineFault.reported : EngineFault → EngineFault
  | .malformed event => .malformed event.reported
  | fault => fault

def Answer.reported (answer : Answer) : Answer :=
  { answer with fault := answer.fault.map EngineFault.reported }

theorem parse_obj_reported (members : Members) :
    (Event.parse (.obj members)).mapError MalformedEvent.reported =
      match (Event.decodeTagged members).reported with
      | .valid event => .ok event
      | .invalid complaints => .error (.invalid (Event.shownKind members) complaints) := by
  simp only [Event.parse]
  cases Event.decodeTagged members <;> rfl

theorem parse_reported {one other : Json} (respelled : Respelled one other) :
    (Event.parse one).mapError MalformedEvent.reported =
      (Event.parse other).mapError MalformedEvent.reported := by
  cases respelled with
  | same => rfl
  | @members one other members =>
      have shown : Event.shownKind one = Event.shownKind other := by
        simp only [Event.shownKind, lookup_plain members (by decide : "kind" ∉ hexFields)]
      rw [parse_obj_reported, parse_obj_reported, tagged_reported members, shown]

namespace Engine

variable {σ : Type} [Backend σ]

def rawCalls (inputs : List Json) : List Call :=
  inputs.map fun input => .one (.raw input)

theorem call_raw (input : Json) (engine : Engine σ) :
    Prod.map Answer.reported id (engine.call (.one (.raw input))) =
      match (Event.parse input).mapError MalformedEvent.reported with
      | .ok event => Prod.map Answer.reported id (engine.call (.one (.parsed event)))
      | .error malformed => (⟨[], some (.malformed malformed)⟩, engine) := by
  simp only [call, give, applyJson]
  cases Event.parse input <;> rfl

theorem calls_cons (call : Call) (rest : List Call) (engine : Engine σ) :
    engine.calls (call :: rest) =
      ((engine.call call).1 :: ((engine.call call).2.calls rest).1,
        ((engine.call call).2.calls rest).2) := rfl

theorem call_respelled {one other : Json} (respelled : Respelled one other) (engine : Engine σ) :
    (engine.call (.one (.raw one))).1.reported = (engine.call (.one (.raw other))).1.reported ∧
      (engine.call (.one (.raw one))).2 = (engine.call (.one (.raw other))).2 := by
  have same : Prod.map Answer.reported id (engine.call (.one (.raw one))) =
      Prod.map Answer.reported id (engine.call (.one (.raw other))) := by
    rw [call_raw, call_raw, parse_reported respelled]
  exact Prod.ext_iff.mp same

theorem calls_respelled {one other : List Json} (respelled : List.Forall₂ Respelled one other)
    (engine : Engine σ) :
    (engine.calls (rawCalls one)).1.map Answer.reported =
        (engine.calls (rawCalls other)).1.map Answer.reported ∧
      (engine.calls (rawCalls one)).2 = (engine.calls (rawCalls other)).2 := by
  induction respelled generalizing engine with
  | nil => exact ⟨rfl, rfl⟩
  | @cons input spelled inputs others same _ ih =>
      obtain ⟨answer, after⟩ := call_respelled same engine
      obtain ⟨answers, last⟩ := ih (engine.call (.one (.raw spelled))).2
      rw [rawCalls, rawCalls, List.map_cons, List.map_cons, calls_cons, calls_cons, after]
      exact ⟨congrArg₂ List.cons answer answers, last⟩

/-- How ids and addresses are spelled never matters. Two lists of raw events that differ only in
it are answered alike and leave the same engine. A request for a row under any spelling of its id is
answered like one under the id in normal form, by which events name the row and which it is stored
under. -/
theorem spelling_never_matters (engine : Engine σ) {one other : List Json}
    (respelled : List.Forall₂ Respelled one other) :
    let after := (engine.calls (rawCalls one)).2
    (engine.calls (rawCalls one)).1.map Answer.reported =
      (engine.calls (rawCalls other)).1.map Answer.reported ∧
    after = (engine.calls (rawCalls other)).2 ∧
    ∀ (shown : Http.Shown) (id : HexString) (spelled : String),
      HexString.normalize (spelled : Text) = .ok id → ∀ request : Http.Request,
        Http.Service.answer (request.forRow shown spelled) after =
          Http.Service.answer (request.forRow shown id.text) after ∧
        ∀ row state,
          Backend.load shown.collection id.text after.state = (.ok (some row), state) →
          Http.Service.route (request.forRow shown spelled) after =
            ({ Http.Response.shared (shown.collection.encodeRow row) with
                requestId := request.id? }.sent.map .response, { after with state }) := by
  intro after
  obtain ⟨answers, last⟩ := calls_respelled respelled engine
  refine ⟨answers, last, fun shown id spelled spells request => ⟨?_, fun row state stored => ?_⟩⟩
  · exact Http.answer_for_row shown spells request _
  · exact Http.route_for_stored_row shown spells request _ stored

/-- The transfer of `relayInput` with other spellings of its id and of one address. -/
def relayInputSmall : Json :=
  .obj [("kind", .str "RelayMessage"), ("block_number", .int 5), ("message_id", .str "0x0a"),
    ("sender", .str "0X0B"), ("recipient", .str "0x0b"), ("amount", .str "12")]

theorem relay_input_respelled : Respelled relayInput relayInputSmall := by
  have id : SameHex " 0X0A " "0x0a" := ⟨.sample, by decide +kernel, by decide +kernel⟩
  have address : SameHex "0x0b" "0X0B" := ⟨.sampleOther, by decide +kernel, by decide +kernel⟩
  exact .members (.cons (.same _) (.cons (.same _) (.cons (.field (by decide) (.item (.hex id)))
    (.cons (.field (by decide) (.item (.hex address))) (.cons (.same _) (.cons (.same _) .nil))))))

/-- The transfer is shown under a third spelling of its id. -/
theorem spelling_never_matters_relay :
    ((start Store.empty none).calls (rawCalls [relayInput])).2 =
      ((start Store.empty none).calls (rawCalls [relayInputSmall])).2 ∧
    ∃ row : Message, ∀ request : Http.Request,
      Http.Service.route (request.forRow .message "0X0a\n")
          ((start Store.empty none).calls (rawCalls [relayInput])).2 =
        ({ Http.Response.shared (Collection.encodeRow .messages row) with
            requestId := request.id? }.sent.map .response,
          ((start Store.empty none).calls (rawCalls [relayInput])).2) := by
  obtain ⟨_, same, shows⟩ := spelling_never_matters (start Store.empty none)
    (.cons relay_input_respelled .nil)
  have isStored : (((start Store.empty none).calls (rawCalls [relayInput])).2.state.load .messages
      HexString.sample.text).isSome = true := by decide +kernel
  obtain ⟨row, stored⟩ := Option.isSome_iff_exists.mp isStored
  refine ⟨same, row, fun request => ?_⟩
  exact (shows .message .sample "0X0a\n" (by decide +kernel) request).2 row _
    (congrArg (fun found => (Except.ok found, _)) stored)

end Engine

end BridgeState
