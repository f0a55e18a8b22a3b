import BridgeState.Proofs.History

/-!
# The life of a transfer

A transfer is stored from the first event that creates it on. Its data are those of that event, and
its status is decided by the status events behind it: the first that ends a transfer of its
direction decides it for good, and before there is one it is approved if an approval has been seen.
Status events before the creation, creations after the first, confirmations of the other direction
and whatever comes behind the end leave no trace.
-/

namespace BridgeState

set_option autoImplicit false

def Event.Creates (id : Text) (event : Event) : Prop :=
  match event.body with
  | .transfer _ transfer => (transfer.messageId.text : Text) = id
  | _ => False

instance (id : Text) (event : Event) : Decidable (event.Creates id) := by
  unfold Event.Creates
  split <;> infer_instance

def Event.statusChange? (id : Text) (event : Event) : Option StatusEvent :=
  match event.body with
  | .status change messageId => if (messageId.text : Text) = id then some change else none
  | _ => none

/-- The status in which a status event ends a transfer of the direction, if it ends it. -/
def StatusEvent.verdict (direction : Direction) : StatusEvent → Option MessageStatus
  | .approved => none
  | .confirmed => if direction = .hostToGuest then some .confirmed else none
  | .withdrawalConfirmed => if direction = .guestToHost then some .withdrawalConfirmed else none
  | .cancelConfirmed => some .canceled
  | .reverted => some .canceled

/-- The status of a transfer behind the status events that came after its creation. -/
def decidedStatus (direction : Direction) (changes : List StatusEvent) : MessageStatus :=
  match changes.findSome? (StatusEvent.verdict direction) with
  | some status => status
  | none => if .approved ∈ changes then .approved else .pending

/-- The status is one that a transfer does not leave. -/
def MessageStatus.Final (status : MessageStatus) : Prop :=
  status = .confirmed ∨ status = .withdrawalConfirmed ∨ status = .canceled

theorem verdict_final (direction : Direction) (change : StatusEvent) (status : MessageStatus)
    (ended : change.verdict direction = some status) : status.Final := by
  unfold MessageStatus.Final
  cases change <;> cases direction <;> simp_all [StatusEvent.verdict]

theorem moved_of_final (direction : Direction) (change : StatusEvent) (status : MessageStatus)
    (final : status.Final) : status.moved direction change = status := by
  rcases final with isConfirmed | isWithdrawal | isCanceled
  · subst isConfirmed; cases change <;> rfl
  · subst isWithdrawal; cases change <;> rfl
  · subst isCanceled; cases change <;> rfl

/-- A transfer that no event has ended is moved by the next one as the decision says. -/
theorem moved_of_open (direction : Direction) (changes : List StatusEvent) (change : StatusEvent)
    (isOpen : changes.findSome? (StatusEvent.verdict direction) = none) :
    decidedStatus direction (changes ++ [change]) =
      (decidedStatus direction changes).moved direction change := by
  have ended : (changes ++ [change]).findSome? (StatusEvent.verdict direction) =
      change.verdict direction := by
    rw [List.findSome?_append, isOpen]
    simp
  simp only [decidedStatus, ended, isOpen, List.mem_append, List.mem_singleton]
  by_cases approved : StatusEvent.approved ∈ changes
  · simp only [approved, true_or, if_true]
    cases change <;> cases direction <;> rfl
  · simp only [approved, false_or, if_false]
    cases change <;> cases direction <;> rfl

theorem decided_status_append_one (direction : Direction) (changes : List StatusEvent)
    (change : StatusEvent) :
    decidedStatus direction (changes ++ [change]) =
      (decidedStatus direction changes).moved direction change := by
  cases ended : changes.findSome? (StatusEvent.verdict direction) with
  | none => exact moved_of_open direction changes change ended
  | some status =>
      obtain ⟨cause, _, verdict⟩ := List.exists_of_findSome?_eq_some ended
      have final := verdict_final direction cause status verdict
      have kept : (changes ++ [change]).findSome? (StatusEvent.verdict direction) =
          some status := by
        rw [List.findSome?_append, ended]
        rfl
      simp only [decidedStatus, kept, ended]
      exact (moved_of_final direction change status final).symm

/-- A confirmed transfer is one of the direction that the status confirms. -/
theorem decided_status_direction (direction : Direction) (changes : List StatusEvent) :
    (decidedStatus direction changes = .confirmed → direction = .hostToGuest) ∧
      (decidedStatus direction changes = .withdrawalConfirmed → direction = .guestToHost) := by
  unfold decidedStatus
  cases ended : changes.findSome? (StatusEvent.verdict direction) with
  | none =>
      by_cases approved : StatusEvent.approved ∈ changes
      · simp [approved]
      · simp [approved]
  | some status =>
      obtain ⟨cause, _, verdict⟩ := List.exists_of_findSome?_eq_some ended
      cases cause <;> cases direction <;>
        simp [StatusEvent.verdict] at verdict <;> simp [← verdict]

section Step

variable (blockNumber : Nat) (store : Store) (id : Text)

theorem load_message_of_creation (direction : Direction) (transfer : Transfer)
    (sameId : (transfer.messageId.text : Text) = id) :
    (Event.apply ⟨blockNumber, .transfer direction transfer⟩ store).store.load .messages id =
      (store.load .messages id).or
        (some (Rule.pendingMessage blockNumber direction transfer)) := by
  subst sameId
  exact row_at_apply_mem ⟨blockNumber, .transfer direction transfer⟩ store
    (.first .messages (Rule.pendingMessage blockNumber direction transfer)) List.mem_cons_self

theorem load_message_of_status (change : StatusEvent) (messageId : HexString)
    (sameId : (messageId.text : Text) = id) :
    (Event.apply ⟨blockNumber, .status change messageId⟩ store).store.load .messages id =
      (store.load .messages id).map (Change.move change).result := by
  subst sameId
  exact row_at_apply_mem ⟨blockNumber, .status change messageId⟩ store
    (.alter .messages messageId.text (.move change)) List.mem_cons_self

end Step

theorem event_for_transfer (event : Event) (id : Text) :
    (∃ blockNumber direction transfer, event = ⟨blockNumber, .transfer direction transfer⟩ ∧
      (transfer.messageId.text : Text) = id) ∨
    (∃ blockNumber change messageId, event = ⟨blockNumber, .status change messageId⟩ ∧
      (messageId.text : Text) = id) ∨
    (¬event.Creates id ∧ event.statusChange? id = none) := by
  obtain ⟨blockNumber, body⟩ := event
  cases body with
  | transfer direction transfer =>
      by_cases sameId : (transfer.messageId.text : Text) = id
      · exact Or.inl ⟨blockNumber, direction, transfer, rfl, sameId⟩
      · exact Or.inr (Or.inr ⟨sameId, rfl⟩)
  | status change messageId =>
      by_cases sameId : (messageId.text : Text) = id
      · exact Or.inr (Or.inl ⟨blockNumber, change, messageId, rfl, sameId⟩)
      · exact Or.inr (Or.inr ⟨fun creates => creates, by simp [Event.statusChange?, sameId]⟩)
  | _ => exact Or.inr (Or.inr ⟨fun creates => creates, rfl⟩)

/-- An event that neither creates a transfer nor asks for a status of it leaves it alone. -/
theorem load_message_of_other (event : Event) (store : Store) (id : Text)
    (noCreation : ¬event.Creates id) (noChange : event.statusChange? id = none) :
    (event.apply store).store.load .messages id = store.load .messages id := by
  obtain ⟨blockNumber, body⟩ := event
  cases body with
  | transfer direction transfer =>
      apply row_at_apply_ne _ store ⟨.messages, id⟩
      intro effect member same
      rw [List.mem_singleton.mp member] at same
      exact noCreation (congrArg Place.id same).symm
  | status change messageId =>
      apply row_at_apply_ne _ store ⟨.messages, id⟩
      intro effect member same
      rw [List.mem_singleton.mp member] at same
      have sameId : (messageId.text : Text) = id := (congrArg Place.id same).symm
      simp [Event.statusChange?, sameId] at noChange
  | _ => exact load_apply_untouched _ store .messages id (by simp [EventBody.touched])

namespace History

open HexString

theorem load_message_eq_none_iff (events : List Event) (id : Text) :
    (store events).load .messages id = none ↔ ∀ event ∈ events, ¬event.Creates id := by
  induction events using List.reverseRecOn with
  | nil => exact ⟨fun _ => by simp, fun _ => rfl⟩
  | append_singleton events event ih =>
      rw [store_append_one, List.forall_mem_append, List.forall_mem_singleton, ← ih]
      rcases event_for_transfer event id with ⟨blockNumber, direction, transfer, isEvent, sameId⟩ |
        ⟨blockNumber, change, messageId, isEvent, sameId⟩ | ⟨noCreation, noChange⟩
      · subst isEvent
        rw [load_message_of_creation blockNumber _ id direction transfer sameId]
        simp [Event.Creates, sameId]
      · subst isEvent
        rw [load_message_of_status blockNumber _ id change messageId sameId]
        simp [Event.Creates]
      · rw [load_message_of_other event _ id noCreation noChange]
        exact (and_iff_left noCreation).symm

theorem load_message_append_one (events : List Event) (event : Event) (id : Text)
    (message : Message) (stored : (store events).load .messages id = some message) :
    (store (events ++ [event])).load .messages id =
      some (match event.statusChange? id with
        | none => message
        | some change => (Change.move change).result message) := by
  rw [store_append_one]
  rcases event_for_transfer event id with ⟨blockNumber, direction, transfer, isEvent, sameId⟩ |
    ⟨blockNumber, change, messageId, isEvent, sameId⟩ | ⟨noCreation, noChange⟩
  · subst isEvent
    rw [load_message_of_creation blockNumber _ id direction transfer sameId, stored]
    rfl
  · subst isEvent
    rw [load_message_of_status blockNumber _ id change messageId sameId, stored]
    simp [Event.statusChange?, sameId]
  · rw [load_message_of_other event _ id noCreation noChange, stored, noChange]

/-- The invariant of a stored transfer: the data of its creation, and the status that the status
events since then decide. -/
theorem load_message_since_creation (earlier later : List Event) (blockNumber : Nat)
    (direction : Direction) (transfer : Transfer)
    (first : ∀ event ∈ earlier, ¬event.Creates transfer.messageId.text) :
    (store (earlier ++ ⟨blockNumber, .transfer direction transfer⟩ :: later)).load .messages
        transfer.messageId.text =
      some { Rule.pendingMessage blockNumber direction transfer with
        status := decidedStatus direction
          (later.filterMap (Event.statusChange? transfer.messageId.text)) } := by
  induction later using List.reverseRecOn with
  | nil =>
      rw [store_append_one, load_message_of_creation blockNumber _ _ direction transfer rfl,
        (load_message_eq_none_iff earlier _).mpr first]
      rfl
  | append_singleton later event ih =>
      have split : earlier ++ ⟨blockNumber, .transfer direction transfer⟩ :: (later ++ [event]) =
          (earlier ++ ⟨blockNumber, .transfer direction transfer⟩ :: later) ++ [event] := by
        simp
      rw [split, load_message_append_one _ event _ _ ih, List.filterMap_append]
      cases change : event.statusChange? transfer.messageId.text with
      | none => simp [change]
      | some asked =>
          simp only [List.filterMap_cons, List.filterMap_nil, change, decided_status_append_one]
          rfl

theorem first_creation (events : List Event) (id : Text) (message : Message)
    (stored : (store events).load .messages id = some message) :
    ∃ earlier blockNumber direction transfer later,
      events = earlier ++ ⟨blockNumber, .transfer direction transfer⟩ :: later ∧
        (transfer.messageId.text : Text) = id ∧ ∀ event ∈ earlier, ¬event.Creates id := by
  cases found : events.find? fun event => decide (event.Creates id) with
  | none =>
      have never : ∀ event ∈ events, ¬event.Creates id := by simpa using found
      rw [(load_message_eq_none_iff events id).mpr never] at stored
      cases stored
  | some event =>
      obtain ⟨decided, earlier, later, split, first⟩ := List.find?_eq_some_iff_append.mp found
      have creates : event.Creates id := of_decide_eq_true decided
      obtain ⟨blockNumber, body⟩ := event
      cases body with
      | transfer direction transfer =>
          exact ⟨earlier, blockNumber, direction, transfer, later, split, creates,
            by simpa using first⟩
      | _ => exact creates.elim

theorem load_message_final (events more : List Event) (id : Text) (message : Message)
    (stored : (store events).load .messages id = some message) (final : message.status.Final) :
    (store (events ++ more)).load .messages id = some message := by
  induction more using List.reverseRecOn with
  | nil => rw [List.append_nil]; exact stored
  | append_singleton more event ih =>
      rw [← List.append_assoc, load_message_append_one _ event id message ih]
      cases event.statusChange? id with
      | none => rfl
      | some change => simp [Change.move, moved_of_final _ change _ final]

/-- A transfer is stored if and only if it has been created; it has the data of its first creation
and the status that the status events since then decide; a final status stays, and each direction
has its own confirmation. -/
theorem message_lifecycle (events : List Event) (id : Text) :
    (((store events).load .messages id).isSome = true ↔ ∃ event ∈ events, event.Creates id) ∧
    (∀ earlier blockNumber direction transfer later,
      events = earlier ++ ⟨blockNumber, .transfer direction transfer⟩ :: later →
      (transfer.messageId.text : Text) = id → (∀ event ∈ earlier, ¬event.Creates id) →
      (store events).load .messages id = some
        { id
          blockNumber
          originAddress := transfer.sender
          destinationAddress := transfer.recipient
          amount := transfer.amount
          token := transfer.token
          direction
          status := decidedStatus direction (later.filterMap (Event.statusChange? id)) }) ∧
    (∀ message, (store events).load .messages id = some message → message.status.Final →
      ∀ more, (store (events ++ more)).load .messages id = some message) ∧
    (∀ message, (store events).load .messages id = some message →
      (message.status = .confirmed → message.direction = .hostToGuest) ∧
      (message.status = .withdrawalConfirmed → message.direction = .guestToHost)) := by
  refine ⟨?_, ?_, ?_, ?_⟩
  · rw [← Option.ne_none_iff_isSome, ne_eq, load_message_eq_none_iff]
    push Not
    rfl
  · intro earlier blockNumber direction transfer later split sameId first
    subst split
    subst sameId
    exact load_message_since_creation earlier later blockNumber direction transfer first
  · intro message stored final more
    exact load_message_final events more id message stored final
  · intro message stored
    obtain ⟨earlier, blockNumber, direction, transfer, later, split, sameId, first⟩ :=
      first_creation events id message stored
    subst split
    subst sameId
    rw [load_message_since_creation earlier later blockNumber direction transfer first] at stored
    rw [← Option.some.inj stored]
    exact decided_status_direction direction _

/-- A transfer to the guest that is reverted before it is created and after it is confirmed, and in
between confirmed as if it came from there. -/
theorem message_lifecycle_confirmed :
    (store [⟨1, .status .reverted sample⟩,
      ⟨2, .transfer .hostToGuest ⟨sample, sample, sample, 7, none⟩⟩,
      ⟨3, .status .withdrawalConfirmed sample⟩, ⟨4, .status .confirmed sample⟩,
      ⟨5, .status .reverted sample⟩]).load .messages sample.text =
        some ⟨sample.text, 2, sample, sample, 7, none, .confirmed, .hostToGuest⟩ :=
  (message_lifecycle _ sample.text).2.1 [⟨1, .status .reverted sample⟩] 2 .hostToGuest
    ⟨sample, sample, sample, 7, none⟩
    [⟨3, .status .withdrawalConfirmed sample⟩, ⟨4, .status .confirmed sample⟩,
      ⟨5, .status .reverted sample⟩] rfl rfl (by decide)

end History

end BridgeState
