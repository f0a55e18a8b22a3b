import BridgeState.Http.Service
import BridgeState.Proofs.PlainTexts
import BridgeState.Proofs.Replays

/-!
# Batches that are sent

A batch of JSON objects that is sent to the service leaves what a replay of it leaves, and the
response tells what the summary of the replay tells. An object that is no event stops both behind the
objects before it, and the response tells its position, if it can be sent: the refusal repeats the kind
of the object, so that a kind with a single surrogate leaves the request without a response.
-/

namespace BridgeState

set_option autoImplicit false

namespace Http

variable {σ : Type} [Backend σ]

/-- Why a batch that is sent stopped, told as why a batch that is replayed did. -/
def haltFault : Halt MalformedEvent → EngineFault
  | .unreadable problem => .malformed problem
  | .failed fault => .store fault

/-- A batch that is sent is applied as one that is replayed; it stops at the position behind the
events applied. -/
theorem ingest_from_eq (position : Nat) (inputs : List Json) (engine : Engine σ) :
    ingestFrom position inputs engine =
      (⟨(engine.applyJsons inputs).1.applied,
          position + (engine.applyJsons inputs).1.applied.length,
          (engine.applyJsons inputs).1.halt.map haltFault⟩,
        (engine.applyJsons inputs).2) := by
  induction inputs generalizing position engine with
  | nil => rfl
  | cons input rest ih =>
      simp only [ingestFrom, Engine.applyJsons, Engine.applyEach]
      cases Event.parse input with
      | error problem => rfl
      | ok event =>
          simp only [Engine.apply]
          rcases Engine.perform event.script engine with ⟨result, after⟩
          cases result with
          | error fault => rfl
          | ok outcome =>
              have next (count : Nat) : position + 1 + count = position + (count + 1) := by
                omega
              simp only [ih, Ingest.behind, Batch.behind, List.length_cons, next]
              rfl

/-- The answer to a batch that is sent, by what became of it and what was told meanwhile. -/
def batchAnswer (batch : Batch MalformedEvent) (told : List Diagnostic) :
    Except ServiceFault Response :=
  match batch.halt with
  | none => .ok (.ok (Ingest.summary ⟨batch.applied, batch.applied.length, none⟩ told))
  | some (.unreadable problem) =>
    .ok (.refused 422 (Ingest.refusal
      ⟨batch.applied, batch.applied.length, some (.malformed problem)⟩ problem))
  | some (.failed fault) => .error (.engine (.store fault))

theorem respond_events (request : Request) (inputs : List Json) (engine : Engine σ)
    (posted : request.method = Endpoint.events.method)
    (carries : readBatch (request.header? "Content-Type") request.body = .ok inputs) :
    Service.respond .events request engine =
      (batchAnswer (engine.applyJsons inputs).1
        ((engine.applyJsons inputs).2.diagnosticsSince engine), (engine.applyJsons inputs).2) := by
  simp only [Service.respond, posted, beq_self_eq_true, if_true, Service.endpointAnswer,
    ingestAnswer, carries, ingest_from_eq, Nat.zero_add]
  rcases engine.applyJsons inputs with ⟨⟨applied, halt⟩, after⟩
  match halt with
  | none => rfl
  | some (.unreadable problem) => rfl
  | some (.failed fault) => rfl

/-- The response goes out with the id that the caller gave the request. -/
def Response.to (request : Request) (response : Response) : Response :=
  { response with requestId := request.id? }

theorem answer_events (request : Request) (inputs : List Json) (engine : Engine σ)
    (path : Endpoint.atPath request.path = some .events)
    (located : ∃ url, Url.parse (request.locatorOf request.path) = .ok url)
    (posted : request.method = Endpoint.events.method)
    (carries : readBatch (request.header? "Content-Type") request.body = .ok inputs) :
    Service.answer request engine =
      ((batchAnswer (engine.applyJsons inputs).1
          ((engine.applyJsons inputs).2.diagnosticsSince engine)).bind fun response =>
            (response.to request).sent.map .response,
        (engine.applyJsons inputs).2) := by
  obtain ⟨url, isUrl⟩ := located
  have responded := respond_events request inputs engine posted carries
  simp only [Service.answer, isUrl, Service.route, path, responded]
  rfl

/-- A summary can be sent whatever the batch, as long as the diagnostics are plain. -/
theorem summary_sent (request : Request) (ingest : Ingest) {told : List Diagnostic}
    (plain : ∀ diagnostic ∈ told, diagnostic.targetId.IsPlain ∧ diagnostic.message.IsPlain) :
    ((Response.ok (ingest.summary told)).to request).sent =
      .ok ((Response.ok (ingest.summary told)).to request) :=
  Response.sent_of_plain (ingest.finite_summary told) (ingest.plain_summary plain)

theorem refused_finite (ingest : Ingest) (problem : MalformedEvent) :
    (Response.refused 422 (ingest.refusal problem)).body.IsFinite := by
  simp [Response.refused, Response.plain, ingest.finite_refusal problem]

theorem refused_plain_iff (ingest : Ingest) (problem : MalformedEvent) :
    (Response.refused 422 (ingest.refusal problem)).body.IsPlain ↔ problem.message.IsPlain := by
  simp [Response.refused, Response.plain, ingest.plain_refusal problem]

section Refusal

variable (request : Request) (ingest : Ingest) {bad : Json} {problem : MalformedEvent}
  (malformed : Event.parse bad = .error problem)

include malformed

theorem refusal_sent (shown : ¬bad.ShowsSurrogate) :
    ((Response.refused 422 (ingest.refusal problem)).to request).sent =
      .ok ((Response.refused 422 (ingest.refusal problem)).to request) :=
  Response.sent_of_plain (refused_finite ingest problem)
    ((refused_plain_iff ingest problem).mpr ((plain_message_iff malformed).mpr shown))

theorem refusal_not_sent (surrogate : bad.ShowsSurrogate) :
    ∃ cause, ((Response.refused 422 (ingest.refusal problem)).to request).sent =
      .error (.unencodable cause) := by
  refine Response.sent_of_not_plain (refused_finite ingest problem) fun plain => ?_
  exact (plain_message_iff malformed).mp ((refused_plain_iff ingest problem).mp plain) surrogate

end Refusal

end Http

section InMemory

/-- In memory a batch of objects that can all be read is applied as a whole. -/
theorem apply_jsons_readable (inputs : List Json) (engine : Engine Store)
    (readable : ∀ input ∈ inputs, ∃ event, Event.parse input = .ok event) :
    (engine.applyJsons inputs).1.halt = none ∧
      ((engine.applyJsons inputs).1.applied.map fun applied => .ok applied.event) =
        inputs.map Event.parse := by
  induction inputs generalizing engine with
  | nil => exact ⟨rfl, rfl⟩
  | cons input rest ih =>
      obtain ⟨event, isEvent⟩ := readable input List.mem_cons_self
      obtain ⟨after, performed, _⟩ := Engine.perform_in_memory event.script engine
      have whole := Engine.apply_each_applied isEvent performed rest
      obtain ⟨noHalt, events⟩ := ih (after.recordApply event (event.script.run engine.state).value)
        fun input member => readable input (List.mem_cons_of_mem _ member)
      simp only [Engine.applyJsons] at noHalt events ⊢
      rw [whole]
      refine ⟨noHalt, ?_⟩
      simp only [Batch.behind, List.map_cons, events, isEvent]

theorem replay_readable (inputs : List Json) (engine : Engine Store)
    (readable : ∀ input ∈ inputs, ∃ event, Event.parse input = .ok event) :
    engine.replay inputs =
      (.finished ((engine.applyJsons inputs).1.summary
          ((engine.applyJsons inputs).2.diagnosticsSince engine).length),
        (engine.applyJsons inputs).2) := by
  have noHalt := (apply_jsons_readable inputs engine readable).1
  simp only [Engine.replay_eq, ReplayEnd.ofBatch, noHalt]

theorem apply_jsons_stopped (good rest : List Json) (bad : Json) (problem : MalformedEvent)
    (engine : Engine Store) (readable : ∀ input ∈ good, ∃ event, Event.parse input = .ok event)
    (malformed : Event.parse bad = .error problem) :
    engine.applyJsons (good ++ bad :: rest) =
      (⟨(engine.applyJsons good).1.applied, some (.unreadable problem)⟩,
        (engine.applyJsons good).2) := by
  have noHalt := (apply_jsons_readable good engine readable).1
  simp only [Engine.applyJsons] at noHalt ⊢
  rw [Engine.applyEach_append]
  rcases applied : Engine.applyEach Event.parse good engine with ⟨⟨events, halt⟩, after⟩
  rw [applied] at noHalt
  simp only at noHalt
  subst noHalt
  simp only [Engine.apply_each_unreadable malformed, List.append_nil]

/-- In memory, whatever a batch adds to the diagnostics is told of one of its events. -/
theorem told_of_apply_each {ι ε : Type} (read : ι → Except ε Event) (items : List ι)
    (engine : Engine Store) :
    ∃ told, (Engine.applyEach read items engine).2.diagnostics = engine.diagnostics ++ told ∧
      ∀ diagnostic ∈ told, ∃ event : Event, event.Tells diagnostic := by
  induction items generalizing engine with
  | nil => exact ⟨[], (List.append_nil _).symm, by simp⟩
  | cons item rest ih =>
      cases isEvent : read item with
      | error cause =>
          rw [Engine.apply_each_unreadable isEvent]
          exact ⟨[], (List.append_nil _).symm, by simp⟩
      | ok event =>
          obtain ⟨after, performed, _⟩ := Engine.perform_in_memory event.script engine
          rw [Engine.apply_each_applied isEvent performed]
          obtain ⟨later, isLater, ofLater⟩ :=
            ih (after.recordApply event (event.script.run engine.state).value)
          have first : after.diagnostics =
              engine.diagnostics ++ (event.apply engine.state).diagnostics := by
            have told := (Engine.gives_apply event engine).2
            simp only [Engine.apply, performed] at told
            exact told
          refine ⟨(event.apply engine.state).diagnostics ++ later, ?_, ?_⟩
          · rw [← List.append_assoc, ← first]
            exact isLater
          · intro diagnostic member
            rcases List.mem_append.mp member with ofFirst | ofRest
            · exact ⟨event, tells_of_mem_diagnostics event engine.state diagnostic ofFirst⟩
            · exact ofLater diagnostic ofRest

theorem plain_of_told (inputs : List Json) (engine : Engine Store) :
    ∀ diagnostic ∈ (engine.applyJsons inputs).2.diagnosticsSince engine,
      diagnostic.targetId.IsPlain ∧ diagnostic.message.IsPlain := by
  obtain ⟨told, isTold, ofEvents⟩ := told_of_apply_each Event.parse inputs engine
  rw [Engine.diagnosticsSince, Engine.applyJsons, isTold, List.drop_left]
  intro diagnostic member
  obtain ⟨event, tells⟩ := ofEvents diagnostic member
  exact tells.plain

end InMemory

namespace Http

def outcomeTold : Json → Option String
  | .obj members =>
    match Json.lookup "outcome" members with
    | some (.str outcome) => outcome.toString?
    | _ => none
  | _ => none

theorem outcomes_of_results (index : Nat) (applied : List Applied) :
    (Ingest.resultsFrom index applied).map outcomeTold =
      (applied.map fun applied => (Named.name applied.outcome : String)).map some := by
  induction applied generalizing index with
  | nil => rfl
  | cons first rest ih =>
      simp only [Ingest.resultsFrom, List.map_cons, ih]
      congr 1
      exact Text.toString?_ofString _

/-- The response tells of a batch what a summary tells of it. -/
def Response.TellsAs (summary : Summary) (response : Response) : Prop :=
  response.status = 200 ∧ ∃ members results outcomes diagnostics,
    response.body = .obj members ∧
    Json.lookup "applied" members = some (.nat summary.eventCount) ∧
    Json.lookup "results" members = some (.arr results) ∧
    results.map outcomeTold = outcomes.map some ∧
    Tally.ofList outcomes = summary.outcomes ∧
    Json.lookup "last_block_number" members = some (.ofOption .nat summary.lastBlockNumber) ∧
    Json.lookup "diagnostics" members = some (.arr diagnostics) ∧
    diagnostics.length = summary.diagnosticCount

/-- The response refuses a batch at a position, up to which all was applied. -/
def Response.RefusesAt (position : Nat) (response : Response) : Prop :=
  response.status = 422 ∧ ∃ members detail,
    response.body = .obj members ∧
    Json.lookup "detail" members = some (.obj detail) ∧
    Json.lookup "index" detail = some (.nat position) ∧
    Json.lookup "applied" detail = some (.nat position)

theorem summary_tells (request : Request) (batch : Batch MalformedEvent)
    (diagnostics : List Diagnostic) :
    ((Response.ok (Ingest.summary ⟨batch.applied, batch.applied.length, none⟩ diagnostics)).to
      request).TellsAs (batch.summary diagnostics.length) := by
  refine ⟨rfl, _, _, batch.outcomeNames, _, rfl, rfl, rfl, ?_, rfl, rfl, rfl, ?_⟩
  · exact outcomes_of_results 0 batch.applied
  · exact List.length_map _

/-- Whether a body carries two objects, of which the first is that event and the second is empty. -/
def carriesThenEmpty (event : Event) : Except Response (List Json) → Bool
  | .ok [good, .obj []] =>
    match Event.parse good with
    | .ok read => read == event
    | .error _ => false
  | _ => false

theorem carried_of_check {event : Event} {carried : Except Response (List Json)}
    (check : carriesThenEmpty event carried = true) :
    ∃ good, carried = .ok [good, .obj []] ∧ Event.parse good = .ok event := by
  unfold carriesThenEmpty at check
  split at check
  · rename_i good
    split at check
    · rename_i read isGood
      have same : read = event := eq_of_beq check
      exact ⟨good, rfl, same ▸ isGood⟩
    · cases check
  · cases check

def sends (body : String) : Request where
  method := "POST"
  scheme := "http".toList
  place := "localhost".toList
  path := "/api/events".toList
  query := []
  headers := [("Content-Type", "application/json")]
  body

theorem at_path_sends (body : String) : Endpoint.atPath (sends body).path = some .events := by
  rfl

theorem located_sends (body : String) :
    ∃ url, Url.parse ((sends body).locatorOf (sends body).path) = .ok url := by
  have locator : (sends body).locatorOf (sends body).path =
      (sends "").locatorOf (sends "").path := rfl
  have isUrl : Url.parse ((sends "").locatorOf (sends "").path) =
      .ok ⟨"http".toList, "localhost".toList, "/api/events".toList, []⟩ := by
    decide +kernel
  exact ⟨_, locator ▸ isUrl⟩

def approvalAndEmpty : String :=
  "\x7b\"events\":[\x7b\"kind\":\"ProposalApproved\",\"block_number\":5,\"proposal_id\":\"0x0a\"\x7d,\x7b\x7d]\x7d"

theorem carried_approval_and_empty :
    carriesThenEmpty ⟨5, .limitApproval .sample⟩
      (readBatch ((sends approvalAndEmpty).header? "Content-Type") (sends approvalAndEmpty).body) =
      true := by
  decide +kernel

/-- A batch that is sent leaves what a replay of it leaves, but for the latencies. If all of it can be
read, the response tells what the summary of the replay tells. Else both stop at the first object that
cannot be read: exactly the objects before it are applied, and the replay names its position. So does
the response, unless the object shows a kind with a surrogate; then there is none. Replayed in parts,
one behind the other, the batch leaves the same, and the counts of the parts add up. -/
theorem sent_agrees_with_replayed (request : Request) (inputs : List Json)
    (path : Endpoint.atPath request.path = some .events)
    (located : ∃ url, Url.parse (request.locatorOf request.path) = .ok url)
    (posted : request.method = Endpoint.events.method)
    (carries : readBatch (request.header? "Content-Type") request.body = .ok inputs)
    (serving replaying : Engine Store) (alike : serving.untimed = replaying.untimed) :
    let sent := Service.answer request serving
    let replayed := replaying.replay inputs
    sent.2.untimed = replayed.2.untimed ∧
    ((∀ input ∈ inputs, ∃ event, Event.parse input = .ok event) →
      ∃ summary response, replayed.1 = .finished summary ∧ sent.1 = .ok (.response response) ∧
        response.TellsAs summary) ∧
    (∀ good bad rest problem, inputs = good ++ bad :: rest →
      (∀ input ∈ good, ∃ event, Event.parse input = .ok event) →
      Event.parse bad = .error problem →
        replayed.1 = .malformed good.length problem ∧
        (∃ summary, replaying.replay good = (.finished summary, replayed.2) ∧
          summary.eventCount = good.length) ∧
        (¬bad.ShowsSurrogate → ∃ response, sent.1 = .ok (.response response) ∧
          response.RefusesAt good.length) ∧
        (bad.ShowsSurrogate → ∃ cause, sent.1 = .error (.unencodable cause))) ∧
    ∀ parts : List (List Json), parts.flatten = inputs →
      let split := replaying.replayParts parts
      split.2 = replayed.2 ∧
      (∀ summary, replayed.1 = .finished summary → ∃ summaries,
        split.1 = summaries.map .finished ∧ summaries.length = parts.length ∧
        Summary.AddUp summaries summary) ∧
      ∀ position problem, replayed.1 = .malformed position problem → ∃ summaries last,
        split.1 = summaries.map .finished ++ [.malformed last problem] ∧
        Summary.total Summary.eventCount summaries + last = position := by
  intro sent replayed
  obtain ⟨sameBatch, sameEngine⟩ := Engine.untimed_apply_each Event.parse inputs alike
  have sameTold := Engine.untimed_diagnostics_since alike sameEngine
  have isReplay : replayed = _ := Engine.replay_eq inputs replaying
  have answered : sent = ((batchAnswer (replaying.applyJsons inputs).1
      ((replaying.applyJsons inputs).2.diagnosticsSince replaying)).bind fun response =>
        (response.to request).sent.map .response, (serving.applyJsons inputs).2) := by
    have same : batchAnswer (serving.applyJsons inputs).1
        ((serving.applyJsons inputs).2.diagnosticsSince serving) =
        batchAnswer (replaying.applyJsons inputs).1
          ((replaying.applyJsons inputs).2.diagnosticsSince replaying) :=
      congr (congrArg batchAnswer sameBatch) sameTold
    rw [← same]
    exact answer_events request inputs serving path located posted carries
  refine ⟨?_, ?_, ?_, ?_⟩
  · rw [answered, isReplay]
    exact sameEngine
  · intro readable
    have noHalt := (apply_jsons_readable inputs replaying readable).1
    have tells := summary_tells request (replaying.applyJsons inputs).1
      ((replaying.applyJsons inputs).2.diagnosticsSince replaying)
    have goesOut := summary_sent request
      ⟨(replaying.applyJsons inputs).1.applied, (replaying.applyJsons inputs).1.applied.length, none⟩
      (plain_of_told inputs replaying)
    refine ⟨_, _, congrArg Prod.fst (replay_readable inputs replaying readable), ?_, tells⟩
    simp only [answered, batchAnswer, noHalt]
    exact congrArg (Except.map Answer.response) goesOut
  · intro good bad rest problem split readable malformed
    have events := (apply_jsons_readable good replaying readable).2
    have stopped := apply_jsons_stopped good rest bad problem replaying readable malformed
    rw [← split] at stopped
    have count : (replaying.applyJsons good).1.applied.length = good.length := by
      have lengths := congrArg List.length events
      rwa [List.length_map, List.length_map] at lengths
    let stoppedAt : Ingest := ⟨(replaying.applyJsons good).1.applied,
      (replaying.applyJsons good).1.applied.length, some (.malformed problem)⟩
    rw [answered, isReplay, stopped]
    refine ⟨?_, ⟨_, replay_readable good replaying readable, count⟩, ?_, ?_⟩
    · exact congrArg (ReplayEnd.malformed · problem) count
    · intro shown
      have goesOut := refusal_sent request stoppedAt malformed shown
      refine ⟨_, congrArg (Except.map Answer.response) goesOut, rfl, _, _, rfl, rfl, ?_, ?_⟩
      · exact congrArg (some ∘ Json.nat) count
      · exact congrArg (some ∘ Json.nat) count
    · intro surrogate
      obtain ⟨cause, refused⟩ := refusal_not_sent request stoppedAt malformed surrogate
      exact ⟨cause, congrArg (Except.map Answer.response) refused⟩
  · intro parts flat split
    obtain ⟨sameLast, _⟩ := Engine.apply_parts_eq_flatten Event.parse parts replaying
    simp only [flat] at sameLast
    subst flat
    refine ⟨?_, Engine.replay_parts_finished parts replaying,
      Engine.replay_parts_malformed parts replaying⟩
    rw [isReplay]
    exact (congrArg Prod.snd (Engine.replay_parts_eq parts replaying)).trans sameLast

theorem sent_agrees_with_replayed_stopped :
    ∃ good problem,
      readBatch ((sends approvalAndEmpty).header? "Content-Type") (sends approvalAndEmpty).body =
        .ok [good, .obj []] ∧
      Event.parse good = .ok ⟨5, .limitApproval .sample⟩ ∧
      ((Engine.start Store.empty none).replay [good, .obj []]).1 = .malformed 1 problem ∧
      ∃ response,
        (Service.answer (sends approvalAndEmpty)
          ((Engine.start Store.empty none).timed (.ofInt 2) (.ofInt 5))).1 =
            .ok (.response response) ∧
        response.RefusesAt 1 := by
  obtain ⟨good, carried, isGood⟩ := carried_of_check carried_approval_and_empty
  obtain ⟨_, _, stopped, _⟩ := sent_agrees_with_replayed (sends approvalAndEmpty) [good, .obj []]
    (at_path_sends _) (located_sends _) rfl carried _ _
    (Engine.untimed_timed (.ofInt 2) (.ofInt 5) (Engine.start Store.empty none))
  have readable : ∀ input ∈ [good], ∃ event, Event.parse input = .ok event := by
    intro input member
    exact ⟨_, List.mem_singleton.mp member ▸ isGood⟩
  obtain ⟨replayed, _, answer, _⟩ := stopped [good] (.obj []) [] _ rfl readable rfl
  have shown : ¬(Json.obj []).ShowsSurrogate := by
    rintro ⟨members, kind, isObject, isKind, -⟩
    obtain rfl := Json.obj.inj isObject
    cases isKind
  exact ⟨good, _, carried, isGood, replayed, answer shown⟩

def surrogateEvent : Json :=
  .obj [("kind", .str ⟨[.surrogate 0]⟩)]

def surrogateBody : String :=
  "\x7b\"events\":[\x7b\"kind\":\"\\ud800\"\x7d]\x7d"

def carriesSurrogate : Except Response (List Json) → Bool
  | .ok [.obj [(name, .str kind)]] => name == "kind" && kind == ⟨[.surrogate 0]⟩
  | _ => false

theorem carried_surrogate :
    readBatch ((sends surrogateBody).header? "Content-Type") (sends surrogateBody).body =
      .ok [surrogateEvent] := by
  have check : carriesSurrogate
      (readBatch ((sends surrogateBody).header? "Content-Type") (sends surrogateBody).body) =
        true := by
    decide +kernel
  unfold carriesSurrogate at check
  split at check
  · rename_i name kind isCarried
    rw [Bool.and_eq_true, beq_iff_eq, beq_iff_eq] at check
    rw [isCarried, check.1, check.2, surrogateEvent]
  · cases check

/-- A replay names the position of an object whose kind is a single surrogate; sent to the service,
the object gets no response. -/
theorem surrogate_kind_without_response :
    readBatch ((sends surrogateBody).header? "Content-Type") (sends surrogateBody).body =
      .ok [surrogateEvent] ∧
    (∃ problem,
      ((Engine.start Store.empty none).replay [surrogateEvent]).1 = .malformed 0 problem) ∧
    ∃ cause, (Service.answer (sends surrogateBody) (Engine.start Store.empty none)).1 =
      .error (.unencodable cause) := by
  have malformed : ∃ problem, Event.parse surrogateEvent = .error problem := ⟨_, rfl⟩
  obtain ⟨problem, isMalformed⟩ := malformed
  have surrogate : surrogateEvent.ShowsSurrogate := by
    refine ⟨_, _, rfl, rfl, fun plain => ?_⟩
    have held := plain (.surrogate 0) List.mem_cons_self
    cases held
  refine ⟨carried_surrogate, ⟨problem, ?_⟩, ?_⟩
  · simp only [Engine.replay, Engine.replayFrom, isMalformed]
  · rw [answer_events _ _ (Engine.start Store.empty none) (at_path_sends _) (located_sends _) rfl
      carried_surrogate, Engine.applyJsons, Engine.apply_each_unreadable isMalformed]
    obtain ⟨cause, refused⟩ := refusal_not_sent (sends surrogateBody)
      ⟨[], 0, some (.malformed problem)⟩ isMalformed surrogate
    exact ⟨cause, congrArg (Except.map Answer.response) refused⟩

end Http

end BridgeState
