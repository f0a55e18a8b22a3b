import BridgeState.Http.Ingest
import BridgeState.Proofs.Outcomes

/-!
# Texts that can be sent

A text is plain if it holds no single surrogate; those are the texts that UTF-8 has bytes for. A value
is written as a plain text just where its own texts are plain. So a response tells of every batch that
was applied as a whole, and it tells of a malformed event unless the kind that the event shows is a
text with a surrogate.
-/

namespace BridgeState

set_option autoImplicit false

namespace Text

/-- No code point of the text is a surrogate. -/
def IsPlain (text : Text) : Prop :=
  ∀ point ∈ text.points, Charset.utf8.holds point = true

@[simp] theorem plain_of_string (string : String) : (ofString string).IsPlain := by
  intro point member
  obtain ⟨c, _, rfl⟩ := List.mem_map.mp member
  rfl

@[simp] theorem plain_append (first second : Text) :
    (first ++ second).IsPlain ↔ first.IsPlain ∧ second.IsPlain :=
  List.forall_mem_append

/-- Texts joined by a plain separator are plain together just where each of them is. -/
theorem plain_joined {separator : Text} (separated : separator.IsPlain) (texts : List Text) :
    (joined separator texts).IsPlain ↔ ∀ text ∈ texts, text.IsPlain := by
  induction texts with
  | nil => simp [joined, IsPlain]
  | cons first rest ih =>
      cases rest with
      | nil => simp [joined, IsPlain]
      | cons second others =>
          have apart : joined separator (first :: second :: others) =
              first ++ (separator ++ joined separator (second :: others)) := by
            change mk _ = mk (first.points ++ (separator.points ++ _))
            simp [joined, List.intercalate]
          rw [apart, plain_append, plain_append, ih, List.forall_mem_cons (l := second :: others)]
          simp only [separated, true_and]

/-- UTF-8 has bytes for a text just where the text is plain. -/
theorem no_refusal_iff_plain (text : Text) :
    Charset.utf8.refusal? text = none ↔ text.IsPlain := by
  obtain ⟨points⟩ := text
  have parts := List.takeWhile_append_dropWhile (p := Charset.utf8.holds) (l := points)
  have behind : (points.takeWhile Charset.utf8.holds ++ points.dropWhile Charset.utf8.holds).drop
      (points.takeWhile Charset.utf8.holds).length = points.dropWhile Charset.utf8.holds :=
    List.drop_left
  rw [parts] at behind
  have head := List.head?_dropWhile_not Charset.utf8.holds points
  simp only [Charset.refusal?, IsPlain, behind, Option.map_eq_none_iff, List.head?_eq_none_iff]
  cases rest : points.dropWhile Charset.utf8.holds with
  | nil =>
      rw [rest, List.append_nil] at parts
      refine iff_of_true rfl fun point member => ?_
      rw [← parts] at member
      exact List.all_eq_true.mp List.all_takeWhile point member
  | cons first others =>
      rw [rest, List.head?_cons] at head
      have notHeld : Charset.utf8.holds first = false := head
      have isInside : first ∈ points := by
        rw [← parts, rest]
        simp
      refine iff_of_false ?_ fun plain => ?_
      · simp [notHeld]
      · rw [plain first isInside] at notHeld
        cases notHeld

end Text

namespace Json

/-- The value is written without surrogates. -/
def IsPlain (value : Json) : Prop :=
  value.compact.IsPlain

theorem plain_compact_point (point : CodePoint) :
    (Text.mk (compactPoint point)).IsPlain ↔ Charset.utf8.holds point = true := by
  cases point with
  | char c =>
      simp only [compactPoint]
      split <;> simp [Text.IsPlain, Charset.holds]
  | surrogate index => simp [compactPoint, Text.IsPlain, Charset.holds]

@[simp] theorem plain_compact_string (text : Text) :
    (compactString text).IsPlain ↔ text.IsPlain := by
  have inside : (Text.mk (text.points.flatMap compactPoint)).IsPlain ↔ text.IsPlain := by
    simp only [Text.IsPlain, List.mem_flatMap]
    constructor
    · intro plain point member
      refine (plain_compact_point point).mp fun written isWritten => ?_
      exact plain written ⟨point, member, isWritten⟩
    · rintro plain written ⟨point, member, isWritten⟩
      exact (plain_compact_point point).mpr (plain point member) written isWritten
  rw [compactString, Text.plain_append, Text.plain_append, inside]
  simp only [Text.plain_of_string, true_and, and_true]

@[simp] theorem plain_null : null.IsPlain :=
  Text.plain_of_string _

@[simp] theorem plain_int (value : Int) : (int value).IsPlain :=
  Text.plain_of_string _

@[simp] theorem plain_nat (value : Nat) : (nat value).IsPlain :=
  plain_int value

@[simp] theorem plain_str (text : Text) : (str text).IsPlain ↔ text.IsPlain :=
  plain_compact_string text

@[simp] theorem plain_string (value : String) : (string value).IsPlain :=
  (plain_str _).mpr (Text.plain_of_string value)

theorem compact_items_eq_map (items : List Json) : compactItems items = items.map compact := by
  induction items with
  | nil => rfl
  | cons item rest ih => rw [compactItems, ih, List.map_cons]

theorem compact_members_eq_map (members : Members) :
    compactMembers members =
      members.map fun member => compactString member.1 ++ ":" ++ compact member.2 := by
  induction members with
  | nil => rfl
  | cons member rest ih => rw [compactMembers, ih, List.map_cons]

@[simp] theorem plain_arr (items : List Json) :
    (arr items).IsPlain ↔ ∀ item ∈ items, item.IsPlain := by
  rw [IsPlain, compact, Text.plain_append, Text.plain_append, compact_items_eq_map,
    Text.plain_joined (Text.plain_of_string _)]
  simp only [Text.plain_of_string, true_and, and_true, List.forall_mem_map]
  rfl

@[simp] theorem plain_obj (members : Members) :
    (obj members).IsPlain ↔ ∀ member ∈ members, member.1.IsPlain ∧ member.2.IsPlain := by
  rw [IsPlain, compact, Text.plain_append, Text.plain_append, compact_members_eq_map,
    Text.plain_joined (Text.plain_of_string _)]
  simp only [Text.plain_append, Text.plain_of_string, plain_compact_string, true_and, and_true,
    List.forall_mem_map]
  rfl

def IsFinite (value : Json) : Prop :=
  value.hasNonFinite = false

@[simp] theorem finite_null : null.IsFinite :=
  rfl

@[simp] theorem finite_int (value : Int) : (int value).IsFinite :=
  rfl

@[simp] theorem finite_nat (value : Nat) : (nat value).IsFinite :=
  rfl

@[simp] theorem finite_str (text : Text) : (str text).IsFinite :=
  rfl

@[simp] theorem finite_string (value : String) : (string value).IsFinite :=
  rfl

@[simp] theorem finite_arr (items : List Json) :
    (arr items).IsFinite ↔ ∀ item ∈ items, item.IsFinite := by
  simp only [IsFinite, hasNonFinite]
  induction items with
  | nil => simp [hasNonFiniteItem]
  | cons item rest ih => rw [hasNonFiniteItem, Bool.or_eq_false_iff, ih, List.forall_mem_cons]

@[simp] theorem finite_obj (members : Members) :
    (obj members).IsFinite ↔ ∀ member ∈ members, member.2.IsFinite := by
  simp only [IsFinite, hasNonFinite]
  induction members with
  | nil => simp [hasNonFiniteMember]
  | cons member rest ih => rw [hasNonFiniteMember, Bool.or_eq_false_iff, ih, List.forall_mem_cons]

end Json

theorem Event.Tells.plain {event : Event} {diagnostic : Diagnostic}
    (tells : event.Tells diagnostic) :
    diagnostic.targetId.IsPlain ∧ diagnostic.message.IsPlain := by
  cases tells with
  | missing target message => exact ⟨Text.plain_of_string _, Text.plain_of_string _⟩
  | refused change target refusal isChange =>
      refine ⟨Text.plain_of_string _, ?_⟩
      simp only [Rule.moveRejected, Text.plain_append, Text.plain_of_string, and_self]
  | unresolved messageId proposalId resolution isList =>
      exact ⟨Text.plain_of_string _, Text.plain_of_string _⟩

theorem Diagnostic.plain_json {diagnostic : Diagnostic} (target : diagnostic.targetId.IsPlain)
    (message : diagnostic.message.IsPlain) : diagnostic.toJson.IsPlain := by
  simp [Diagnostic.toJson, target, message]

theorem Diagnostic.finite_json (diagnostic : Diagnostic) : diagnostic.toJson.IsFinite := by
  simp [Diagnostic.toJson]

namespace Complaint

theorem plain_step (step : PathStep) : step.toJson.IsPlain := by
  cases step <;> simp [PathStep.toJson]

theorem finite_step (step : PathStep) : step.toJson.IsFinite := by
  cases step <;> simp [PathStep.toJson]

/-- Complaints are told without what was found, in strings and numbers only. -/
theorem plain_list_json (complaints : List Complaint) : (listJson complaints).IsPlain := by
  simp [listJson, toJson, plain_step]

theorem finite_list_json (complaints : List Complaint) : (listJson complaints).IsFinite := by
  simp [listJson, toJson, finite_step]

end Complaint

namespace Http

theorem Ingest.plain_results (index : Nat) (applied : List Applied) :
    ∀ result ∈ resultsFrom index applied, result.IsPlain ∧ result.IsFinite := by
  induction applied generalizing index with
  | nil => simp [resultsFrom]
  | cons first rest ih =>
      refine List.forall_mem_cons.mpr ⟨?_, ih (index + 1)⟩
      simp [Json.word]

/-- What is told of a batch that was applied as a whole is plain if its diagnostics are. -/
theorem Ingest.plain_summary (ingest : Ingest) {diagnostics : List Diagnostic}
    (plain : ∀ diagnostic ∈ diagnostics,
      diagnostic.targetId.IsPlain ∧ diagnostic.message.IsPlain) :
    (ingest.summary diagnostics).IsPlain := by
  have last : (Json.ofOption Json.nat
      (ingest.applied.getLast?.map fun applied => applied.event.blockNumber)).IsPlain := by
    cases ingest.applied.getLast? <;> simp [Json.ofOption]
  have told : ∀ diagnostic ∈ diagnostics, diagnostic.toJson.IsPlain := fun diagnostic member =>
    Diagnostic.plain_json (plain diagnostic member).1 (plain diagnostic member).2
  have results : ∀ result ∈ resultsFrom 0 ingest.applied, result.IsPlain := fun result member =>
    (plain_results 0 ingest.applied result member).1
  simp only [summary, Json.plain_obj, Json.plain_arr, Json.plain_nat, Text.plain_of_string,
    List.forall_mem_cons, List.forall_mem_map, List.not_mem_nil, false_implies, implies_true,
    true_and, and_true]
  exact ⟨results, told, last⟩

theorem Ingest.finite_summary (ingest : Ingest) (diagnostics : List Diagnostic) :
    (ingest.summary diagnostics).IsFinite := by
  have last : (Json.ofOption Json.nat
      (ingest.applied.getLast?.map fun applied => applied.event.blockNumber)).IsFinite := by
    cases ingest.applied.getLast? <;> simp [Json.ofOption]
  have results : ∀ result ∈ resultsFrom 0 ingest.applied, result.IsFinite := fun result member =>
    (plain_results 0 ingest.applied result member).2
  simp only [summary, Json.finite_obj, Json.finite_arr, Json.finite_nat, List.forall_mem_cons,
    List.forall_mem_map, List.not_mem_nil, false_implies, implies_true, true_and, and_true]
  exact ⟨results, fun diagnostic _ => diagnostic.finite_json, last⟩

/-- What is told of a malformed event is plain just where its message is. -/
theorem Ingest.plain_refusal (ingest : Ingest) (problem : MalformedEvent) :
    (ingest.refusal problem).IsPlain ↔ problem.message.IsPlain := by
  simp [refusal, Complaint.plain_list_json]

theorem Ingest.finite_refusal (ingest : Ingest) (problem : MalformedEvent) :
    (ingest.refusal problem).IsFinite := by
  simp [refusal, Complaint.finite_list_json]

namespace Response

variable {response : Response}

theorem sent_of_plain (finite : response.body.IsFinite) (plain : response.body.IsPlain) :
    response.sent = .ok response := by
  have accepted := (Text.no_refusal_iff_plain response.body.compact).mpr plain
  rw [sent, finite, accepted]
  rfl

theorem sent_of_not_plain (finite : response.body.IsFinite) (notPlain : ¬response.body.IsPlain) :
    ∃ cause, response.sent = .error (.unencodable cause) := by
  have refused := mt (Text.no_refusal_iff_plain response.body.compact).mp notPlain
  obtain ⟨cause, isCause⟩ := Option.ne_none_iff_exists'.mp refused
  refine ⟨cause, ?_⟩
  rw [sent, finite, isCause]
  rfl

end Response

end Http

/-- The object shows a kind that is a text with a surrogate. -/
def Json.ShowsSurrogate (value : Json) : Prop :=
  ∃ members kind, value = .obj members ∧ Json.lookup "kind" members = some (.str kind) ∧
    ¬kind.IsPlain

/-- The message of a malformed event repeats its kind, and is plain unless this is a text with a
surrogate. -/
theorem plain_message_iff {bad : Json} {problem : MalformedEvent}
    (malformed : Event.parse bad = .error problem) :
    problem.message.IsPlain ↔ ¬bad.ShowsSurrogate := by
  unfold Event.parse at malformed
  split at malformed
  · rename_i members
    split at malformed
    · cases malformed
    · rename_i complaints _
      obtain rfl := Except.error.inj malformed
      have shown : (MalformedEvent.invalid (Event.shownKind members) complaints).message.IsPlain ↔
          (Event.shownKind members).IsPlain := by
        simp [MalformedEvent.message]
      rw [shown, Event.shownKind]
      cases tagged : Json.lookup "kind" members with
      | none =>
          refine iff_of_true (Text.plain_of_string _) ?_
          rintro ⟨others, kind, isObject, isKind, -⟩
          obtain rfl := Json.obj.inj isObject
          rw [tagged] at isKind
          cases isKind
      | some tag =>
          have shows : (Json.obj members).ShowsSurrogate ↔
              ∃ kind, tag = .str kind ∧ ¬kind.IsPlain := by
            constructor
            · rintro ⟨others, kind, isObject, isKind, notPlain⟩
              obtain rfl := Json.obj.inj isObject
              exact ⟨kind, Option.some.inj (tagged.symm.trans isKind), notPlain⟩
            · rintro ⟨kind, rfl, notPlain⟩
              exact ⟨members, kind, rfl, tagged, notPlain⟩
          rw [shows]
          cases tag with
          | str kind => simp [Json.display]
          | null | bool | int | float | arr | obj => simp [Json.display]
  · rename_i notObject
    obtain rfl := Except.error.inj malformed
    refine iff_of_true (Text.plain_of_string _) ?_
    rintro ⟨members, kind, isObject, -⟩
    exact notObject members isObject

end BridgeState
