import BridgeState.Proofs.History

/-!
# Limits and their snapshots

The ten present limits are those of the event that set limits last. A snapshot is that of the event
that set limits last among those whose block has the id of the snapshot, and setting limits again is
told to be unchanged where this event set the same. So the present limits and the snapshot that they
name never disagree, even if two blocks should have one id.
-/

namespace BridgeState

set_option autoImplicit false

structure LimitSetting where
  blockNumber : Nat
  values : LimitValues
deriving Repr, DecidableEq

def Event.limitSetting? (event : Event) : Option LimitSetting :=
  match event.body with
  | .limits values => some ⟨event.blockNumber, values⟩
  | _ => none

def LimitSetting.row (kind : LimitKind) (setting : LimitSetting) : Limit :=
  Rule.presentLimit setting.blockNumber setting.values kind

def LimitSetting.snapshot (setting : LimitSetting) : LimitMessage :=
  Rule.limitSnapshot setting.blockNumber setting.values

def Event.snapshot? (id : Text) (event : Event) : Option LimitMessage :=
  (event.limitSetting?.map LimitSetting.snapshot).filter fun snapshot => snapshot.id = id

def LimitValues.each (value : Nat) : LimitValues :=
  ⟨value, value, value, value, value, value, value, value, value, value⟩

theorem LimitValues.ext_get {one other : LimitValues}
    (same : ∀ kind, one.get kind = other.get kind) : one = other := by
  have whole (values : LimitValues) : values =
      ⟨values.get .minHostTransactionValue, values.get .maxHostTransactionValue,
        values.get .dayHostMaxLimit, values.get .dayHostMaxLimitForOneAddress,
        values.get .maxHostPendingTransactionLimit, values.get .minGuestTransactionValue,
        values.get .maxGuestTransactionValue, values.get .dayGuestMaxLimit,
        values.get .dayGuestMaxLimitForOneAddress, values.get .maxGuestPendingTransactionLimit⟩ :=
    rfl
  rw [whole one, whole other]
  simp only [same]

theorem LimitSetting.ext_row {one other : LimitSetting}
    (same : ∀ kind, one.row kind = other.row kind) : one = other := by
  have sameBlock : one.blockNumber = other.blockNumber :=
    congrArg Limit.blockNumber (same .minHostTransactionValue)
  have sameValues : one.values = other.values :=
    LimitValues.ext_get fun kind => congrArg Limit.value (same kind)
  obtain ⟨oneBlock, oneValues⟩ := one
  simp only at sameBlock sameValues
  rw [sameBlock, sameValues]

theorem load_limit_apply (event : Event) (store : Store) (kind : LimitKind) :
    (event.apply store).store.load .limits (Named.name kind : String) =
      (event.limitSetting?.map (LimitSetting.row kind)).or
        (store.load .limits (Named.name kind : String)) := by
  obtain ⟨blockNumber, body⟩ := event
  cases body with
  | limits values =>
      refine row_at_apply_mem ⟨blockNumber, .limits values⟩ store
        (.last .limits (Rule.presentLimit blockNumber values kind)) ?_
      exact List.mem_cons_of_mem _ (List.mem_map.mpr ⟨kind, LimitKind.mem_all kind, rfl⟩)
  | _ => exact load_apply_untouched _ store _ _ (by simp [EventBody.touched])

theorem effects_on_snapshots (event : Event) (store : Store) :
    event.effectsOn .limitMessages store =
      ((event.limitSetting?.map LimitSetting.snapshot).map (Effect.last .limitMessages)).toList := by
  obtain ⟨blockNumber, body⟩ := event
  cases body with
  | limits values => rfl
  | _ => exact effects_on_untouched _ store _ (by simp [EventBody.touched])

/-- Setting limits is told to be unchanged where the snapshot is the same. -/
theorem limits_unchanged_of_snapshot (setting : LimitSetting) (store : Store)
    (same : store.load .limitMessages setting.snapshot.id = some setting.snapshot) :
    (Event.apply ⟨setting.blockNumber, .limits setting.values⟩ store).value = .unchanged := by
  refine (Rule.limits_does setting.blockNumber setting.values store).value_run.trans ?_
  change Outcome.ofReplaced (store.load .limitMessages setting.snapshot.id) setting.snapshot = _
  rw [same]
  exact if_pos rfl

namespace History

def lastSetting (events : List Event) : Option LimitSetting :=
  (events.filterMap Event.limitSetting?).getLast?

theorem load_limit (events : List Event) (kind : LimitKind) :
    (store events).load .limits (Named.name kind : String) =
      (lastSetting events).map (LimitSetting.row kind) := by
  rw [load_last_write (fun event => event.limitSetting?.map (LimitSetting.row kind))
    (fun event store => load_limit_apply event store kind), lastSetting, ← List.getLast?_map,
    List.map_filterMap]

theorem load_snapshot (events : List Event) (id : Text) :
    (store events).load .limitMessages id = (events.filterMap (Event.snapshot? id)).getLast? :=
  load_eq_last_built effects_on_snapshots events id

/-- The limits of all kinds are those of a setting if and only if it is the last one. -/
theorem load_limits_iff (events : List Event) (setting : LimitSetting) :
    (∀ kind, (store events).load .limits (Named.name kind : String) = some (setting.row kind)) ↔
      lastSetting events = some setting := by
  constructor
  · intro stored
    have rows (kind : LimitKind) :
        (lastSetting events).map (LimitSetting.row kind) = some (setting.row kind) :=
      (load_limit events kind).symm.trans (stored kind)
    cases last : lastSetting events with
    | none => simpa [last] using rows .minHostTransactionValue
    | some other =>
        exact congrArg some (LimitSetting.ext_row fun kind => by simpa [last] using rows kind)
  · intro last kind
    rw [load_limit, last]
    rfl

theorem snapshots_of_settings (events : List Event) (id : Text) :
    events.filterMap (Event.snapshot? id) =
      ((events.filterMap Event.limitSetting?).map LimitSetting.snapshot).filter
        fun snapshot => snapshot.id = id := by
  rw [List.map_filterMap, List.filter_filterMap]
  rfl

end History

namespace History

end History

end BridgeState
