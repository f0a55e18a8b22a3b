import BridgeState.Schema.Fault

/-!
# Checked values

A `Checked` value is a value, or every complaint about what should have been one. Combining two
checks keeps the complaints of both in order; the result is valid exactly when both are.
-/

namespace BridgeState

set_option autoImplicit false

inductive Checked (α : Type) where
  | valid (value : α)
  | invalid (complaints : List Complaint)

namespace Checked

def map {α β : Type} (f : α → β) : Checked α → Checked β
  | .valid value => .valid (f value)
  | .invalid complaints => .invalid complaints

/-- Both checks, the complaints of the first before those of the second. -/
def ap {α β : Type} (f : Checked (α → β)) (x : Checked α) : Checked β :=
  match f, x with
  | .valid f, .valid x => .valid (f x)
  | .valid _, .invalid complaints => .invalid complaints
  | .invalid complaints, .valid _ => .invalid complaints
  | .invalid first, .invalid second => .invalid (first ++ second)

instance : Functor Checked where
  map := map

instance : Pure Checked where
  pure := .valid

instance : Seq Checked where
  seq f x := ap f (x ())

def fail {α : Type} (fault : Fault) (value : Json) : Checked α :=
  .invalid [⟨[], fault, .plain value⟩]

def andThen {α β : Type} (x : Checked α) (check : α → Checked β) : Checked β :=
  match x with
  | .valid value => check value
  | .invalid complaints => .invalid complaints

def under {α : Type} (step : PathStep) : Checked α → Checked α
  | .valid value => .valid value
  | .invalid complaints => .invalid (complaints.map (Complaint.under step))

def complaints {α : Type} : Checked α → List Complaint
  | .valid _ => []
  | .invalid complaints => complaints

@[simp] theorem map_valid {α β : Type} (f : α → β) (value : α) :
    f <$> (valid value) = valid (f value) := rfl

@[simp] theorem seq_valid {α β : Type} (f : α → β) (value : α) :
    valid f <*> valid value = valid (f value) := rfl

@[simp] theorem under_valid {α : Type} (step : PathStep) (value : α) :
    under step (valid value) = valid value := rfl

theorem seq_eq_valid_iff {α β : Type} (f : Checked (α → β)) (x : Checked α) (result : β) :
    f <*> x = valid result ↔ ∃ g value, f = valid g ∧ x = valid value ∧ g value = result := by
  constructor
  · intro same
    change ap f x = valid result at same
    cases f <;> cases x <;> simp_all [ap]
  · rintro ⟨g, value, rfl, rfl, rfl⟩
    rfl

theorem map_eq_valid_iff {α β : Type} (f : α → β) (x : Checked α) (result : β) :
    f <$> x = valid result ↔ ∃ value, x = valid value ∧ f value = result := by
  cases x with
  | valid value => exact ⟨fun same => ⟨value, rfl, valid.inj same⟩, by rintro ⟨_, ⟨⟩, rfl⟩; rfl⟩
  | invalid complaints => exact ⟨nofun, by rintro ⟨_, ⟨⟩, _⟩⟩

theorem under_eq_valid_iff {α : Type} (step : PathStep) (x : Checked α) (value : α) :
    x.under step = valid value ↔ x = valid value := by
  cases x with
  | valid value => exact Iff.rfl
  | invalid complaints => exact ⟨nofun, nofun⟩

end Checked

end BridgeState
