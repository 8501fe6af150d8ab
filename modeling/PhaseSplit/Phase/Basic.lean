import PhaseSplit.Text.Glyph

/-!
# Phases

A run of samples has two phases: the warmup, and the measurement that follows it.

* `Phase` — the two phases, with their names;
* `PerPhase` — one value for each phase.
-/

namespace PhaseSplit

/-- A phase of a run. -/
inductive Phase
  | warmup
  | measurement
  deriving DecidableEq

namespace Phase

/-- The phases in the order of a run. -/
def all : List Phase := [warmup, measurement]

/-- The name of a phase. -/
def name : Phase → Text
  | warmup => Text.lit "warmup"
  | measurement => Text.lit "measurement"

/-- The phase with this name. -/
def ofName? (t : Text) : Option Phase := all.find? (·.name = t)

end Phase

/-- One value for each phase. -/
structure PerPhase (α : Type) where
  warmup : α
  measurement : α
  deriving DecidableEq

namespace PerPhase

variable {α β : Type}

/-- The same value for both phases. -/
def const (a : α) : PerPhase α := ⟨a, a⟩

/-- The value of a phase. -/
def get (p : PerPhase α) : Phase → α
  | .warmup => p.warmup
  | .measurement => p.measurement

/-- The values with that of one phase changed. -/
def modify (p : PerPhase α) (phase : Phase) (f : α → α) : PerPhase α :=
  match phase with
  | .warmup => { p with warmup := f p.warmup }
  | .measurement => { p with measurement := f p.measurement }

/-- A function applied to both values. -/
def map (f : α → β) (p : PerPhase α) : PerPhase β := ⟨f p.warmup, f p.measurement⟩

@[simp] theorem get_const (a : α) (phase : Phase) : (const a).get phase = a := by
  cases phase <;> rfl

@[simp] theorem get_map (f : α → β) (p : PerPhase α) (phase : Phase) :
    (p.map f).get phase = f (p.get phase) := by
  cases phase <;> rfl

@[simp] theorem get_modify_self (p : PerPhase α) (phase : Phase) (f : α → α) :
    (p.modify phase f).get phase = f (p.get phase) := by
  cases phase <;> rfl

theorem get_modify_of_ne (p : PerPhase α) {phase other : Phase} (h : other ≠ phase) (f : α → α) :
    (p.modify phase f).get other = p.get other := by
  cases phase <;> cases other <;> first | rfl | exact absurd rfl h

theorem get_modify (p : PerPhase α) (phase other : Phase) (f : α → α) :
    (p.modify phase f).get other = if other = phase then f (p.get other) else p.get other := by
  cases phase <;> cases other <;> rfl

end PerPhase

end PhaseSplit
