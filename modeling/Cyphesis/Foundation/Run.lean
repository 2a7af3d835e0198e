import Mathlib.Logic.Basic

/-!
# Runs of total transition functions

A component whose operations are total functions is run by folding a list of actions.
-/

namespace Cyphesis.Foundation

open List

universe u v

variable {σ : Type u} {α : Type v}

/-- State after all actions. -/
def run (step : σ → α → σ) (state : σ) (actions : List α) : σ :=
  actions.foldl step state

section

variable (step : σ → α → σ) (state : σ)

@[simp]
theorem run_nil : run step state [] = state :=
  rfl

@[simp]
theorem run_cons (action : α) (rest : List α) :
    run step state (action :: rest) = run step (step state action) rest :=
  rfl

theorem run_append (first second : List α) :
    run step state (first ++ second) = run step (run step state first) second :=
  foldl_append

end

/-- `guard` holds whenever one is taken. -/
def Admissible (step : σ → α → σ) (guard : σ → α → Prop) : σ → List α → Prop
  | _, [] => True
  | state, action :: rest =>
    guard state action ∧ Admissible step guard (step state action) rest

section

variable (step : σ → α → σ) (guard : σ → α → Prop) (state : σ)

include step guard state

@[simp]
theorem admissible_nil : Admissible step guard state [] :=
  trivial

@[simp]
theorem admissible_cons (action : α) (rest : List α) :
    Admissible step guard state (action :: rest) ↔
      guard state action ∧ Admissible step guard (step state action) rest :=
  Iff.rfl

theorem admissible_append (first second : List α) :
    Admissible step guard state (first ++ second) ↔
      Admissible step guard state first ∧ Admissible step guard (run step state first) second := by
  induction first generalizing state with
  | nil => simp
  | cons action rest ih =>
    rw [cons_append, admissible_cons, admissible_cons, run_cons, ih, and_assoc]

end

section

variable {step : σ → α → σ} {state : σ} {actions : List α}

theorem admissible_iff_getElem? {guard : σ → α → Prop} :
    Admissible step guard state actions ↔
      ∀ count action, actions[count]? = some action →
        guard (run step state (actions.take count)) action := by
  induction actions generalizing state with
  | nil => simp
  | cons action rest ih =>
    rw [admissible_cons, ih]
    constructor
    · rintro ⟨meets, later⟩ count other isOther
      cases count with
      | zero =>
        obtain rfl : action = other := by simpa using isOther
        exact meets
      | succ count => exact later count other (by simpa using isOther)
    · intro all
      exact ⟨all 0 action rfl, fun count other isOther =>
        all (count + 1) other (by simpa using isOther)⟩

instance decidableAdmissible (step : σ → α → σ) (guard : σ → α → Prop)
    [∀ state action, Decidable (guard state action)] :
    ∀ (state : σ) (actions : List α), Decidable (Admissible step guard state actions)
  | _, [] => isTrue trivial
  | state, action :: rest =>
    @instDecidableAnd _ _ _ (decidableAdmissible step guard (step state action) rest)

theorem Admissible.imp {guard weaker : σ → α → Prop}
    (admissible : Admissible step guard state actions)
    (implies : ∀ state action, guard state action → weaker state action) :
    Admissible step weaker state actions := by
  induction actions generalizing state with
  | nil => trivial
  | cons action rest ih => exact ⟨implies state action admissible.1, ih admissible.2⟩

end

section

variable {step : σ → α → σ} {state : σ} (inv : σ → Prop)

include inv

theorem run_invariant {guard : σ → α → Prop}
    (preserved : ∀ state action, inv state → guard state action → inv (step state action))
    {actions : List α} (start : inv state) (admissible : Admissible step guard state actions) :
    inv (run step state actions) := by
  induction actions generalizing state with
  | nil => exact start
  | cons action rest ih =>
    exact ih (preserved state action start admissible.1) admissible.2

theorem run_invariant_of_step (preserved : ∀ state action, inv state → inv (step state action))
    (start : inv state) (actions : List α) :
    inv (run step state actions) := by
  induction actions generalizing state with
  | nil => exact start
  | cons action rest ih => exact ih (preserved state action start)

theorem run_invariant_of_mem (actions : List α)
    (preserved : ∀ state, ∀ action ∈ actions, inv state → inv (step state action))
    (start : inv state) : inv (run step state actions) := by
  induction actions generalizing state with
  | nil => exact start
  | cons action rest ih =>
    apply ih
    · intro state later isRest
      exact preserved state later (mem_cons_of_mem action isRest)
    · exact preserved state action mem_cons_self start

end

section

variable {step : σ → α → σ} {guard : σ → α → Prop} {state : σ}

/-- It holds throughout just if the run is admissible. -/
theorem run_take_iff_of_good (inv good : σ → Prop)
    (keeps : ∀ state action, good state → inv state → good (step state action))
    (exact : ∀ state action, good state → inv state →
      (inv (step state action) ↔ guard state action)) (sound : good state) (start : inv state)
        (actions : List α) :
    (∀ count, inv (run step state (actions.take count))) ↔ Admissible step guard state actions := by
  induction actions generalizing state with
  | nil => simp [start]
  | cons action rest ih =>
    rw [admissible_cons]
    have soundNext := keeps state action sound start
    constructor
    · intro always
      have next : inv (step state action) := by simpa using always 1
      refine ⟨(exact state action sound start).mp next, (ih soundNext next).mp fun count => ?_⟩
      simpa using always (count + 1)
    · rintro ⟨meets, later⟩ count
      have next := (exact state action sound start).mpr meets
      cases count with
      | zero => simpa using start
      | succ count => simpa using (ih soundNext next).mpr later count

theorem run_take_iff (inv : σ → Prop)
    (exact : ∀ state action, inv state → (inv (step state action) ↔ guard state action))
    (start : inv state) (actions : List α) :
    (∀ count, inv (run step state (actions.take count))) ↔ Admissible step guard state actions :=
  run_take_iff_of_good inv (fun _ => True) (fun _ _ _ _ => trivial)
    (fun state action _ holds => exact state action holds) trivial start actions

end

section

variable {τ : Type u} {step : σ → α → σ} {abstractStep : τ → α → τ} (related : σ → τ → Prop)
  {state : σ} {abstract : τ} {actions : List α}

theorem run_simulation
    {guard : α → Prop}
    (preserved : ∀ state abstract action, related state abstract → guard action →
      related (step state action) (abstractStep abstract action)) (start : related state abstract)
    (guarded : ∀ action ∈ actions, guard action) :
    related (run step state actions) (run abstractStep abstract actions) := by
  induction actions generalizing state abstract with
  | nil => exact start
  | cons action rest ih =>
    refine ih (preserved state abstract action start (guarded action ?_)) ?_
    · exact mem_cons_self
    · intro later member
      exact guarded later (mem_cons_of_mem action member)

end

/-- Small steps of the steps. -/
def smallSteps {β : Type v} (step : σ → α → σ) (small : σ → α → List β) : σ → List α → List β
  | _, [] => []
  | state, action :: rest => small state action ++ smallSteps step small (step state action) rest

theorem run_smallSteps {β : Type v} {step : σ → α → σ} {small : σ → α → List β} {inner : σ → β → σ}
    (refines : ∀ state action, run inner state (small state action) = step state action)
    (state : σ) (actions : List α) :
    run inner state (smallSteps step small state actions) = run step state actions := by
  induction actions generalizing state with
  | nil => rfl
  | cons action rest ih =>
    rw [smallSteps, run_append, refines, ih, run_cons]

end Cyphesis.Foundation
