import Cyphesis.Foundation.Multimap
import Cyphesis.Foundation.Run
import Cyphesis.Simulation.Usages

/-!
# Delegates

An operation goes to the scripts of an entity, the delegates for its class, the listeners, and the
entity itself, until one blocks it. `removeDelegate` looks only at the first delegate of the class
that is left.
-/

namespace Cyphesis.Simulation

open Cyphesis.Foundation List

variable {ω ρ : Type}

/-- A handler, which may add to what is sent. -/
abbrev OperationHandler (ω ρ : Type) :=
  ω → List ρ → HandlerResult × List ρ

/-- What operations of an `Entity` go through. -/
structure DelegatingEntity (ω ρ : Type) where
  delegates : Multimap Int String
  scripts : List (OperationHandler ω ρ)
  properties : String → Option (OperationHandler ω ρ)
  typeDefaults : String → Option (OperationHandler ω ρ)
  listeners : List (OperationHandler ω ρ)
  callOperation : ω → List ρ → List ρ

/-- Delegates, the result, and what is sent. -/
structure OperationCalls (ρ : Type) where
  delegates : List String
  hr : HandlerResult
  res : List ρ

/-- The calls that enter and remove delegates. -/
inductive DelegateCall where
  | install (classNo : Int) (delegate : String)
  | remove (classNo : Int) (delegate : String)
  deriving DecidableEq

namespace DelegatingEntity

def installDelegate (entity : DelegatingEntity ω ρ) (classNo : Int) (delegate : String) :
    DelegatingEntity ω ρ :=
  { entity with delegates := entity.delegates.emplace classNo delegate }

def removeDelegate (entity : DelegatingEntity ω ρ) (classNo : Int) (delegate : String) :
    DelegatingEntity ω ρ :=
  if entity.delegates.find? classNo = some delegate then
    { entity with delegates := entity.delegates.eraseFirst classNo }
  else entity

def step (entity : DelegatingEntity ω ρ) : DelegateCall → DelegatingEntity ω ρ
  | .install classNo delegate => entity.installDelegate classNo delegate
  | .remove classNo delegate => entity.removeDelegate classNo delegate

/-- Before anything is installed. -/
def created (entity : DelegatingEntity ω ρ) : DelegatingEntity ω ρ :=
  { entity with delegates := .empty }

/-- The scripts, until one blocks. -/
def callScripts (op : ω) : List (OperationHandler ω ρ) → HandlerResult → List ρ →
    HandlerResult × List ρ
  | [], hr, res => (hr, res)
  | script :: rest, hr, res =>
    let called := script op res
    if called.1 = .operationBlocked then called
    else
      callScripts op rest (if called.1 = .operationIgnored then hr else called.1) called.2

/-- Most blocking of two results. -/
def record (hr called : HandlerResult) : HandlerResult :=
  if hr = .operationBlocked then hr
  else if called = .operationIgnored then hr
  else called

def callDelegate (entity : DelegatingEntity ω ρ) (name : String) (op : ω) (res : List ρ) :
    HandlerResult × List ρ :=
  match (entity.properties name).or (entity.typeDefaults name) with
  | some property => property op res
  | none => (.operationIgnored, res)

/-- One turn of the loop over the delegates. -/
def delegateTo (entity : DelegatingEntity ω ρ) (op : ω) (calls : OperationCalls ρ)
    (name : String) : OperationCalls ρ :=
  let called := entity.callDelegate name op calls.res
  { delegates := calls.delegates ++ [name], hr := record calls.hr called.1, res := called.2 }

/-- One turn of the loop over the listeners. -/
def listen (op : ω) (calls : OperationCalls ρ) (listener : OperationHandler ω ρ) :
    OperationCalls ρ :=
  let called := listener op calls.res
  { calls with hr := record calls.hr called.1, res := called.2 }

/-- `LocatedEntity::operation`: scripts, delegates, listeners, and the handler of the class. -/
def operation (entity : DelegatingEntity ω ρ) (classNo : Int) (isPerception : Bool) (op : ω)
    (res : List ρ) : OperationCalls ρ :=
  let scripted :=
    if isPerception then (.operationIgnored, res)
    else callScripts op entity.scripts .operationIgnored res
  if scripted.1 = .operationBlocked then
    { delegates := [], hr := scripted.1, res := scripted.2 }
  else
    let delegated := (entity.delegates.equalRange classNo).foldl (entity.delegateTo op)
      { delegates := [], hr := scripted.1, res := scripted.2 }
    if delegated.hr = .operationBlocked then delegated
    else
      let heard := entity.listeners.foldl (listen op) delegated
      if heard.hr = .operationBlocked then heard
      else { heard with res := entity.callOperation op heard.res }

theorem delegates_foldl_delegateTo (entity : DelegatingEntity ω ρ) (op : ω) (names : List String)
    (calls : OperationCalls ρ) :
    (names.foldl (entity.delegateTo op) calls).delegates = calls.delegates ++ names := by
  induction names generalizing calls with
  | nil => simp
  | cons name rest ih => simp [ih, delegateTo]

theorem delegates_foldl_listen (op : ω) (listeners : List (OperationHandler ω ρ))
    (calls : OperationCalls ρ) : (listeners.foldl (listen op) calls).delegates =
      calls.delegates := by
  induction listeners generalizing calls with
  | nil => rfl
  | cons listener rest ih => simp [ih, listen]

theorem mem_equalRange_of_called {entity : DelegatingEntity ω ρ} {classNo : Int}
    {isPerception : Bool} {op : ω} {res : List ρ} {name : String}
    (isCalled : name ∈ (entity.operation classNo isPerception op res).delegates) :
    name ∈ entity.delegates.equalRange classNo := by
  unfold operation at isCalled
  generalize (if isPerception = true then (HandlerResult.operationIgnored, res)
    else callScripts op entity.scripts .operationIgnored res) = scripted at isCalled
  dsimp only at isCalled
  split at isCalled
  · cases isCalled
  · split at isCalled
    · simpa [delegates_foldl_delegateTo] using isCalled
    · split at isCalled
      · simpa [delegates_foldl_listen, delegates_foldl_delegateTo] using isCalled
      · simpa [delegates_foldl_listen, delegates_foldl_delegateTo] using isCalled

/-- How often it is registered. -/
def registered (entity : DelegatingEntity ω ρ) (classNo : Int) (delegate : String) : Nat :=
  (entity.delegates.equalRange classNo).count delegate

/-- How many of the removals found the delegate. -/
def foundRemovals (classNo : Int) (delegate : String) :
    DelegatingEntity ω ρ → List DelegateCall → Nat
  | _, [] => 0
  | entity, call :: rest =>
    (if call = .remove classNo delegate ∧
        entity.delegates.find? classNo = some delegate then 1 else 0) +
      foundRemovals classNo delegate (entity.step call) rest

/-- Removed as often as installed, and never before. -/
def RemovedAsInstalled (calls : List DelegateCall) (classNo : Int) (delegate : String) : Prop :=
  calls.count (.remove classNo delegate) = calls.count (.install classNo delegate) ∧
    ∀ count, (calls.take count).count (.remove classNo delegate) ≤
      (calls.take count).count (.install classNo delegate)

/-- Delegates are a multiset in runs. -/
structure DelegatesCounted (entity : DelegatingEntity ω ρ) (calls : List DelegateCall) : Prop where
  counted : ∀ count classNo delegate,
    (run step entity (calls.take count)).registered classNo delegate =
      (calls.take count).count (.install classNo delegate) -
        foundRemovals classNo delegate entity (calls.take count)
  succeeds : ∀ count classNo delegate, calls[count]? = some (.remove classNo delegate) →
    (run step entity (calls.take count)).registered classNo delegate ≠ 0 →
      (run step entity (calls.take (count + 1))).registered classNo delegate + 1 =
        (run step entity (calls.take count)).registered classNo delegate
  silent : ∀ count classNo delegate, RemovedAsInstalled (calls.take count) classNo delegate →
    ∀ isPerception op res, delegate ∉
      ((run step entity (calls.take count)).operation classNo isPerception op res).delegates

/-- It is the first of its class that is left. -/
def RemovesFirst (entity : DelegatingEntity ω ρ) : DelegateCall → Prop
  | .install _ _ => True
  | .remove classNo delegate => entity.registered classNo delegate ≠ 0 →
      entity.delegates.find? classNo = some delegate

section

variable (entity : DelegatingEntity ω ρ)

include entity

variable (classNo other : Int) (delegate name : String)

theorem registered_installDelegate :
    (entity.installDelegate classNo delegate).registered other name =
      entity.registered other name +
        if DelegateCall.install classNo delegate = .install other name then 1 else 0 := by
  rw [registered, installDelegate, Multimap.equalRange_emplace, count_append, registered]
  by_cases sameClass : classNo = other
  · by_cases sameName : delegate = name
    · simp [sameClass, sameName]
    · simp [sameClass, sameName]
  · simp [sameClass]

theorem registered_removeDelegate :
    (entity.removeDelegate classNo delegate).registered other name +
        (if DelegateCall.remove classNo delegate = .remove other name ∧
          entity.delegates.find? other = some name then 1 else 0) =
      entity.registered other name := by
  rw [removeDelegate]
  by_cases sameClass : classNo = other
  · subst sameClass
    split
    · rename_i isFirst
      rw [registered, registered, Multimap.equalRange_eraseFirst, if_pos rfl]
      rw [Multimap.find?] at isFirst ⊢
      cases isRange : entity.delegates.equalRange classNo with
      | nil => simp [isRange] at isFirst
      | cons first rest =>
        rw [isRange] at isFirst
        obtain rfl := Option.some.inj isFirst
        by_cases sameName : first = name
        · simp [sameName]
        · simp [sameName]
    · rename_i notFirst
      have notFound : ¬ (DelegateCall.remove classNo delegate = .remove classNo name ∧
          entity.delegates.find? classNo = some name) := by
        rintro ⟨same, isFirst⟩
        obtain rfl := (DelegateCall.remove.inj same).2
        exact notFirst isFirst
      rw [if_neg notFound, Nat.add_zero]
  · have notSame : ¬ (DelegateCall.remove classNo delegate = .remove other name ∧
        entity.delegates.find? other = some name) :=
      fun same => sameClass (DelegateCall.remove.inj same.1).1
    rw [if_neg notSame, Nat.add_zero]
    split
    · rw [registered, registered, Multimap.equalRange_eraseFirst, if_neg sameClass]
    · rfl

theorem registered_run (calls : List DelegateCall) (classNo : Int) (delegate : String) :
    (run step entity calls).registered classNo delegate +
        foundRemovals classNo delegate entity calls =
      entity.registered classNo delegate + calls.count (.install classNo delegate) := by
  induction calls generalizing entity with
  | nil => rfl
  | cons call rest ih =>
    rw [run_cons, foundRemovals, List.count_cons]
    have later := ih (entity.step call)
    cases call with
    | install other name =>
      have here := entity.registered_installDelegate other classNo name delegate
      rw [step, here] at later
      simp only [reduceCtorEq, false_and, if_false, beq_iff_eq, Nat.zero_add]
      rw [step]
      omega
    | remove other name =>
      have here := entity.registered_removeDelegate other classNo name delegate
      rw [step] at later
      simp only [beq_iff_eq, reduceCtorEq, if_false]
      rw [step]
      omega

@[simp]
theorem registered_created : entity.created.registered classNo delegate = 0 :=
  rfl

end

/-- A delegate is registered as often as it was installed less the removals. -/
theorem registered_add_removals {entity : DelegatingEntity ω ρ} {calls : List DelegateCall}
    (removesFirst : Admissible step RemovesFirst entity.created calls) {classNo : Int}
    {delegate : String}
    (never : ∀ count, (calls.take count).count (.remove classNo delegate) ≤
      (calls.take count).count (.install classNo delegate)) :
    (run step entity.created calls).registered classNo delegate +
        calls.count (.remove classNo delegate) =
      calls.count (.install classNo delegate) := by
  induction calls using List.reverseRecOn with
  | nil => rfl
  | append_singleton calls call ih =>
    rcases (admissible_append ..).mp removesFirst with ⟨before, first, -⟩
    have neverBefore : ∀ count, (calls.take count).count (.remove classNo delegate) ≤
        (calls.take count).count (.install classNo delegate) := by
      intro count
      have taken := never (min count calls.length)
      rw [take_append_of_le_length (Nat.min_le_right ..)] at taken
      rcases Nat.le_total count calls.length with short | long
      · rwa [Nat.min_eq_left short] at taken
      · rw [Nat.min_eq_right long, take_length] at taken
        rwa [take_of_length_le long]
    have known := ih before neverBefore
    have last := never (calls.length + 1)
    rw [take_of_length_le (by simp)] at last
    rw [run_append, run_cons, run_nil, count_append, count_append, count_singleton, count_singleton]
    rw [count_append, count_append, count_singleton, count_singleton] at last
    cases call with
    | install other name =>
      rw [step, registered_installDelegate]
      simp only [beq_iff_eq, reduceCtorEq, if_false]
      omega
    | remove other name =>
      have here := (run step entity.created calls).registered_removeDelegate other classNo name
        delegate
      rw [step]
      simp only [beq_iff_eq, reduceCtorEq, if_false] at last ⊢
      by_cases same : DelegateCall.remove other name = .remove classNo delegate
      · obtain ⟨rfl, rfl⟩ := DelegateCall.remove.inj same
        rw [if_pos rfl] at last ⊢
        have isFirst := first (by omega)
        rw [if_pos ⟨rfl, isFirst⟩] at here
        omega
      · rw [if_neg same] at last ⊢
        rw [if_neg fun found => same found.1] at here
        omega

theorem removeDelegate_succeeds_iff (entity : DelegatingEntity ω ρ) {classNo : Int}
    {delegate : String} :
    (entity.removeDelegate classNo delegate).registered classNo delegate + 1 =
        entity.registered classNo delegate ↔
      entity.delegates.find? classNo = some delegate := by
  have here := entity.registered_removeDelegate classNo classNo delegate delegate
  by_cases isFirst : entity.delegates.find? classNo = some delegate
  · rw [if_pos ⟨rfl, isFirst⟩] at here
    exact iff_of_true here isFirst
  · rw [if_neg fun found => isFirst found.2] at here
    refine iff_of_false ?_ isFirst
    omega

/-- The delegates are counted right exactly if each that is removed is the first of its class. -/
theorem delegatesCounted_iff (entity : DelegatingEntity ω ρ) (calls : List DelegateCall) :
    DelegatesCounted entity.created calls ↔ Admissible step RemovesFirst entity.created calls := by
  constructor
  · intro counted
    apply admissible_iff_getElem?.mpr
    intro count call isCall
    cases call with
    | install classNo delegate => trivial
    | remove classNo delegate =>
      intro isRegistered
      have succeeds := counted.succeeds count classNo delegate isCall isRegistered
      rw [take_add_one, isCall, run_append] at succeeds
      exact (removeDelegate_succeeds_iff _).mp succeeds
  · intro removesFirst
    constructor
    · intro count classNo delegate
      have known := entity.created.registered_run (calls.take count) classNo delegate
      rw [registered_created] at known
      omega
    · intro count classNo delegate isCall isRegistered
      have isFirst := admissible_iff_getElem?.mp removesFirst count _ isCall isRegistered
      rw [take_add_one, isCall, run_append]
      exact (removeDelegate_succeeds_iff _).mpr isFirst
    · rintro count classNo delegate ⟨same, never⟩ isPerception op res isCalled
      rw [← take_append_drop count calls] at removesFirst
      have before := ((admissible_append ..).mp removesFirst).1
      have known := registered_add_removals before never
      have present := List.count_pos_iff.mpr (mem_equalRange_of_called isCalled)
      rw [registered] at known
      omega

/-- An entity that handles nothing. -/
def bare : DelegatingEntity Unit Unit where
  delegates := .empty
  scripts := []
  properties _ := none
  typeDefaults _ := none
  listeners := []
  callOperation _ res := res

/-- The second of two is removed. -/
theorem removed_second_not_counted :
    ¬ DelegatesCounted bare.created
      [.install 1 "tasks", .install 1 "actions", .remove 1 "actions"] := by
  intro counted
  have succeeds := counted.succeeds 2 1 "actions" rfl (by decide)
  exact absurd succeeds (by decide)

end DelegatingEntity

end Cyphesis.Simulation
