import Cyphesis.Foundation.Run
import Cyphesis.Simulation.World

/-!
# The domain of an entity

The property `domain` names the kind of domain an entity has.
-/

namespace Cyphesis.Simulation

open Cyphesis.Foundation List

inductive DelegateClass where
  | tick
  | delete
  | move
  deriving DecidableEq

/-- Names of the kinds of domains. -/
def DomainKind.ofName (name : String) : Option DomainKind :=
  if name = "physical" then some .physical
  else if name = "void" then some .void
  else if name = "inventory" then some .inventory
  else if name = "stackable" then some .stackable
  else if name = "container" then some .container
  else none

/-- The classes that `installDelegates` is for. -/
def DomainKind.delegates : DomainKind → List DelegateClass
  | .physical => [.tick]
  | .stackable => [.delete, .move]
  | .void => []
  | .inventory => []
  | .container => []

/-- The first Tick of a physical domain. -/
def DomainKind.ticks : DomainKind → Nat
  | .physical => 1
  | _ => 0

/-- An entity with its domain. -/
structure DomainOwner where
  property : Option String
  domain : Option DomainKind
  delegates : List DelegateClass
  ticks : Nat
  dereferenced : Bool

/-- An operation as a delegate sees it. -/
structure DelegatedOp where
  classNo : DelegateClass
  isNamedDomain : Bool

/-- What happens to an entity that may carry a domain. -/
inductive DomainEvent where
  /-- The property is set, and applied. -/
  | set (value : String)
  /-- The property is removed. -/
  | remove
  /-- A Tick that the domain sent arrives. -/
  | ownTick
  /-- Another operation is delivered. -/
  | deliver (op : DelegatedOp)

namespace DomainOwner

def start : DomainOwner :=
  ⟨none, none, [], 0, false⟩

/-- Made when there is none. -/
def apply (owner : DomainOwner) (value : String) : DomainOwner :=
  if value ≠ "" then
    match owner.domain with
    | some _ => owner
    | none =>
      match DomainKind.ofName value with
      | none => owner
      | some kind =>
        { owner with
          domain := some kind
          delegates := owner.delegates ++ kind.delegates
          ticks := owner.ticks + kind.ticks }
  else { owner with domain := none }

def remove (owner : DomainOwner) : DomainOwner :=
  { owner with property := none, domain := none }

/-- A physical one answers with the next. -/
def handle (owner : DomainOwner) (kind : DomainKind) (op : DelegatedOp) : DomainOwner :=
  match kind with
  | .physical => if op.isNamedDomain then { owner with ticks := owner.ticks + 1 } else owner
  | _ => owner

/-- The call of a delegate, among them `DomainProperty::operation`. -/
def callDelegate (hasDefault : Bool) (owner : DomainOwner) (op : DelegatedOp) : DomainOwner :=
  if owner.property.isSome ∨ hasDefault then
    match owner.domain with
    | none => { owner with dereferenced := true }
    | some kind => owner.handle kind op
  else owner

/-- Loop over the delegates. -/
def operation (hasDefault : Bool) (owner : DomainOwner) (op : DelegatedOp) : DomainOwner :=
  (owner.delegates.filter (· = op.classNo)).foldl
    (fun current _ => callDelegate hasDefault current op) owner

/-- `hasDefault`: by its type. -/
def step (hasDefault : Bool) (owner : DomainOwner) : DomainEvent → DomainOwner
  | .set value => apply { owner with property := some value } value
  | .remove => owner.remove
  | .ownTick =>
    if owner.ticks = 0 then owner
    else operation hasDefault { owner with ticks := owner.ticks - 1 } ⟨.tick, true⟩
  | .deliver op => owner.operation hasDefault op

/-- The last one, with delegates and Tick. -/
structure Settled (owner : DomainOwner) : Prop where
  kind : owner.domain = owner.property.bind DomainKind.ofName
  delegates : owner.delegates = owner.domain.elim [] DomainKind.delegates
  dereferenced : owner.dereferenced = false
  ticks : owner.ticks ≤ 1

/-- None replaces a domain; Ticks are its own. -/
def Fitting (owner : DomainOwner) : DomainEvent → Prop
  | .set value =>
    ∀ kind ∈ owner.domain, DomainKind.ofName value = some kind ∨ value = "" ∧ kind.delegates = []
  | .remove => ∀ kind ∈ owner.domain, kind.delegates = []
  | .ownTick => True
  | .deliver op =>
    owner.domain = some .physical → op.classNo = .tick → op.isNamedDomain = false

instance (owner : DomainOwner) : ∀ event, Decidable (owner.Fitting event)
  | .set value =>
    inferInstanceAs (Decidable (∀ kind ∈ owner.domain,
      DomainKind.ofName value = some kind ∨ value = "" ∧ kind.delegates = []))
  | .remove => inferInstanceAs (Decidable (∀ kind ∈ owner.domain, kind.delegates = []))
  | .ownTick => inferInstanceAs (Decidable True)
  | .deliver op =>
    inferInstanceAs (Decidable (owner.domain = some .physical → op.classNo = .tick →
      op.isNamedDomain = false))

/-- Physical ones have one Tick. -/
structure Kept (owner : DomainOwner) : Prop where
  kind : owner.domain = owner.property.bind DomainKind.ofName
  delegates : owner.delegates = owner.domain.elim [] DomainKind.delegates
  dereferenced : owner.dereferenced = false
  ticks : owner.ticks = owner.domain.elim 0 DomainKind.ticks

theorem Kept.start : Kept start :=
  ⟨rfl, rfl, rfl, rfl⟩

variable {owner : DomainOwner} (hasDefault : Bool)

theorem Kept.settled (kept : Kept owner) : owner.Settled := by
  refine ⟨kept.kind, kept.delegates, kept.dereferenced, ?_⟩
  rw [kept.ticks]
  cases owner.domain with
  | none => exact Nat.zero_le 1
  | some kind =>
    cases kind with
    | physical => exact Nat.le_refl 1
    | void => exact Nat.zero_le 1
    | inventory => exact Nat.zero_le 1
    | stackable => exact Nat.zero_le 1
    | container => exact Nat.zero_le 1

theorem ofName_ne_empty {value : String} {kind : DomainKind}
    (isName : DomainKind.ofName value = some kind) : value ≠ "" := by
  rintro rfl
  cases isName

theorem ticks_of_delegates_nil {kind : DomainKind} (none : kind.delegates = []) :
    kind.ticks = 0 := by
  cases kind with
  | physical => cases none
  | stackable => cases none
  | void => rfl
  | inventory => rfl
  | container => rfl

theorem Kept.set (kept : Kept owner) {value : String} (fits : owner.Fitting (.set value)) :
    Kept (apply { owner with property := some value } value) := by
  have delegates := kept.delegates
  have ticks := kept.ticks
  unfold apply
  cases domain : owner.domain with
  | none =>
    rw [domain] at delegates ticks
    by_cases isEmpty : value = ""
    · subst isEmpty
      exact ⟨rfl, delegates, kept.dereferenced, ticks⟩
    · simp only [isEmpty, ne_eq, not_false_eq_true, if_true]
      cases named : DomainKind.ofName value with
      | none =>
        exact ⟨by simp [named], by simp [delegates], kept.dereferenced, by simp [ticks]⟩
      | some kind =>
        exact ⟨by simp [named], by simp [delegates], kept.dereferenced, by simp [ticks]⟩
  | some kind =>
    rw [domain] at delegates ticks
    rcases fits kind domain with named | ⟨isEmpty, noDelegates⟩
    · simp only [ofName_ne_empty named, ne_eq, not_false_eq_true, if_true]
      exact ⟨by simp [named], by simp [delegates], kept.dereferenced, by simp [ticks]⟩
    · subst isEmpty
      refine ⟨rfl, ?_, kept.dereferenced, ?_⟩
      · exact delegates.trans noDelegates
      · exact ticks.trans (ticks_of_delegates_nil noDelegates)

theorem Kept.remove (kept : Kept owner) (fits : owner.Fitting .remove) : Kept owner.remove := by
  have delegates := kept.delegates
  have ticks := kept.ticks
  cases domain : owner.domain with
  | none =>
    rw [domain] at delegates ticks
    exact ⟨rfl, delegates, kept.dereferenced, ticks⟩
  | some kind =>
    rw [domain] at delegates ticks
    have noDelegates := fits kind domain
    exact ⟨rfl, delegates.trans noDelegates, kept.dereferenced,
      ticks.trans (ticks_of_delegates_nil noDelegates)⟩

theorem operation_eq_self {op : DelegatedOp} (quiet : op.classNo ∈ owner.delegates →
      ∃ kind, owner.domain = some kind ∧ owner.handle kind op = owner) :
    owner.operation hasDefault op = owner := by
  by_cases isDelegated : op.classNo ∈ owner.delegates
  · obtain ⟨kind, domain, handles⟩ := quiet isDelegated
    apply foldl_fixed'
    intro _
    simp only [callDelegate, domain, handles, ite_self]
  · have none : owner.delegates.filter (· = op.classNo) = [] := by
      rw [filter_eq_nil_iff]
      intro classNo isInstalled same
      rw [decide_eq_true_eq] at same
      exact isDelegated (same ▸ isInstalled)
    rw [operation, none]
    rfl

theorem Kept.deliver (kept : Kept owner) {op : DelegatedOp} (fits : owner.Fitting (.deliver op)) :
    owner.operation hasDefault op = owner := by
  apply operation_eq_self
  intro isDelegated
  rw [kept.delegates] at isDelegated
  cases domain : owner.domain with
  | none =>
    rw [domain] at isDelegated
    cases isDelegated
  | some kind =>
    refine ⟨kind, rfl, ?_⟩
    rw [domain] at isDelegated
    cases kind with
    | physical =>
      have unnamed := fits domain (List.mem_singleton.mp isDelegated)
      simp [handle, unnamed]
    | void => rfl
    | inventory => rfl
    | stackable => rfl
    | container => rfl

theorem Kept.ownTick (kept : Kept owner) (isUnderWay : owner.ticks ≠ 0) :
    operation hasDefault { owner with ticks := owner.ticks - 1 } ⟨.tick, true⟩ = owner := by
  have isPhysical : owner.domain = some .physical := by
    have ticks := kept.ticks
    cases domain : owner.domain with
    | none =>
      rw [domain] at ticks
      exact absurd ticks isUnderWay
    | some kind =>
      rw [domain] at ticks
      cases kind with
      | physical => rfl
      | void => exact absurd ticks isUnderWay
      | inventory => exact absurd ticks isUnderWay
      | stackable => exact absurd ticks isUnderWay
      | container => exact absurd ticks isUnderWay
  have hasProperty : owner.property.isSome := by
    have kind := kept.kind
    rw [isPhysical] at kind
    cases property : owner.property with
    | none =>
      rw [property] at kind
      cases kind
    | some value => rfl
  have delegates : owner.delegates = [.tick] := by
    rw [kept.delegates, isPhysical]
    rfl
  have oneMore : owner.ticks - 1 + 1 = owner.ticks := Nat.succ_pred_eq_of_ne_zero isUnderWay
  simp only [operation, delegates, filter_cons, decide_true, if_true, filter_nil,
    foldl_cons, foldl_nil, callDelegate, hasProperty, true_or, isPhysical, handle, oneMore]
  rw [← isPhysical, ← delegates]

theorem Kept.step (kept : Kept owner) {event : DomainEvent} (fits : owner.Fitting event) :
    Kept (owner.step hasDefault event) := by
  cases event with
  | set value => exact kept.set fits
  | remove => exact kept.remove fits
  | ownTick =>
    by_cases isUnderWay : owner.ticks = 0
    · rw [DomainOwner.step, if_pos isUnderWay]
      exact kept
    · rw [DomainOwner.step, if_neg isUnderWay, kept.ownTick hasDefault isUnderWay]
      exact kept
  | deliver op =>
    rw [DomainOwner.step, kept.deliver hasDefault fits]
    exact kept

/-- In such runs an entity has the domain of the value that was set last. -/
theorem run_domainSettled (hasDefault : Bool) (events : List DomainEvent)
    (fits : Admissible (step hasDefault) Fitting start events) :
    (run (step hasDefault) start events).Settled := by
  have kept : Kept (run (step hasDefault) start events) :=
    run_invariant Kept (fun _ _ kept fits => kept.step hasDefault fits) Kept.start fits
  exact kept.settled

theorem run_domainSettled_container_physical :
    (run (step false) start
      [.set "container", .set "", .set "physical", .ownTick, .deliver ⟨.move, false⟩]).Settled :=
  run_domainSettled false _ (by decide)

/-- A Tick is delegated without a domain. -/
theorem run_dereferences_removed_domain :
    ¬(run (step false) start [.set "physical", .set "", .ownTick]).Settled := by
  intro settled
  have dereferenced := settled.dereferenced
  revert dereferenced
  decide

end DomainOwner

end Cyphesis.Simulation
