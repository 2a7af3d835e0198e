import Cyphesis.Foundation.Run
import Mathlib.Order.Lattice
import Std.Data.ExtTreeMap

/-!
# Timed actions

An entity keeps the actions that it performs, some with a time at which they end.
-/

namespace Cyphesis.Simulation

open Cyphesis.Foundation
open List
open Std (ExtTreeMap)

variable {τ : Type} [LinearOrder τ]

structure Action (τ : Type) where
  startTime : τ
  endTime : Option τ

/-- A Tick carries the name of its argument. -/
inductive ActionsOperation (τ : Type) where
  | tick (argument : String) (seconds : τ)
  | update

structure ActionsProperty (τ : Type) where
  data : ExtTreeMap String (Action τ) compare := ∅
  tickOutstanding : Option τ := none

namespace ActionsProperty

/-- One turn of the loop of `enqueueTickOp`. -/
def nearer (nearest : Option τ) (entry : String × Action τ) : Option τ :=
  match entry.2.endTime with
  | none => nearest
  | some endTime =>
    match nearest with
    | none => some endTime
    | some nearestExpiry => if nearestExpiry > endTime then some endTime else some nearestExpiry

variable (property : ActionsProperty τ)

def nearestExpiry : Option τ :=
  property.data.toList.foldl nearer none

/-- The Tick before stays. -/
def enqueueTickOp : ActionsProperty τ × List (ActionsOperation τ) :=
  match property.nearestExpiry with
  | none => (property, [])
  | some nearest => ({ property with tickOutstanding := some nearest }, [.tick "actions" nearest])

variable (actionName : String)

def addAction (action : Action τ) : ActionsProperty τ × List (ActionsOperation τ) :=
  let added := { property with data := property.data.insert actionName action }
  (added.enqueueTickOp.1, added.enqueueTickOp.2 ++ [.update])

def removeAction : ActionsProperty τ × List (ActionsOperation τ) :=
  if actionName ∈ property.data then
    ({ property with data := property.data.erase actionName }, [.update])
  else (property, [])

/-- `now` is the time that the Tick carries. -/
def TickOperation (now : τ) : ActionsProperty τ × List (ActionsOperation τ) :=
  let kept := property.data.filter fun _ action =>
    !(action.endTime.any fun endTime => endTime ≤ now)
  let left := { property with tickOutstanding := none, data := kept }
  let hadChanges := property.data.toList.any fun entry =>
    entry.2.endTime.any fun endTime => endTime ≤ now
  (left.enqueueTickOp.1, (if hadChanges then [.update] else []) ++ left.enqueueTickOp.2)

/-- `ActionsProperty::operation`: only a Tick of its own is answered. -/
def operation : ActionsOperation τ → ActionsProperty τ × List (ActionsOperation τ)
  | .tick argument seconds =>
    if argument = "actions" then property.TickOperation seconds else (property, [])
  | .update => (property, [])

end ActionsProperty

/-- The property, with the operations it has sent that have not yet come back. -/
structure TimedActions (τ : Type) where
  property : ActionsProperty τ := {}
  undelivered : List (ActionsOperation τ) := []

/-- What happens to the actions of an entity. -/
inductive ActionsEvent (τ : Type) where
  | addAction (actionName : String) (action : Action τ)
  | removeAction (actionName : String)
  /-- The operation at this place is delivered. -/
  | deliver (index : Nat)

namespace TimedActions

variable (state : TimedActions τ)

/-- Operations are delivered in any order. -/
def step : ActionsEvent τ → TimedActions τ
  | .addAction actionName action =>
    let (property, res) := state.property.addAction actionName action
    ⟨property, state.undelivered ++ res⟩
  | .removeAction actionName =>
    let (property, res) := state.property.removeAction actionName
    ⟨property, state.undelivered ++ res⟩
  | .deliver index =>
    match state.undelivered[index]? with
    | none => state
    | some op =>
      let (property, res) := state.property.operation op
      ⟨property, state.undelivered.eraseIdx index ++ res⟩

/-- Ending actions have a Tick in time. -/
def Covered : Prop :=
  ∀ (name : String) (action : Action τ) endTime, state.property.data[name]? = some action →
    action.endTime = some endTime →
      ∃ seconds, .tick "actions" seconds ∈ state.undelivered ∧ seconds ≤ endTime

end TimedActions

namespace ActionsProperty

theorem foldl_nearer_le (entries : List (String × Action τ)) (nearest : Option τ) (bound : τ)
    (early : (∃ first, nearest = some first ∧ first ≤ bound) ∨
      ∃ entry ∈ entries, entry.2.endTime = some bound) :
    ∃ first, entries.foldl nearer nearest = some first ∧ first ≤ bound := by
  induction entries generalizing nearest with
  | nil => simpa using early
  | cons entry rest ih =>
    rw [foldl_cons]
    apply ih
    rcases early with ⟨first, rfl, early⟩ | ⟨other, isEntry, ends⟩
    · left
      unfold nearer
      cases entry.2.endTime with
      | none => exact ⟨first, rfl, early⟩
      | some endTime =>
        by_cases later : first > endTime
        · exact ⟨endTime, if_pos later, le_of_lt (lt_of_lt_of_le later early)⟩
        · exact ⟨first, if_neg later, early⟩
    · rcases mem_cons.mp isEntry with rfl | isRest
      · left
        unfold nearer
        rw [ends]
        cases nearest with
        | none => exact ⟨bound, rfl, le_refl bound⟩
        | some first =>
          by_cases later : first > bound
          · exact ⟨bound, if_pos later, le_refl bound⟩
          · exact ⟨first, if_neg later, le_of_not_gt later⟩
      · exact .inr ⟨other, isRest, ends⟩

variable (property : ActionsProperty τ)

@[simp]
theorem data_enqueueTickOp : property.enqueueTickOp.1.data = property.data := by
  unfold enqueueTickOp
  split <;> rfl

/-- Sent for before anything ends. -/
theorem tick_mem_enqueueTickOp {name : String} {action : Action τ}
    {endTime : τ} (found : property.data[name]? = some action)
    (ends : action.endTime = some endTime) :
    ∃ seconds, .tick "actions" seconds ∈ property.enqueueTickOp.2 ∧ seconds ≤ endTime := by
  obtain ⟨nearest, isNearest, early⟩ := foldl_nearer_le property.data.toList none endTime
    (.inr ⟨(name, action), ExtTreeMap.mem_toList_iff_getElem?_eq_some.mpr found, ends⟩)
  refine ⟨nearest, ?_, early⟩
  rw [enqueueTickOp, nearestExpiry, isNearest]
  exact mem_singleton_self _

end ActionsProperty

namespace TimedActions

theorem Covered.step {state : TimedActions τ} (covered : state.Covered) (event : ActionsEvent τ) :
    (state.step event).Covered := by
  intro name action endTime found ends
  cases event with
  | addAction actionName added =>
    rw [TimedActions.step, ActionsProperty.addAction] at found
    rw [ActionsProperty.data_enqueueTickOp] at found
    obtain ⟨seconds, isTick, early⟩ := ActionsProperty.tick_mem_enqueueTickOp _ found ends
    exact ⟨seconds, mem_append_right _ (mem_append_left _ isTick), early⟩
  | removeAction actionName =>
    have kept : state.property.data[name]? = some action := by
      simp only [TimedActions.step, ActionsProperty.removeAction] at found
      split at found
      · rw [ExtTreeMap.getElem?_erase] at found
        split at found
        · contradiction
        · exact found
      · exact found
    obtain ⟨seconds, isTick, early⟩ := covered name action endTime kept ends
    exact ⟨seconds, mem_append_left _ isTick, early⟩
  | deliver index =>
    simp only [TimedActions.step] at found ⊢
    cases isNext : state.undelivered[index]? with
    | none =>
      rw [isNext] at found
      exact covered name action endTime found ends
    | some op =>
      rw [isNext] at found
      by_cases isActions : ∃ now, op = .tick "actions" now
      · obtain ⟨now, rfl⟩ := isActions
        -- the actions that are left are those for which the new Tick is sent
        simp only [ActionsProperty.operation, if_true, ActionsProperty.TickOperation,
          ActionsProperty.data_enqueueTickOp] at found
        obtain ⟨seconds, isTick, early⟩ :=
          ActionsProperty.tick_mem_enqueueTickOp ⟨_, none⟩ found ends
        exact ⟨seconds, mem_append_right _ (mem_append_right _ isTick), early⟩
      · have same : state.property.operation op = (state.property, []) := by
          cases op with
          | tick argument seconds =>
            exact if_neg fun isArgument => isActions ⟨seconds, by rw [isArgument]⟩
          | update => rfl
        dsimp only at found ⊢
        rw [same] at found ⊢
        obtain ⟨seconds, isTick, early⟩ := covered name action endTime found ends
        refine ⟨seconds, mem_append_left _ ?_, early⟩
        obtain ⟨place, isPlace⟩ := mem_iff_getElem?.mp isTick
        refine mem_eraseIdx_iff_getElem?.mpr ⟨place, ?_, isPlace⟩
        rintro rfl
        rw [isPlace] at isNext
        exact isActions ⟨seconds, (Option.some.inj isNext).symm⟩

end TimedActions

end Cyphesis.Simulation
