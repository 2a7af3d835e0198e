import Cyphesis.Simulation.OwnModifiers
import Mathlib.Data.List.Flatten

/-!
# The modify_self property

An entity with a `modify_self` property puts modifiers on itself. The connection in its state is
never made. The evaluation of the constraints is a part of the events. `owner` stands for the entity
where its modifiers are recorded.
-/

namespace Cyphesis.Simulation

open Cyphesis.Common List
open Cyphesis.Foundation
open Cyphesis.Rules
open LocatedEntity
open ModifiedParent

/-- The property `modify_self`, with the signals it is connected to. -/
structure ModifySelf where
  entity : LocatedEntity
  entries : List ModifyEntry
  updatedConnection : Bool

/-- Set, applied, or changed by others. -/
inductive ModifySelfEvent where
  | install (entries : List ModifyEntry) (matched : String → Bool)
  | set (entries : List ModifyEntry) (matched : String → Bool)
  | apply (matched : String → Bool)
  | change (name : String) (modifier : Option Modifier) (matched : String → Bool)
  | perform (call : PropertyCall)

namespace ModifySelf

variable (owner : Nat)

def checkIfActive (state : ModifySelf) (matched : String → Bool) : ModifySelf :=
  { state with
    entity := settle state.entity owner (ModifyEntry.activated state.entries matched) }

def apply (state : ModifySelf) (matched : String → Bool) : ModifySelf :=
  checkIfActive owner { state with entity := clear state.entity owner } matched

/-- `ModifySelfProperty::install`: no connection. -/
def install (state : ModifySelf) (entries : List ModifyEntry) (matched : String → Bool) :
    ModifySelf :=
  { checkIfActive owner { state with entries := entries } matched with updatedConnection := false }

/-- Set, and applied. -/
def set (state : ModifySelf) (entries : List ModifyEntry) (matched : String → Bool) : ModifySelf :=
  apply owner { state with entries := entries } matched

/-- `ModifySelfProperty::remove` -/
def remove (state : ModifySelf) (matched : String → Bool) : ModifySelf :=
  { checkIfActive owner state matched with entries := [], updatedConnection := false }

/-- A set is heard where a signal is connected. -/
def change (state : ModifySelf) (name : String) (modifier : Option Modifier)
    (matched : String → Bool) : ModifySelf :=
  let changed := { state with entity := state.entity.setAttr name modifier }
  if state.updatedConnection && ModifyEntry.observes state.entries name then
    checkIfActive owner changed matched
  else changed

def step (state : ModifySelf) : ModifySelfEvent → ModifySelf
  | .install entries matched => install owner state entries matched
  | .set entries matched => set owner state entries matched
  | .apply matched => apply owner state matched
  | .change name modifier matched => change owner state name modifier matched
  | .perform call => { state with entity := state.entity.perform call }

/-- After `modify_self` was removed. -/
structure LaterChange where
  name : String
  modifier : Option Modifier
  matched : String → Bool

def later (state : ModifySelf) (event : LaterChange) : ModifySelf :=
  change owner state event.name event.modifier event.matched

/-- Nothing is active, and no value is changed. -/
structure Undone (state : ModifySelf) (matched : String → Bool) : Prop where
  inactive : ∀ changes : List LaterChange,
    (run (later owner) (remove owner state matched) changes).entity.modifiersFrom owner = [] ∧
      ∀ name, ∀ modifier ∈
        (run (later owner) (remove owner state matched) changes).entity.modifiersOf name,
          modifier.2 ≠ owner
  values : ∀ name entry, state.entity.properties[name]? = some entry →
    (∃ modifier ∈ entry.modifiers, modifier.2 = owner) →
      (remove owner state matched).entity.valueOf name =
        applyModifiers (entry.modifiers.filter (·.2 ≠ owner)) entry.baseValue entry.baseValue

/-- None that the entity takes. -/
def NoneApplies (state : ModifySelf) (matched : String → Bool) : Prop :=
  ∀ modifier ∈ ModifyEntry.activated state.entries matched, ¬Accepts state.entity modifier

variable (own : Nat → Prop)

/-- The modifiers of the entries are objects of their own. -/
structure OwnEntries (entries : List ModifyEntry) : Prop where
  distinct : ((entries.flatMap ModifyEntry.modifiers).map recordedPair).Nodup
  isOwn : ∀ modifier ∈ entries.flatMap ModifyEntry.modifiers, own modifier.2.address

/-- A call that other entities make, with modifiers of theirs. -/
def OfOthers : PropertyCall → Prop
  | .setDefault _ _ => True
  | .addModifier _ modifier affecting => affecting ≠ owner ∧ ¬own modifier.address
  | .removeModifier _ modifier => ¬own modifier.address

/-- Entries bring modifiers of their own, and other calls concern those of others. -/
def Fitting : ModifySelfEvent → Prop
  | .install entries _ => OwnEntries own entries
  | .set entries _ => OwnEntries own entries
  | .apply _ => True
  | .change _ _ _ => True
  | .perform call => OfOthers owner own call

/-- Before the property is installed. -/
structure Fresh (state : ModifySelf) : Prop where
  recorded : state.entity.modifiersFrom owner = []
  others : ∀ other, ∀ pair ∈ state.entity.modifiersFrom other, ¬own pair.2
  lists : ∀ name, ∀ modifier ∈ state.entity.modifiersOf name,
    modifier.2 ≠ owner ∧ ¬own modifier.1.address
  entries : state.entries = []
  connection : state.updatedConnection = false

structure Sound (state : ModifySelf) : Prop where
  owns : Owns own owner state.entity
  entries : OwnEntries own state.entries
  connection : state.updatedConnection = false

variable {owner own} {state : ModifySelf} {matched : String → Bool}

theorem OwnEntries.activated {entries : List ModifyEntry} (ownEntries : OwnEntries own entries)
    (matched : String → Bool) :
    ((ModifyEntry.activated entries matched).map recordedPair).Nodup ∧
      ∀ modifier ∈ ModifyEntry.activated entries matched, own modifier.2.address := by
  unfold ModifyEntry.activated
  have part : ((entries.filter (·.apply matched)).flatMap ModifyEntry.modifiers).Sublist
      (entries.flatMap ModifyEntry.modifiers) := List.filter_sublist.flatMap _
  have sorted := mergeSort_perm
    ((entries.filter (·.apply matched)).flatMap ModifyEntry.modifiers) ModifyEntry.pairLe
  constructor
  · exact (sorted.map recordedPair).nodup_iff.mpr (ownEntries.distinct.sublist (part.map _))
  · intro modifier isActivated
    exact ownEntries.isOwn modifier (part.subset (sorted.subset isActivated))

theorem Sound.checkIfActive (sound : Sound owner own state) (matched : String → Bool) :
    Sound owner own (checkIfActive owner state matched) where
  owns := (sound.owns.settled (sound.entries.activated matched).1
    (sound.entries.activated matched).2).1
  entries := sound.entries
  connection := sound.connection

theorem Sound.cleared (sound : Sound owner own state) :
    Sound owner own { state with entity := clear state.entity owner } where
  owns := sound.owns.cleared.1
  entries := sound.entries
  connection := sound.connection

section

variable {entity : LocatedEntity} (owns : Owns own owner entity)

include owns

variable {modifier : ModifierRef}

theorem owns_addModifier {name : String} {affecting : Nat}
    (different : affecting ≠ owner) (notOwn : ¬own modifier.address) :
    Owns own owner (entity.addModifier name modifier affecting) := by
  by_cases accepts : Accepts entity (name, modifier)
  · have host := sameHost_addModifier entity name modifier affecting
    have records := @modifiersFrom_addModifier entity name modifier accepts.1 accepts.2 affecting
    have same : (entity.addModifier name modifier affecting).modifiersFrom owner =
        entity.modifiersFrom owner := by
      rw [records, if_neg (Ne.symm different)]
    constructor
    · rw [same]
      exact owns.once
    · rw [same, host.allowed]
      exact owns.recorded
    · intro other isOther pair isRecorded
      rw [records] at isRecorded
      split at isRecorded
      · rename_i isAffecting
        rcases List.mem_insert_iff.mp isRecorded with rfl | isOld
        · exact notOwn
        · exact owns.others affecting different pair isOld
      · exact owns.others other isOther pair isRecorded
    · intro held entry isEntry isOwner
      rw [same]
      rcases mem_modifiersOf_addModifier accepts affecting isEntry with isOld | ⟨-, rfl⟩
      · exact owns.stored held entry isOld isOwner
      · exact absurd isOwner different
    · intro held entry isEntry notOwner
      rcases mem_modifiersOf_addModifier accepts affecting isEntry with isOld | ⟨-, rfl⟩
      · exact owns.foreign held entry isOld notOwner
      · exact notOwn
    · intro held
      rw [modifiersOf_addModifier accepts.1 accepts.2]
      split
      · rw [filter_append, filter_cons_of_neg (by simpa using different), filter_nil, append_nil]
        exact owns.apart name
      · exact owns.apart held
  · rw [@addModifier_of_not_accepts entity (name, modifier) accepts]
    exact owns

theorem owns_removeModifier (name : String)
    (notOwn : ¬own modifier.address) :
    Owns own owner (entity.removeModifier name modifier) := by
  have records : ∀ other, (entity.removeModifier name modifier).modifiersFrom other =
      if entity.firstRecorder (name, modifier.address) = some other then
        (entity.modifiersFrom other).erase (name, modifier.address)
      else entity.modifiersFrom other := by
    intro other
    rw [← modifiersFrom_forget entity (name, modifier.address) other]
    unfold modifiersFrom
    rw [removeModifier_activeModifiers]
  have same : (entity.removeModifier name modifier).modifiersFrom owner =
      entity.modifiersFrom owner := by
    rw [records]
    split
    · apply erase_of_not_mem
      intro isRecorded
      exact notOwn (owns.recorded _ isRecorded).1
    · rfl
  have lists : ∀ held, ((entity.removeModifier name modifier).modifiersOf held).Sublist
      (entity.modifiersOf held) := by
    intro held
    rw [modifiersOf_removeModifier]
    split
    · rename_i isName
      rw [isName]
      exact eraseP_sublist
    · exact List.Sublist.refl _
  constructor
  · rw [same]
    exact owns.once
  · rw [same, (sameHost_removeModifier entity name modifier).allowed]
    exact owns.recorded
  · intro other isOther pair isRecorded
    rw [records] at isRecorded
    split at isRecorded
    · exact owns.others other isOther pair (mem_of_mem_erase isRecorded)
    · exact owns.others other isOther pair isRecorded
  · intro held entry isEntry
    rw [same]
    exact owns.stored held entry ((lists held).subset isEntry)
  · intro held entry isEntry
    exact owns.foreign held entry ((lists held).subset isEntry)
  · intro held
    exact (owns.apart held).sublist ((lists held).filter _)

theorem owns_perform {call : PropertyCall} (ofOthers : OfOthers owner own call) :
    Owns own owner (entity.perform call) := by
  cases call with
  | setDefault name value => exact owns.setAttr name _
  | addModifier name modifier affecting => exact owns_addModifier owns ofOthers.1 ofOthers.2
  | removeModifier name modifier => exact owns_removeModifier owns name ofOthers

end

theorem Sound.step (sound : Sound owner own state) {event : ModifySelfEvent}
    (fitting : Fitting owner own event) : Sound owner own (step owner state event) := by
  cases event with
  | install entries matched =>
    have given : Sound owner own { state with entries := entries } :=
      ⟨sound.owns, fitting, sound.connection⟩
    exact ⟨(given.checkIfActive matched).owns, fitting, rfl⟩
  | set entries matched =>
    have given : Sound owner own { state with entries := entries } :=
      ⟨sound.owns, fitting, sound.connection⟩
    exact given.cleared.checkIfActive matched
  | apply matched => exact sound.cleared.checkIfActive matched
  | change name modifier matched =>
    have changed : Sound owner own { state with entity := state.entity.setAttr name modifier } :=
      ⟨sound.owns.setAttr name modifier, sound.entries, sound.connection⟩
    unfold ModifySelf.step change
    dsimp only
    split
    · exact changed.checkIfActive matched
    · exact changed
  | perform call => exact ⟨owns_perform sound.owns fitting, sound.entries, sound.connection⟩

theorem Fresh.sound (fresh : Fresh owner own state) : Sound owner own state := by
  constructor
  · constructor
    · rw [fresh.recorded]
      exact nodup_nil
    · rw [fresh.recorded]
      exact forall_mem_nil _
    · exact fun other _ => fresh.others other
    · intro name modifier isModifier isSelf
      exact absurd isSelf (fresh.lists name modifier isModifier).1
    · intro name modifier isModifier _
      exact (fresh.lists name modifier isModifier).2
    · intro name
      have nothing : (state.entity.modifiersOf name).filter (·.2 = owner) = [] := by
        rw [filter_eq_nil_iff]
        intro modifier isModifier
        simpa using (fresh.lists name modifier isModifier).1
      rw [nothing]
      exact List.Pairwise.nil
  · rw [fresh.entries]
    exact ⟨nodup_nil, forall_mem_nil _⟩
  · exact fresh.connection

theorem run_later (changes : List LaterChange) (unconnected : state.updatedConnection = false) :
    (run (later owner) state changes).entity.activeModifiers = state.entity.activeModifiers ∧
      ∀ name, (run (later owner) state changes).entity.modifiersOf name =
        state.entity.modifiersOf name := by
  induction changes generalizing state with
  | nil => exact ⟨rfl, fun _ => rfl⟩
  | cons change rest ih =>
    have quiet : later owner state change =
        { state with entity := state.entity.setAttr change.name change.modifier } := by
      unfold later ModifySelf.change
      rw [unconnected]
      rfl
    rw [run_cons, quiet]
    rcases @ih { state with entity := state.entity.setAttr change.name change.modifier }
      unconnected with ⟨records, lists⟩
    refine ⟨records.trans (setAttr_activeModifiers _ _ _), fun name => ?_⟩
    rw [lists]
    exact modifiersOf_setAttr _ _ _ _

theorem Sound.undone_iff (sound : Sound owner own state) (matched : String → Bool) :
    Undone owner state matched ↔ NoneApplies state matched := by
  rcases sound.owns.settled (sound.entries.activated matched).1
    (sound.entries.activated matched).2 with ⟨-, records⟩
  constructor
  · intro undone modifier isActivated accepts
    have nothing := (undone.inactive []).1
    have isRecorded := (records (recordedPair modifier)).mpr ⟨modifier, isActivated, accepts, rfl⟩
    have same : (remove owner state matched).entity.modifiersFrom owner = [] := nothing
    unfold remove ModifySelf.checkIfActive at same
    dsimp only at same
    rw [same] at isRecorded
    cases isRecorded
  · intro noneApplies
    have isClear : (remove owner state matched).entity = clear state.entity owner :=
      sound.owns.settle_eq_clear noneApplies
    rcases sound.owns.cleared with ⟨-, cleared⟩
    constructor
    · intro changes
      rcases @run_later owner (remove owner state matched) changes rfl with ⟨recordsAfter, lists⟩
      rw [isClear] at recordsAfter lists
      constructor
      · rw [modifiersFrom, recordsAfter]
        exact cleared.recorded
      · intro name modifier isModifier
        rw [lists, cleared.lists] at isModifier
        simpa using of_mem_filter isModifier
    · rw [isClear]
      exact cleared.values

/-- Removing the property undoes its modifiers just if no entry applies when it is removed. -/
theorem run_undone_iff (fresh : Fresh owner own state) (events : List ModifySelfEvent)
    (fitting : ∀ event ∈ events, Fitting owner own event) (matched : String → Bool) :
    Undone owner (run (step owner) state events) matched ↔
      NoneApplies (run (step owner) state events) matched := by
  have sound : Sound owner own (run (step owner) state events) :=
    run_invariant_of_mem (Sound owner own) events
      (fun _ event isEvent sound => sound.step (fitting event isEvent)) fresh.sound
  exact sound.undone_iff matched

/-- It takes modifiers, and has none. -/
def plainEntity : LocatedEntity :=
  { id := 1
    type := none
    flags := Flags.empty
    seq := 0
    parent := none
    properties := ∅
    activeModifiers := ∅ }

/-- An entry that adds weight, if its constraint is met. -/
def heavier (constraint : Option String) : ModifyEntry where
  constraint
  modifiers := [("weight", { address := 10, object := .createModifier .append (.int 1) })]
  observedProperties := []

def beforeInstall : ModifySelf :=
  ⟨plainEntity, [], false⟩

theorem fresh_beforeInstall (own : Nat → Prop) : Fresh 1 own beforeInstall where
  recorded := rfl
  others _ _ isRecorded := by cases isRecorded
  lists _ _ isModifier := by cases isModifier
  entries := rfl
  connection := rfl

/-- Removed when no longer met. -/
theorem run_undone_unmet :
    Undone 1 (run (step 1) beforeInstall [.install [heavier (some "wet")] fun _ => true])
      fun _ => false := by
  apply (@run_undone_iff 1 (· = 10) beforeInstall _ _ _ _).mpr
  · have noneActivated : ModifyEntry.activated [heavier (some "wet")] (fun _ => false) = [] := by
      simp [ModifyEntry.activated, ModifyEntry.apply, heavier]
    intro modifier isActivated
    change modifier ∈ ModifyEntry.activated [heavier (some "wet")] (fun _ => false) at isActivated
    rw [noneActivated] at isActivated
    cases isActivated
  · exact fresh_beforeInstall _
  · simp only [forall_mem_singleton, Fitting]
    exact ⟨by decide, by decide⟩

/-- An entry without a constraint stays active. -/
theorem run_not_undone :
    ¬Undone 1 (run (step 1) beforeInstall [.install [heavier none] fun _ => true])
      fun _ => true := by
  intro undone
  exact absurd (undone.inactive []).1 (by decide +kernel)

end ModifySelf

end Cyphesis.Simulation
