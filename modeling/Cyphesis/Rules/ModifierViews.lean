import Cyphesis.Foundation.Keyed
import Cyphesis.Rules.ActiveModifiers
import Cyphesis.Rules.ModifierStack

/-!
# Two views of the active modifiers

An entity keeps its modifiers in a list at each property, and in a set for each affecting entity.
-/

namespace Cyphesis.Rules

open Cyphesis.Common Cyphesis.Foundation List Option

namespace LocatedEntity

/-- Property, address, affecting entity. -/
abbrev ModifierTriple := String × Nat × Nat

/-- What `m_activeModifiers` records. -/
def recordedModifiers (entity : LocatedEntity) : List ModifierTriple :=
  entity.activeModifiers.toList.flatMap fun entry =>
    entry.2.map fun pair => (pair.1, pair.2, entry.1)

/-- The lists in `m_properties`. -/
def storedModifiers (entity : LocatedEntity) : List ModifierTriple :=
  entity.properties.toList.flatMap fun entry =>
    entry.2.modifiers.map fun modifier => (entry.1, modifier.1.address, modifier.2)

/-- Both have each modifier as often. -/
def ViewsAgree (entity : LocatedEntity) : Prop :=
  entity.recordedModifiers.Perm entity.storedModifiers

/-- Would the property take a modifier? -/
def takesModifiers (entity : LocatedEntity) (name : String) : Bool :=
  match entity.properties[name]? with
  | some entry => !(entry.property.map (·.hasFlags propFlagModifiersNotAllowed)).getD false
  | none => !((entity.typeDefault name).map (·.hasFlags entityModifiersNotAllowed)).getD false

/-- The first for which it is recorded. -/
def firstRecorder (entity : LocatedEntity) (pair : String × Nat) : Option Nat :=
  (entity.activeModifiers.toList.find? fun entry => entry.2.contains pair).map (·.1)

/-- Whose it is, by the list. -/
def firstStored (entity : LocatedEntity) (pair : String × Nat) : Option Nat :=
  ((entity.modifiersOf pair.1).find? fun modifier => modifier.1.address == pair.2).map (·.2)

/-- How often it is in the list. -/
def storedTimes (entity : LocatedEntity) (triple : ModifierTriple) : Nat :=
  (entity.modifiersOf triple.1).countP fun modifier =>
    modifier.1.address = triple.2.1 ∧ modifier.2 = triple.2.2

variable {name : String} (entity : LocatedEntity)

variable (triple : ModifierTriple)

theorem count_recordedModifiers :
    entity.recordedModifiers.count triple =
      (entity.modifiersFrom triple.2.2).count (triple.1, triple.2.1) := by
  obtain ⟨name, address, affecting⟩ := triple
  have own : ∀ entry : Nat × List (String × Nat),
      (name, address, affecting) ∈ entry.2.map (fun pair => (pair.1, pair.2, entry.1)) →
        entry.1 = affecting := by
    intro entry isMember
    obtain ⟨pair, -, same⟩ := List.mem_map.mp isMember
    exact congrArg (·.2.2) same
  rw [recordedModifiers, count_toList_flatMap _ own, modifiersFrom]
  cases entity.activeModifiers[affecting]? with
  | none => rfl
  | some recorded =>
    have injective : Function.Injective fun pair : String × Nat =>
        ((pair.1, pair.2, affecting) : ModifierTriple) := by
      intro left right same
      exact Prod.ext (congrArg (·.1) same) (congrArg (·.2.1) same)
    exact count_map_of_injective recorded _ injective (name, address)

theorem count_storedModifiers :
    entity.storedModifiers.count triple = entity.storedTimes triple := by
  obtain ⟨name, address, affecting⟩ := triple
  have own : ∀ entry : String × ModifiableProperty,
      (name, address, affecting) ∈ entry.2.modifiers.map
          (fun modifier => (entry.1, modifier.1.address, modifier.2)) →
        entry.1 = name := by
    intro entry isMember
    obtain ⟨modifier, -, same⟩ := List.mem_map.mp isMember
    exact congrArg (·.1) same
  rw [storedModifiers, count_toList_flatMap _ own, storedTimes, modifiersOf]
  cases entity.properties[name]? with
  | none => rfl
  | some entry =>
    simp only [elim_some, List.count, countP_map]
    refine countP_congr fun modifier _ => ?_
    simp

theorem viewsAgree_iff {entity : LocatedEntity} :
    entity.ViewsAgree ↔ ∀ name address affecting,
      (entity.modifiersFrom affecting).count (name, address) =
        entity.storedTimes (name, address, affecting) := by
  rw [ViewsAgree, perm_iff_count]
  constructor
  · intro same name address affecting
    have counts := same (name, address, affecting)
    rwa [count_recordedModifiers, count_storedModifiers] at counts
  · intro same triple
    rw [count_recordedModifiers, count_storedModifiers]
    exact same triple.1 triple.2.1 triple.2.2

@[simp]
theorem modifiersOf_setAttr (name other : String) (modifier : Option Modifier) :
    (entity.setAttr name modifier).modifiersOf other = entity.modifiersOf other := by
  by_cases valid : PropertyUtil.isValidName name = true
  · by_cases same : name = other
    · subst same
      rw [modifiersOf, setAttr_getElem?_self entity modifier valid]
      exact entity.settledEntry_modifiers name modifier
    · rw [modifiersOf, setAttr_getElem?_of_ne entity modifier same, modifiersOf]
  · simp [setAttr, valid]

@[simp]
theorem modifiersOf_enqueueUpdateOp (name : String) :
    entity.enqueueUpdateOp.modifiersOf name = entity.modifiersOf name :=
  rfl

@[simp]
theorem modifiersOf_recordModifier (affecting : Nat) (name other : String) (address : Nat) :
    (entity.recordModifier affecting name address).modifiersOf other = entity.modifiersOf other :=
  rfl

@[simp]
theorem modifiersOf_forgetModifier (name other : String) (address : Nat) :
    (entity.forgetModifier name address).modifiersOf other = entity.modifiersOf other := by
  simp [modifiersOf]

theorem modifiersOf_of_getElem? {entity : LocatedEntity} {entry : ModifiableProperty}
    (found : entity.properties[name]? = some entry) :
    entity.modifiersOf name = entry.modifiers := by
  simp [modifiersOf, found]

theorem modifiersOf_written (name target other : String) (entry : ModifiableProperty)
    (modifier : Option Modifier) :
    (setAttr { entity with properties := entity.properties.insert name entry } target
        modifier).enqueueUpdateOp.modifiersOf other =
      if other = name then entry.modifiers else entity.modifiersOf other := by
  rw [modifiersOf_enqueueUpdateOp, modifiersOf_setAttr]
  by_cases same : other = name
  · simp [modifiersOf, same]
  · simp [modifiersOf, Std.TreeMap.getElem?_insert, same, Ne.symm same]

theorem modifiersOf_addModifier {entity : LocatedEntity}
    (allowed : entity.hasFlags entityModifiersNotAllowed = false)
    (valid : PropertyUtil.isValidName name = true) (modifier : ModifierRef) (affecting : Nat)
    (other : String) :
    (entity.addModifier name modifier affecting).modifiersOf other =
      if other = name ∧ entity.takesModifiers name = true then
        entity.modifiersOf name ++ [(modifier, affecting)]
      else entity.modifiersOf other := by
  unfold addModifier
  simp only [allowed, valid, Bool.false_eq_true, if_false, if_true, recordModifier_typeDefault]
  cases found : entity.properties[name]? with
  | some entry =>
    have recorded :
        (entity.recordModifier affecting name modifier.address).properties[name]? = some entry :=
      found
    rw [modifiersOf_of_getElem? found]
    cases flagged : (entry.property.map (·.hasFlags propFlagModifiersNotAllowed)).getD false with
    | true => simp [flagged, takesModifiers, found]
    | false =>
      simp only [recorded, flagged, Bool.false_eq_true, if_false, modifiersOf_written]
      simp [takesModifiers, found, flagged]
  | none =>
    have recorded :
        (entity.recordModifier affecting name modifier.address).properties[name]? = none :=
      found
    have empty : entity.modifiersOf name = [] := by simp [modifiersOf, found]
    cases isDefault : entity.typeDefault name with
    | none =>
      simp only [recorded, modifiersOf_written]
      simp [takesModifiers, found, isDefault, empty]
    | some property =>
      cases flagged : property.hasFlags entityModifiersNotAllowed with
      | true => simp [flagged, takesModifiers, found, isDefault]
      | false =>
        simp only [recorded, flagged, Bool.false_eq_true, if_false, modifiersOf_written]
        simp [takesModifiers, found, isDefault, flagged, empty]

theorem modifiersOf_removeModifier (name : String) (modifier : ModifierRef) (other : String) :
    (entity.removeModifier name modifier).modifiersOf other =
      if other = name then
        (entity.modifiersOf name).eraseP (·.1.address == modifier.address)
      else entity.modifiersOf other := by
  have unchanged
      (absent : (entity.modifiersOf name).any (·.1.address == modifier.address) = false) :
      entity.modifiersOf other =
        if other = name then (entity.modifiersOf name).eraseP (·.1.address == modifier.address)
        else entity.modifiersOf other := by
    split
    · rename_i same
      rw [same, eraseP_of_forall_not]
      simpa using absent
    · rfl
  unfold removeModifier
  dsimp only
  split
  · rename_i missing
    rw [forgetModifier_properties] at missing
    rw [modifiersOf_forgetModifier]
    exact unchanged (by simp [modifiersOf, missing])
  · rename_i entry found
    rw [forgetModifier_properties] at found
    rw [modifiersOf_of_getElem? found] at unchanged ⊢
    split
    · rw [setAttrValue, modifiersOf_written, modifiersOf_forgetModifier]
    · rename_i absent
      rw [modifiersOf_forgetModifier]
      exact unchanged (by simpa using absent)

theorem count_modifiersFrom_addModifier {entity : LocatedEntity}
    (allowed : entity.hasFlags entityModifiersNotAllowed = false)
    (valid : PropertyUtil.isValidName name = true) (modifier : ModifierRef) (affecting : Nat)
    (triple : ModifierTriple) :
    ((entity.addModifier name modifier affecting).modifiersFrom triple.2.2).count
        (triple.1, triple.2.1) =
      (entity.modifiersFrom triple.2.2).count (triple.1, triple.2.1) +
        if triple = (name, modifier.address, affecting) ∧
          (name, modifier.address) ∉ entity.modifiersFrom affecting then 1 else 0 := by
  obtain ⟨other, address, affected⟩ := triple
  rw [modifiersFrom_addModifier allowed valid]
  by_cases same : affected = affecting
  · subst same
    by_cases known : (name, modifier.address) ∈ entity.modifiersFrom affected
    · simp [known]
    · simp only [if_true, insert_of_not_mem known, List.count_cons, known, not_false_eq_true,
        and_true, Prod.mk.injEq, beq_iff_eq]
      congr 2
      exact propext ⟨fun both => ⟨both.1.symm, both.2.symm⟩, fun both => ⟨both.1.symm, both.2.symm⟩⟩
  · simp [same]

theorem storedTimes_addModifier {entity : LocatedEntity}
    (allowed : entity.hasFlags entityModifiersNotAllowed = false)
    (valid : PropertyUtil.isValidName name = true) (modifier : ModifierRef) (affecting : Nat)
    (triple : ModifierTriple) :
    (entity.addModifier name modifier affecting).storedTimes triple =
      entity.storedTimes triple +
        if triple = (name, modifier.address, affecting) ∧ entity.takesModifiers name = true
          then 1 else 0 := by
  obtain ⟨other, address, affected⟩ := triple
  rw [storedTimes, modifiersOf_addModifier allowed valid]
  by_cases taken : other = name ∧ entity.takesModifiers name = true
  · obtain ⟨rfl, takes⟩ := taken
    simp only [takes, and_self, if_true, countP_append, countP_singleton, storedTimes,
      and_true, Prod.mk.injEq, true_and, decide_eq_true_eq]
    congr 2
    exact propext ⟨fun both => ⟨both.1.symm, both.2.symm⟩, fun both => ⟨both.1.symm, both.2.symm⟩⟩
  · rw [if_neg taken, if_neg, Nat.add_zero, storedTimes]
    rintro ⟨isTriple, takes⟩
    exact taken ⟨congrArg (·.1) isTriple, takes⟩

theorem modifiersFrom_forget (pair : String × Nat) (affecting : Nat) :
    (entity.forgetModifier pair.1 pair.2).modifiersFrom affecting =
      if entity.firstRecorder pair = some affecting then
        (entity.modifiersFrom affecting).erase pair
      else entity.modifiersFrom affecting := by
  unfold forgetModifier firstRecorder
  simp only [contains_eq_mem]
  cases isFound : entity.activeModifiers.toList.find? fun entry => pair ∈ entry.2 with
  | none => simp
  | some entry =>
    obtain ⟨holder, recorded⟩ := entry
    have present := Std.TreeMap.mem_toList_iff_getElem?_eq_some.mp (mem_of_find?_eq_some isFound)
    by_cases same : affecting = holder
    · simp [modifiersFrom, same, present]
    · simp [modifiersFrom, Std.TreeMap.getElem?_insert, Ne.symm same]

theorem mem_of_firstRecorder {entity : LocatedEntity} {pair : String × Nat} {affecting : Nat}
    (isFirst : entity.firstRecorder pair = some affecting) :
    pair ∈ entity.modifiersFrom affecting := by
  obtain ⟨⟨holder, recorded⟩, isFound, rfl⟩ := Option.map_eq_some_iff.mp isFirst
  have present := Std.TreeMap.mem_toList_iff_getElem?_eq_some.mp (mem_of_find?_eq_some isFound)
  have isMember := find?_some isFound
  simpa [modifiersFrom, present] using isMember

theorem count_modifiersFrom_removeModifier (name : String) (modifier : ModifierRef)
    (triple : ModifierTriple) :
    ((entity.removeModifier name modifier).modifiersFrom triple.2.2).count
        (triple.1, triple.2.1) +
        (if (triple.1, triple.2.1) = (name, modifier.address) ∧
          entity.firstRecorder (name, modifier.address) = some triple.2.2 then 1 else 0) =
      (entity.modifiersFrom triple.2.2).count (triple.1, triple.2.1) := by
  obtain ⟨other, address, affected⟩ := triple
  have forgotten : (entity.removeModifier name modifier).modifiersFrom affected =
      (entity.forgetModifier name modifier.address).modifiersFrom affected := by
    unfold modifiersFrom
    rw [removeModifier_activeModifiers]
  rw [forgotten, modifiersFrom_forget entity (name, modifier.address)]
  by_cases isFirst : entity.firstRecorder (name, modifier.address) = some affected
  · have isMember := mem_of_firstRecorder isFirst
    by_cases same : (other, address) = (name, modifier.address)
    · have positive := List.count_pos_iff.mpr isMember
      simp only [isFirst, if_true, same, and_self, count_erase_self]
      omega
    · simp [isFirst, same, count_erase_of_ne same]
  · simp [isFirst]

theorem storedTimes_removeModifier (name : String) (modifier : ModifierRef)
    (triple : ModifierTriple) :
    (entity.removeModifier name modifier).storedTimes triple +
        (if (triple.1, triple.2.1) = (name, modifier.address) ∧
          entity.firstStored (name, modifier.address) = some triple.2.2 then 1 else 0) =
      entity.storedTimes triple := by
  obtain ⟨other, address, affected⟩ := triple
  rw [storedTimes, modifiersOf_removeModifier, storedTimes]
  by_cases isName : other = name
  · subst isName
    rw [if_pos rfl, firstStored]
    cases isFound : (entity.modifiersOf other).find? fun entry =>
        entry.1.address == modifier.address with
    | none =>
      rw [eraseP_of_forall_not (by simpa using isFound)]
      simp
    | some entry =>
      obtain ⟨isModifier, before, after, isList, apart⟩ := List.find?_eq_some_iff_append.mp isFound
      have erased : (entity.modifiersOf other).eraseP
          (fun entry => entry.1.address == modifier.address) = before ++ after := by
        rw [isList, eraseP_append_right _ (by simpa using apart)]
        simp [isModifier]
      rw [erased, isList]
      have isAddress : entry.1.address = modifier.address := beq_iff_eq.mp isModifier
      simp only [countP_append, countP_cons, isAddress, Prod.mk.injEq, true_and,
        map_some, Option.some.injEq, decide_eq_true_eq, Nat.add_assoc]
      simp only [eq_comm (a := address) (b := modifier.address)]
  · simp [isName]

/-- New just if the property takes it. -/
def KeepsViews (entity : LocatedEntity) : PropertyCall → Prop
  | .setDefault _ _ => True
  | .addModifier name modifier affecting =>
    entity.hasFlags entityModifiersNotAllowed = true ∨ PropertyUtil.isValidName name = false ∨
      ((name, modifier.address) ∉ entity.modifiersFrom affecting ↔
        entity.takesModifiers name = true)
  | .removeModifier name modifier =>
    entity.firstRecorder (name, modifier.address) = entity.firstStored (name, modifier.address)

instance (entity : LocatedEntity) : (call : PropertyCall) → Decidable (entity.KeepsViews call)
  | .setDefault _ _ => inferInstanceAs (Decidable True)
  | .addModifier name modifier affecting =>
    inferInstanceAs (Decidable
      (entity.hasFlags entityModifiersNotAllowed = true ∨ PropertyUtil.isValidName name = false ∨
        ((name, modifier.address) ∉ entity.modifiersFrom affecting ↔
          entity.takesModifiers name = true)))
  | .removeModifier name modifier =>
    inferInstanceAs (Decidable (entity.firstRecorder (name, modifier.address) =
      entity.firstStored (name, modifier.address)))

theorem ViewsAgree.setAttr_iff (name : String) (modifier : Option Modifier) :
    (entity.setAttr name modifier).ViewsAgree ↔ entity.ViewsAgree := by
  simp only [viewsAgree_iff, storedTimes, modifiersOf_setAttr, modifiersFrom,
    setAttr_activeModifiers]

section

variable {entity : LocatedEntity} (agree : entity.ViewsAgree)

include agree

theorem ViewsAgree.addModifier_iff (allowed : entity.hasFlags entityModifiersNotAllowed = false)
    (valid : PropertyUtil.isValidName name = true) (modifier : ModifierRef) (affecting : Nat) :
    (entity.addModifier name modifier affecting).ViewsAgree ↔
      ((name, modifier.address) ∉ entity.modifiersFrom affecting ↔
        entity.takesModifiers name = true) := by
  rw [viewsAgree_iff] at agree ⊢
  constructor
  · intro after
    have counts := after name modifier.address affecting
    have recorded := count_modifiersFrom_addModifier allowed valid modifier affecting
      (name, modifier.address, affecting)
    have stored := storedTimes_addModifier allowed valid modifier affecting
      (name, modifier.address, affecting)
    have before := agree name modifier.address affecting
    simp only [true_and] at recorded stored
    rw [recorded, stored, before, Nat.add_left_cancel_iff] at counts
    constructor
    · intro unknown
      by_contra refused
      simp [unknown, refused] at counts
    · intro takes known
      simp [takes, known] at counts
  · intro same other address affected
    have recorded := count_modifiersFrom_addModifier allowed valid modifier affecting
      (other, address, affected)
    have stored := storedTimes_addModifier allowed valid modifier affecting
      (other, address, affected)
    rw [stored, ← agree]
    simp only [same] at recorded
    exact recorded

theorem ViewsAgree.removeModifier_iff (name : String) (modifier : ModifierRef) :
    (entity.removeModifier name modifier).ViewsAgree ↔
      entity.firstRecorder (name, modifier.address) =
        entity.firstStored (name, modifier.address) := by
  rw [viewsAgree_iff] at agree ⊢
  constructor
  · intro after
    ext affecting
    have counts := after name modifier.address affecting
    have recorded := count_modifiersFrom_removeModifier entity name modifier
      (name, modifier.address, affecting)
    have stored := storedTimes_removeModifier entity name modifier
      (name, modifier.address, affecting)
    have before := agree name modifier.address affecting
    simp only [true_and] at recorded stored
    rw [before, ← stored, counts, Nat.add_left_cancel_iff] at recorded
    constructor
    · intro isFirst
      by_contra differs
      simp [isFirst, differs] at recorded
    · intro isFirst
      by_contra differs
      simp [isFirst, differs] at recorded
  · intro same other address affected
    have recorded := count_modifiersFrom_removeModifier entity name modifier
      (other, address, affected)
    have stored := storedTimes_removeModifier entity name modifier (other, address, affected)
    have before := agree other address affected
    simp only [same] at recorded stored
    omega

theorem ViewsAgree.perform_iff (call : PropertyCall) :
    (entity.perform call).ViewsAgree ↔ entity.KeepsViews call := by
  cases call with
  | setDefault name value =>
    exact iff_of_true ((setAttr_iff entity name _).mpr agree) trivial
  | addModifier name modifier affecting =>
    by_cases refused : entity.hasFlags entityModifiersNotAllowed = true
    · simp [perform, addModifier, KeepsViews, refused, agree]
    · by_cases valid : PropertyUtil.isValidName name = true
      · have allowed := Bool.eq_false_iff.mpr refused
        simpa [perform, KeepsViews, allowed, valid] using
          agree.addModifier_iff allowed valid modifier affecting
      · simp [perform, addModifier, KeepsViews, valid, agree]
  | removeModifier name modifier => exact agree.removeModifier_iff name modifier

end

/-- The two views on modifiers agree after every prefix of a run just if each of its calls is right.
-/
theorem run_viewsAgree_iff {entity : LocatedEntity} (agree : entity.ViewsAgree)
    (calls : List PropertyCall) :
    (∀ count, (run perform entity (calls.take count)).ViewsAgree) ↔
      Admissible perform KeepsViews entity calls :=
  run_take_iff ViewsAgree (fun _ call agree => agree.perform_iff call) agree calls

instance (entity : LocatedEntity) : Decidable entity.ViewsAgree :=
  inferInstanceAs (Decidable (List.Perm _ _))

/-- Two entities put a modifier on a property. -/
def sharedModifier : List PropertyCall :=
  [.addModifier "foo" ⟨7, ⟨.append, .int 10⟩⟩ 2, .addModifier "foo" ⟨7, ⟨.append, .int 10⟩⟩ 3,
    .removeModifier "foo" ⟨7, ⟨.append, .int 10⟩⟩]

theorem run_viewsAgree_sharedModifier :
    Admissible perform KeepsViews (plainEntity "foo" (.int 1)) sharedModifier ∧
      (run perform (plainEntity "foo" (.int 1)) (sharedModifier.take 3)).ViewsAgree := by
  have admissible : Admissible perform KeepsViews (plainEntity "foo" (.int 1)) sharedModifier := by
    decide +kernel
  exact ⟨admissible, (run_viewsAgree_iff (by decide +kernel) sharedModifier).mpr admissible 3⟩

/-- Added twice for one entity. -/
theorem run_viewsDiffer :
    (plainEntity "foo" (.int 1)).ViewsAgree ∧
    ¬ (run perform (plainEntity "foo" (.int 1))
      [.addModifier "foo" ⟨7, ⟨.append, .int 10⟩⟩ 2,
        .addModifier "foo" ⟨7, ⟨.append, .int 10⟩⟩ 2]).ViewsAgree ∧
    ¬ (run perform (plainEntity "foo" (.int 1))
      [.addModifier "foo" ⟨7, ⟨.append, .int 10⟩⟩ 3, .addModifier "foo" ⟨7, ⟨.append, .int 10⟩⟩ 2,
        .removeModifier "foo" ⟨7, ⟨.append, .int 10⟩⟩]).ViewsAgree := by
  decide +kernel

end LocatedEntity

end Cyphesis.Rules
