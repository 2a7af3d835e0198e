import Cyphesis.Rules.ModifierStack
import Cyphesis.Rules.Thing

/-!
# Merging attributes

`merge` sets those attributes first that replace a value, then those that change one. It should come
to the same as a `setAttrValue` for each key, but `name!default` is dropped. `Slot` is what the
result of a set depends on.
-/

namespace Cyphesis.Rules

open Cyphesis.Atlas Cyphesis.Common Cyphesis.Foundation List

/-- What a set value depends on. -/
@[ext]
structure Slot where
  modifiers : List (ModifierRef × Nat)
  base : Element
  value : Option Element
  current : Element

namespace Slot

/-- Setting the property. -/
def set (slot : Slot) (modifier : Modifier) : Slot :=
  if slot.modifiers.isEmpty then
    let value := modifier.process slot.current slot.current
    { slot with value := some value, current := value }
  else
    let base := if modifier.type = .default then modifier.value else slot.base
    let value := LocatedEntity.applyModifiers slot.modifiers base (modifier.process base base)
    { slot with base := base, value := some value, current := value }

/-- Changes add up without modifiers. -/
def outcome (slot : Slot) (replaced : Option Element) (relatives : List Modifier) :
    Option Element :=
  if slot.modifiers.isEmpty then
    if replaced.isNone ∧ relatives = [] then slot.value
    else some (relatives.foldl (fun value modifier => modifier.process value value)
      (replaced.getD slot.current))
  else
    let base := replaced.getD slot.base
    match relatives.getLast? with
    | some modifier =>
      some (LocatedEntity.applyModifiers slot.modifiers base (modifier.process base base))
    | none =>
      replaced.elim slot.value fun value =>
        some (LocatedEntity.applyModifiers slot.modifiers value value)

variable {relatives : List Modifier} (slot : Slot)

variable (modifier : Modifier)

@[simp]
theorem set_modifiers : (slot.set modifier).modifiers = slot.modifiers := by
  unfold set
  split <;> rfl

theorem set_set_default (value : Element) :
    (slot.set modifier).set (.createModifier .default value) =
      slot.set (.createModifier .default value) := by
  by_cases empty : slot.modifiers.isEmpty = true
  · simp only [set, empty, if_true]
    rfl
  · simp [set, empty, Modifier.createModifier]

theorem set_set_of_active {slot : Slot} (active : slot.modifiers.isEmpty = false)
    {first second : Modifier} (firstRelative : first.type ≠ .default)
    (secondRelative : second.type ≠ .default) :
    (slot.set first).set second = slot.set second := by
  simp [set, active, firstRelative, secondRelative]

variable (values : List Element)

theorem foldl_set_defaults :
    (values.map (Modifier.createModifier .default)).foldl set slot =
      values.getLast?.elim slot fun value => slot.set (.createModifier .default value) := by
  induction values using List.reverseRecOn with
  | nil => rfl
  | append_singleton values value ih =>
    rw [map_append, foldl_append, ih, getLast?_concat]
    cases values.getLast? with
    | none => rfl
    | some last => exact set_set_default slot _ value

theorem foldl_set_of_active {slot : Slot} (active : slot.modifiers.isEmpty = false)
    (relative : ∀ modifier ∈ relatives, modifier.type ≠ .default) :
    relatives.foldl set slot = relatives.getLast?.elim slot slot.set := by
  induction relatives using List.reverseRecOn with
  | nil => rfl
  | append_singleton earlier modifier ih =>
    have last := relative modifier (by simp)
    rw [foldl_append, ih fun other isEarlier => relative other (by simp [isEarlier]),
      getLast?_concat]
    cases found : earlier.getLast? with
    | none => rfl
    | some other =>
      have isEarlier := mem_of_getLast? found
      exact set_set_of_active active (relative other (by simp [isEarlier])) last

theorem foldl_set_of_empty {slot : Slot} (empty : slot.modifiers.isEmpty = true)
    (relatives : List Modifier) :
    (relatives.foldl set slot).value =
      if relatives = [] then slot.value
      else some (relatives.foldl (fun value modifier => modifier.process value value)
        slot.current) := by
  induction relatives generalizing slot with
  | nil => rfl
  | cons modifier rest ih =>
    rw [foldl_cons, ih (by simpa using empty)]
    cases rest with
    | nil => simp [set, empty]
    | cons next rest => simp [set, empty]

theorem foldl_set_value
    (relative : ∀ modifier ∈ relatives, modifier.type ≠ .default) :
    ((values.map (Modifier.createModifier .default) ++ relatives).foldl set slot).value =
      slot.outcome values.getLast? relatives := by
  rw [foldl_append, foldl_set_defaults]
  unfold outcome
  by_cases empty : slot.modifiers.isEmpty = true
  · cases values.getLast? with
    | none => simp [foldl_set_of_empty empty, empty]
    | some value =>
      rw [Option.elim_some, foldl_set_of_empty (by simpa using empty)]
      by_cases none : relatives = []
      · simp [none, set, empty, Modifier.createModifier, Modifier.process, DefaultModifier.process]
      · simp [none, set, empty, Modifier.createModifier, Modifier.process, DefaultModifier.process]
  · have active := Bool.eq_false_iff.mpr empty
    cases values.getLast? with
    | none =>
      rw [Option.elim_none, foldl_set_of_active active relative]
      cases found : relatives.getLast? with
      | none => simp [active]
      | some modifier =>
        have isRelative := relative modifier (mem_of_getLast? found)
        simp [active, set, isRelative]
    | some value =>
      rw [Option.elim_some, foldl_set_of_active (by simpa using active) relative]
      cases found : relatives.getLast? with
      | none => simp [active, set, Modifier.createModifier, Modifier.process,
          DefaultModifier.process]
      | some modifier =>
        have isRelative := relative modifier (mem_of_getLast? found)
        simp [active, set, isRelative, Modifier.createModifier]

end Slot

namespace LocatedEntity

/-- What its value depends on. -/
def slot (entity : LocatedEntity) (name : String) : Slot where
  modifiers := entity.modifiersOf name
  base := (entity.properties[name]?.getD .empty).baseValue
  value := entity.getAttr name
  current := (entity.propertyForSet name).get

variable {name : String} (entity : LocatedEntity)

theorem modifiersOf_eq_getD (name : String) :
    entity.modifiersOf name = (entity.properties[name]?.getD .empty).modifiers := by
  unfold modifiersOf
  cases entity.properties[name]? <;> rfl

theorem slot_of_getElem? {entity : LocatedEntity} {entry : ModifiableProperty}
    {property : SoftProperty} (found : entity.properties[name]? = some entry)
    (isProperty : entry.property = some property) :
    entity.slot name = ⟨entry.modifiers, entry.baseValue, some property.get, property.get⟩ := by
  simp [slot, modifiersOf, getAttr, propertyForSet, found, isProperty]

theorem slot_setAttr (valid : PropertyUtil.isValidName name = true) (modifier : Modifier) :
    (entity.setAttr name (some modifier)).slot name = (entity.slot name).set modifier := by
  have found := entity.setAttr_getElem?_self (some modifier) valid
  have value : newValue (entity.properties[name]?.getD .empty) (entity.propertyForSet name)
      (some modifier) = (((entity.slot name).set modifier).current,
        ((entity.slot name).set modifier).base) := by
    simp only [newValue, slot, Slot.set, modifiersOf_eq_getD]
    by_cases empty : (entity.properties[name]?.getD .empty).modifiers.isEmpty = true
    · by_cases isDefault : modifier.type = .default
      · simp [empty, isDefault, Modifier.process, DefaultModifier.process]
      · simp [empty, isDefault]
    · by_cases isDefault : modifier.type = .default
      · simp [empty, isDefault, Modifier.process, DefaultModifier.process]
      · simp [empty, isDefault]
  have isSome : ((entity.slot name).set modifier).value =
      some ((entity.slot name).set modifier).current := by
    unfold Slot.set
    split <;> rfl
  have modifiers : ((entity.slot name).set modifier).modifiers = entity.modifiersOf name :=
    Slot.set_modifiers _ modifier
  rw [slot_of_getElem? found rfl]
  refine Slot.ext ?_ ?_ ?_ ?_
  · exact (entity.settledEntry_modifiers name (some modifier)).trans modifiers.symm
  · exact congrArg Prod.snd value
  · rw [isSome]
    exact congrArg some (congrArg Prod.fst value)
  · exact congrArg Prod.fst value

theorem slot_setAttr_of_ne {name other : String} (modifier : Option Modifier)
    (different : other ≠ name) :
    (entity.setAttr other modifier).slot name = entity.slot name := by
  have same := entity.setAttr_getElem?_of_ne modifier different
  simp only [slot, modifiersOf, getAttr, propertyForSet, same, setAttr_typeDefault]

/-- Set one attribute after the other. -/
def setAll (entity : LocatedEntity) (settings : List (String × Modifier)) : LocatedEntity :=
  settings.foldl (fun current setting => current.setAttr setting.1 (some setting.2)) entity

/-- Settings of one property. -/
def settingsFor (name : String) (settings : List (String × Modifier)) : List Modifier :=
  (settings.filter (·.1 = name)).map (·.2)

theorem slot_setAll (valid : PropertyUtil.isValidName name = true)
    (settings : List (String × Modifier)) :
    (entity.setAll settings).slot name =
      (settingsFor name settings).foldl Slot.set (entity.slot name) := by
  induction settings generalizing entity with
  | nil => rfl
  | cons setting rest ih =>
    rw [setAll, foldl_cons]
    refine (ih _).trans ?_
    by_cases same : setting.1 = name
    · rw [same, slot_setAttr entity valid, settingsFor, settingsFor,
        filter_cons_of_pos (by simpa using same)]
      rfl
    · rw [slot_setAttr_of_ne entity _ same, settingsFor, settingsFor,
        filter_cons_of_neg (by simpa using same)]

theorem slot_setAll_of_invalid (invalid : PropertyUtil.isValidName name = false)
    (settings : List (String × Modifier)) :
    (entity.setAll settings).slot name = entity.slot name := by
  induction settings generalizing entity with
  | nil => rfl
  | cons setting rest ih =>
    rw [setAll, foldl_cons]
    refine (ih _).trans ?_
    by_cases same : setting.1 = name
    · rw [setAttr, same, invalid, if_neg Bool.false_ne_true]
    · exact slot_setAttr_of_ne entity _ same

variable (pair : String × Element)

/-- Keys that `merge` looks at. -/
def isMergeable : Bool :=
  pair.1 ≠ "" && (PropertyUtil.parsePropertyModification pair.1).2 ∉ immutables

/-- The key replaces a value. -/
def replaces : Bool :=
  (PropertyUtil.parsePropertyModification pair.1).1 = .default

/-- The setting a key stands for. -/
def settingOf : String × Modifier :=
  let parsed := PropertyUtil.parsePropertyModification pair.1
  (parsed.2, .createModifier parsed.1 pair.2)

/-- `setAttrValue` for each key, replacing ones first. -/
def mergePerKey (entity : LocatedEntity) (attributes : List (String × Element)) :
    LocatedEntity :=
  let allowed := attributes.filter fun pair =>
    (PropertyUtil.parsePropertyModification pair.1).2 ∉ immutables
  (allowed.filter replaces ++ allowed.filter fun pair => !replaces pair).foldl
    (fun current pair => current.setAttrValue pair.1 pair.2) entity

/-- The values that keys of the plain name have. -/
def plainValues (name : String) (attributes : List (String × Element)) : List Element :=
  (attributes.filter (·.1 = name)).map (·.2)

/-- The values in a message that replace the value of a property. -/
def replacingValues (name : String) (attributes : List (String × Element)) : List Element :=
  (attributes.filter fun pair =>
    PropertyUtil.parsePropertyModification pair.1 = (.default, name)).map (·.2)

/-- Relative changes of a property. -/
def relativeChanges (name : String) (attributes : List (String × Element)) : List Modifier :=
  (attributes.filter fun pair =>
    (settingOf pair).1 = name && !replaces pair).map fun pair => (settingOf pair).2

variable (attributes : List (String × Element))

theorem merge_eq_setAll :
    entity.merge attributes = entity.setAll
      (((attributes.filter isMergeable).filter replaces).map
          (fun pair => (pair.1, Modifier.createModifier .default pair.2)) ++
        ((attributes.filter isMergeable).filter fun pair => !replaces pair).map settingOf) := by
  unfold merge setAll
  rw [foldl_append, foldl_map, foldl_map]
  have isMergeable_eq : isMergeable = fun pair : String × Element =>
      pair.1 ≠ "" && (PropertyUtil.parsePropertyModification pair.1).2 ∉ immutables := rfl
  have replaces_eq : replaces = fun pair : String × Element =>
      decide ((PropertyUtil.parsePropertyModification pair.1).1 = .default) := rfl
  rw [isMergeable_eq, replaces_eq]
  simp only [settingOf, decide_not]

theorem mergePerKey_eq_setAll :
    entity.mergePerKey attributes = entity.setAll
      (((attributes.filter fun pair =>
            (PropertyUtil.parsePropertyModification pair.1).2 ∉ immutables).filter replaces ++
        (attributes.filter fun pair =>
            (PropertyUtil.parsePropertyModification pair.1).2 ∉ immutables).filter
          fun pair => !replaces pair).map settingOf) := by
  unfold mergePerKey setAll
  rw [foldl_map]
  rfl

theorem settingsFor_append (name : String) (first second : List (String × Modifier)) :
    settingsFor name (first ++ second) = settingsFor name first ++ settingsFor name second := by
  simp [settingsFor]

theorem settingsFor_map_filter {attributes : List (String × Element)}
    {setting : String × Element → String × Modifier} {chosen wanted : String × Element → Bool}
    (same : ∀ pair, ((setting pair).1 = name ∧ chosen pair = true) ↔ wanted pair = true) :
    settingsFor name ((attributes.filter chosen).map setting) =
      (attributes.filter wanted).map fun pair => (setting pair).2 := by
  rw [settingsFor, filter_map, filter_filter, map_map]
  congr 1
  refine filter_congr fun pair _ => ?_
  rw [Bool.eq_iff_iff, ← same pair]
  simp

theorem ne_empty_of_isValidName (valid : PropertyUtil.isValidName name = true) : name ≠ "" := by
  rintro rfl
  exact absurd valid (by decide)

theorem settingsFor_merge_replacing (valid : PropertyUtil.isValidName name = true)
    (mutable : name ∉ immutables) (attributes : List (String × Element)) :
    settingsFor name (((attributes.filter isMergeable).filter replaces).map
        fun pair => (pair.1, Modifier.createModifier .default pair.2)) =
      (plainValues name attributes).map (Modifier.createModifier .default) := by
  rw [filter_filter, plainValues, map_map]
  refine settingsFor_map_filter ?_
  rintro ⟨key, value⟩
  simp only [Bool.and_eq_true, decide_eq_true_eq]
  constructor
  · exact fun both => both.1
  · rintro rfl
    simp [isMergeable, replaces, PropertyUtil.parsePropertyModification_of_isValidName valid,
      ne_empty_of_isValidName valid, mutable]

theorem settingsFor_perKey_replacing (mutable : name ∉ immutables)
    (attributes : List (String × Element)) :
    settingsFor name (((attributes.filter fun pair =>
        (PropertyUtil.parsePropertyModification pair.1).2 ∉ immutables).filter replaces).map
          settingOf) =
      (replacingValues name attributes).map (Modifier.createModifier .default) := by
  have same : ∀ pair : String × Element, ((settingOf pair).1 = name ∧
      (replaces pair && decide ((PropertyUtil.parsePropertyModification pair.1).2 ∉ immutables)) =
        true) ↔
      decide (PropertyUtil.parsePropertyModification pair.1 = (.default, name)) = true := by
    intro pair
    simp only [settingOf, replaces, Bool.and_eq_true, decide_eq_true_eq, Prod.ext_iff]
    constructor
    · exact fun both => ⟨both.2.1, both.1⟩
    · exact fun both => ⟨both.2, both.1, both.2 ▸ mutable⟩
  rw [filter_filter, settingsFor_map_filter same, replacingValues, map_map]
  refine map_congr_left fun pair isMember => ?_
  have parsed := of_decide_eq_true (List.mem_filter.mp isMember).2
  simp [settingOf, parsed]

theorem settingsFor_perKey_relative (mutable : name ∉ immutables)
    (attributes : List (String × Element)) :
    settingsFor name (((attributes.filter fun pair =>
        (PropertyUtil.parsePropertyModification pair.1).2 ∉ immutables).filter
          fun pair => !replaces pair).map settingOf) =
      relativeChanges name attributes := by
  rw [filter_filter, relativeChanges]
  refine settingsFor_map_filter ?_
  intro pair
  simp only [Bool.and_eq_true, decide_eq_true_eq]
  constructor
  · exact fun both => ⟨both.1, both.2.1⟩
  · rintro ⟨isName, relative⟩
    have notImmutable : (PropertyUtil.parsePropertyModification pair.1).2 ∉ immutables := by
      rw [show (PropertyUtil.parsePropertyModification pair.1).2 = name from isName]
      exact mutable
    exact ⟨isName, relative, notImmutable⟩

theorem settingsFor_merge_relative (valid : PropertyUtil.isValidName name = true)
    (mutable : name ∉ immutables) (attributes : List (String × Element)) :
    settingsFor name (((attributes.filter isMergeable).filter fun pair => !replaces pair).map
        settingOf) =
      relativeChanges name attributes := by
  rw [filter_filter, relativeChanges]
  refine settingsFor_map_filter ?_
  intro pair
  simp only [Bool.and_eq_true, decide_eq_true_eq]
  constructor
  · exact fun both => ⟨both.1, both.2.1⟩
  · rintro ⟨isName, relative⟩
    refine ⟨isName, relative, ?_⟩
    have parsed : (PropertyUtil.parsePropertyModification pair.1).2 = name := isName
    simp only [isMergeable, parsed, mutable, not_false_eq_true, decide_true, Bool.and_true,
      decide_eq_true_eq]
    rintro empty
    rw [empty] at parsed
    exact ne_empty_of_isValidName valid (parsed.symm.trans (by decide))

theorem relativeChanges_type {attributes : List (String × Element)} :
    ∀ modifier ∈ relativeChanges name attributes, modifier.type ≠ .default := by
  intro modifier isMember
  obtain ⟨pair, isPair, rfl⟩ := List.mem_map.mp isMember
  have relative := (Bool.and_eq_true _ _ ▸ (List.mem_filter.mp isPair).2).2
  simpa [replaces, settingOf, Modifier.createModifier] using relative

section

variable (valid : PropertyUtil.isValidName name = true) (mutable : name ∉ immutables)

include valid mutable

theorem getAttr_merge
    (attributes : List (String × Element)) :
    (entity.merge attributes).getAttr name =
      (entity.slot name).outcome (plainValues name attributes).getLast?
        (relativeChanges name attributes) := by
  have settings := entity.slot_setAll valid
    (((attributes.filter isMergeable).filter replaces).map
          (fun pair => (pair.1, Modifier.createModifier .default pair.2)) ++
        ((attributes.filter isMergeable).filter fun pair => !replaces pair).map settingOf)
  rw [← merge_eq_setAll, settingsFor_append, settingsFor_merge_replacing valid mutable,
    settingsFor_merge_relative valid mutable] at settings
  rw [← Slot.foldl_set_value _ _ relativeChanges_type, ← settings]
  rfl

theorem getAttr_mergePerKey (attributes : List (String × Element)) :
    (entity.mergePerKey attributes).getAttr name =
      (entity.slot name).outcome (replacingValues name attributes).getLast?
        (relativeChanges name attributes) := by
  have slots : (entity.mergePerKey attributes).slot name =
      ((replacingValues name attributes).map (Modifier.createModifier .default) ++
        relativeChanges name attributes).foldl Slot.set (entity.slot name) := by
    rw [mergePerKey_eq_setAll, entity.slot_setAll valid, map_append, settingsFor_append,
      settingsFor_perKey_replacing mutable, settingsFor_perKey_relative mutable]
  rw [← Slot.foldl_set_value _ _ relativeChanges_type, ← slots]
  rfl

end

theorem slot_setAll_of_forall_ne {settings : List (String × Modifier)}
    (others : ∀ setting ∈ settings, setting.1 ≠ name) :
    (entity.setAll settings).slot name = entity.slot name := by
  induction settings generalizing entity with
  | nil => rfl
  | cons setting rest ih =>
    rw [setAll, foldl_cons]
    refine (ih _ fun other isRest => others other (mem_cons_of_mem _ isRest)).trans ?_
    exact slot_setAttr_of_ne entity _ (others setting mem_cons_self)

section

variable (immutable : name ∈ immutables)

include immutable

theorem isValidName_of_mem_immutables : PropertyUtil.isValidName name = true := by
  revert name
  decide

theorem slot_merge_of_immutable
    (attributes : List (String × Element)) :
    (entity.merge attributes).slot name = entity.slot name := by
  rw [merge_eq_setAll]
  refine slot_setAll_of_forall_ne entity ?_
  rintro setting isSetting rfl
  rcases List.mem_append.mp isSetting with isReplacing | isRelative
  · obtain ⟨pair, isPair, rfl⟩ := List.mem_map.mp isReplacing
    have mergeable := (List.mem_filter.mp (List.mem_filter.mp isPair).1).2
    have valid := isValidName_of_mem_immutables immutable
    simp [isMergeable, PropertyUtil.parsePropertyModification_of_isValidName valid, immutable]
      at mergeable
  · obtain ⟨pair, isPair, rfl⟩ := List.mem_map.mp isRelative
    have mergeable := (List.mem_filter.mp (List.mem_filter.mp isPair).1).2
    have parsed : (PropertyUtil.parsePropertyModification pair.1).2 ∈ immutables := immutable
    simp [isMergeable, parsed] at mergeable

theorem slot_mergePerKey_of_immutable
    (attributes : List (String × Element)) :
    (entity.mergePerKey attributes).slot name = entity.slot name := by
  rw [mergePerKey_eq_setAll]
  refine slot_setAll_of_forall_ne entity ?_
  rintro setting isSetting rfl
  obtain ⟨pair, isPair, rfl⟩ := List.mem_map.mp isSetting
  have isAllowed : pair ∈ attributes.filter fun pair =>
      (PropertyUtil.parsePropertyModification pair.1).2 ∉ immutables := by
    rcases List.mem_append.mp isPair with isReplacing | isRelative
    · exact (List.mem_filter.mp isReplacing).1
    · exact (List.mem_filter.mp isRelative).1
  exact of_decide_eq_true (List.mem_filter.mp isAllowed).2 immutable

end

/-- `name` and `name!default` agree. -/
def ReplacementsAgree (entity : LocatedEntity) (attributes : List (String × Element)) : Prop :=
  ∀ name, PropertyUtil.isValidName name = true → name ∉ immutables →
    (entity.slot name).outcome (plainValues name attributes).getLast?
        (relativeChanges name attributes) =
      (entity.slot name).outcome (replacingValues name attributes).getLast?
        (relativeChanges name attributes)

/-- Merging attributes is merging them key by key, just if the last plain value and the last
relative one of each key come to the same. -/
theorem merge_eq_perKey_iff (entity : LocatedEntity) (attributes : List (String × Element)) :
    ((∀ name, (entity.merge attributes).getAttr name =
        (entity.mergePerKey attributes).getAttr name) ∧
      ∀ name ∈ immutables, (entity.merge attributes).attr name = entity.attr name) ↔
      entity.ReplacementsAgree attributes := by
  constructor
  · rintro ⟨same, -⟩ name valid mutable
    rw [← getAttr_merge entity valid mutable, ← getAttr_mergePerKey entity valid mutable]
    exact same name
  · intro agree
    constructor
    · intro name
      by_cases immutable : name ∈ immutables
      · have slots := (entity.slot_merge_of_immutable immutable attributes).trans
          (entity.slot_mergePerKey_of_immutable immutable attributes).symm
        exact congrArg Slot.value slots
      · by_cases valid : PropertyUtil.isValidName name = true
        · rw [getAttr_merge entity valid immutable, getAttr_mergePerKey entity valid immutable]
          exact agree name valid immutable
        · have invalid := Bool.eq_false_iff.mpr valid
          have merged := entity.slot_setAll_of_invalid invalid
          rw [merge_eq_setAll, mergePerKey_eq_setAll]
          exact congrArg Slot.value ((merged _).trans (merged _).symm)
    · intro name immutable
      have slots := entity.slot_merge_of_immutable immutable attributes
      have parent := (merge_touched entity attributes).parent
      unfold attr locValue
      rw [parent]
      split
      · rfl
      · exact congrArg Slot.value slots

/-- `foo!default` is dropped. -/
theorem merge_drops_default :
    ((plainEntity "foo" (.int 1)).merge [("foo!default", .int 5)]).getAttr "foo" ≠
      ((plainEntity "foo" (.int 1)).mergePerKey [("foo!default", .int 5)]).getAttr "foo" := by
  have merged : ((plainEntity "foo" (.int 1)).merge [("foo!default", .int 5)]).getAttr "foo" =
      some (.int 1) := by rfl
  have perKey : ((plainEntity "foo" (.int 1)).mergePerKey [("foo!default", .int 5)]).getAttr
      "foo" = some (.int 5) := by rfl
  rw [merged, perKey]
  simp

end LocatedEntity

end Cyphesis.Rules
