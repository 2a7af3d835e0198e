import Cyphesis.Rules.ModifierViews
import Cyphesis.Rules.Thing

/-!
# Properties that do not take modifiers

A property that does not take modifiers should keep its value whatever they do.
-/

namespace Cyphesis.Rules

open Cyphesis.Atlas Cyphesis.Common Cyphesis.Foundation List Option

namespace LocatedEntity

/-- No modifier is added to the property. -/
def Refuses (entity : LocatedEntity) (name : String) : Prop :=
  entity.hasFlags entityModifiersNotAllowed = true ∨ PropertyUtil.isValidName name = false ∨
    entity.takesModifiers name = false

/-- What is left without these. -/
def withoutModifiers (addresses : List Nat) (modifiers : List (ModifierRef × Nat)) :
    List (ModifierRef × Nat) :=
  addresses.foldl (fun rest address => rest.eraseP (·.1.address == address)) modifiers

/-- Fewer modifiers give the same value. -/
def Settled (entry : ModifiableProperty) : Prop :=
  ∀ addresses, withoutModifiers addresses entry.modifiers ≠ entry.modifiers →
    entry.property.map SoftProperty.get =
      some (applyModifiers (withoutModifiers addresses entry.modifiers) entry.baseValue
        entry.baseValue)

/-- Refusing modifiers, without any. -/
structure Shielded (entity : LocatedEntity) (name : String) : Prop where
  refuses : entity.Refuses name
  settled : ∀ entry, entity.properties[name]? = some entry → Settled entry

variable {name : String} {entity : LocatedEntity} {addresses : List Nat}

theorem addModifier_properties_of_refuses (refuses : entity.Refuses name) (modifier : ModifierRef)
    (affecting : Nat) :
    (entity.addModifier name modifier affecting).properties = entity.properties := by
  unfold addModifier
  split
  · rfl
  · rename_i allowed
    split
    · rename_i valid
      have refused : entity.takesModifiers name = false := by
        rcases refuses with entityRefuses | invalid | refused
        · exact absurd entityRefuses allowed
        · rw [invalid] at valid
          contradiction
        · exact refused
      simp only [recordModifier_properties, recordModifier_typeDefault]
      unfold takesModifiers at refused
      cases found : entity.properties[name]? with
      | some entry =>
        simp only [found, Bool.not_eq_false'] at refused
        simp [refused]
      | none =>
        cases isDefault : entity.typeDefault name with
        | none => simp [found, isDefault] at refused
        | some property =>
          simp only [found, isDefault, map_some, getD_some, Bool.not_eq_false'] at refused
          simp [refused]
    · rfl

/-- What removals have left of an entry. -/
structure LeftOf (addresses : List Nat) (entry current : ModifiableProperty) : Prop where
  modifiers : current.modifiers = withoutModifiers addresses entry.modifiers
  baseValue : current.baseValue = entry.baseValue
  flag : (entry.property.map (·.hasFlags propFlagModifiersNotAllowed)).getD false = true →
    (current.property.map (·.hasFlags propFlagModifiersNotAllowed)).getD false = true
  value : current = entry ∨ current.property.map SoftProperty.get =
    some (applyModifiers current.modifiers entry.baseValue entry.baseValue)
  same : current.modifiers = entry.modifiers → current = entry

/-- The property is as it was, without the modifiers that were removed. -/
structure Remains (name : String) (addresses : List Nat) (entity state : LocatedEntity) :
    Prop where
  flag : state.hasFlags entityModifiersNotAllowed = entity.hasFlags entityModifiersNotAllowed
  default : state.typeDefault name = entity.typeDefault name
  named : state.ModifiersNamed
  absent : entity.properties[name]? = none → state.properties[name]? = none
  present : ∀ entry, entity.properties[name]? = some entry →
    ∃ current, state.properties[name]? = some current ∧ LeftOf addresses entry current

theorem Remains.refl (named : entity.ModifiersNamed) (name : String) :
    Remains name [] entity entity where
  flag := rfl
  default := rfl
  named := named
  absent missing := missing
  present entry found := ⟨entry, found, rfl, rfl, fun flagged => flagged, .inl rfl, fun _ => rfl⟩

theorem length_withoutModifiers_le (addresses : List Nat) (modifiers : List (ModifierRef × Nat)) :
    (withoutModifiers addresses modifiers).length ≤ modifiers.length := by
  induction addresses generalizing modifiers with
  | nil => exact Nat.le_refl _
  | cons address rest ih => exact (ih _).trans length_eraseP_le

theorem withoutModifiers_append (addresses more : List Nat)
    (modifiers : List (ModifierRef × Nat)) :
    withoutModifiers (addresses ++ more) modifiers =
      withoutModifiers more (withoutModifiers addresses modifiers) :=
  foldl_append

theorem LeftOf.remove {entry current : ModifiableProperty} {address : Nat} {state : LocatedEntity}
    (left : LeftOf addresses entry current)
    (active : current.modifiers.any (·.1.address == address) = true)
    (found : state.properties[name]? = some
      { current with modifiers := current.modifiers.eraseP (·.1.address == address) }) :
    LeftOf (addresses ++ [address]) entry
      (state.settledEntry name (some (.createModifier .default current.baseValue))) := by
  have isList : state.modifiersOf name =
      current.modifiers.eraseP (·.1.address == address) := modifiersOf_of_getElem? found
  have modifiers : (state.settledEntry name
      (some (.createModifier .default current.baseValue))).modifiers =
        current.modifiers.eraseP (·.1.address == address) :=
    (state.settledEntry_modifiers name _).trans isList
  obtain ⟨property, isProperty, get, allows⟩ := state.settledEntry_default name current.baseValue
  constructor
  · rw [modifiers, left.modifiers, withoutModifiers_append]
    rfl
  · rw [← left.baseValue]
    simp only [settledEntry, newValue, found, getD_some, Modifier.createModifier, if_true]
    split <;> rfl
  · intro flagged
    have still := left.flag flagged
    rw [isProperty, map_some, getD_some, allows]
    cases isCurrent : current.property with
    | none => simp [isCurrent] at still
    | some own =>
      have forSet : state.propertyForSet name = own := by
        simp [propertyForSet, found, isCurrent]
      rw [forSet]
      simpa [isCurrent] using still
  · right
    rw [isProperty, map_some, get, isList, modifiers, left.baseValue]
  · intro same
    obtain ⟨removed, isMember, isAddress⟩ := List.any_eq_true.mp active
    have shorter : (current.modifiers.eraseP (·.1.address == address)).length =
        current.modifiers.length - 1 := length_eraseP_of_mem isMember isAddress
    have positive := length_pos_of_mem isMember
    have atMost := length_withoutModifiers_le addresses entry.modifiers
    rw [← left.modifiers] at atMost
    rw [modifiers] at same
    rw [same] at shorter
    omega

theorem Remains.frame {entity state next : LocatedEntity}
    (remains : Remains name addresses entity state) (same : SameProperty name state next)
    (named : next.ModifiersNamed) : Remains name addresses entity next where
  flag := same.flag.trans remains.flag
  default := same.default.trans remains.default
  named := named
  absent missing := same.entry.trans (remains.absent missing)
  present entry found := by
    obtain ⟨current, isCurrent, left⟩ := remains.present entry found
    exact ⟨current, same.entry.trans isCurrent, left⟩

theorem Remains.refuses {entity state : LocatedEntity}
    (remains : Remains name addresses entity state) (refuses : entity.Refuses name) :
    state.Refuses name := by
  rcases refuses with entityRefuses | invalid | refused
  · exact .inl (remains.flag.trans entityRefuses)
  · exact .inr (.inl invalid)
  · refine .inr (.inr ?_)
    unfold takesModifiers at refused ⊢
    cases found : entity.properties[name]? with
    | none =>
      rw [found] at refused
      rw [remains.absent found, remains.default]
      exact refused
    | some entry =>
      obtain ⟨current, isCurrent, left⟩ := remains.present entry found
      simp only [found, Bool.not_eq_false'] at refused
      simp only [isCurrent, Bool.not_eq_false']
      exact left.flag refused

theorem Remains.addModifier {entity state : LocatedEntity}
    (remains : Remains name addresses entity state) (refuses : entity.Refuses name)
    (target : String) (modifier : ModifierRef) (affecting : Nat) :
    Remains name addresses entity (state.addModifier target modifier affecting) := by
  have requested := addModifier_requested state target modifier affecting
  have named := requested.touched.named remains.named
  by_cases different : target = name
  · subst different
    have properties :=
        addModifier_properties_of_refuses (remains.refuses refuses) modifier affecting
    refine remains.frame ⟨by rw [properties], ?_, ?_⟩ named
    · rw [typeDefault, requested.touched.type, typeDefault]
    · exact requested.touched.flags _ (by decide)
  · exact remains.frame (SameProperty.addModifier state different modifier affecting) named

variable {state : LocatedEntity}

theorem sameProperty_removeModifier (named : state.ModifiersNamed)
    {name target : String} (different : target ≠ name) (modifier : ModifierRef) :
    SameProperty name state (state.removeModifier target modifier) := by
  by_cases valid : PropertyUtil.isValidName target = true
  · exact SameProperty.removeModifier state different valid modifier
  · have forgotten : SameProperty name state (state.forgetModifier target modifier.address) :=
      SameProperty.forgetModifier state modifier.address
    unfold removeModifier
    dsimp only
    split
    · exact forgotten
    · rename_i entry found
      rw [forgetModifier_properties] at found
      have empty : entry.modifiers = [] := by
        by_contra active
        exact valid (named target entry found active)
      simpa [empty] using forgotten

theorem removeModifier_getElem?_of_active {current : ModifiableProperty}
    {modifier : ModifierRef} (isCurrent : state.properties[name]? = some current)
    (active : current.modifiers.any (·.1.address == modifier.address) = true)
    (valid : PropertyUtil.isValidName name = true) :
    ∃ prepared : LocatedEntity,
      prepared.properties[name]? = some
        { current with
          modifiers := current.modifiers.eraseP (·.1.address == modifier.address) } ∧
      (state.removeModifier name modifier).properties[name]? = some
        (prepared.settledEntry name (some (.createModifier .default current.baseValue))) := by
  refine ⟨{ state.forgetModifier name modifier.address with
    properties := (state.forgetModifier name modifier.address).properties.insert name
      { current with
        modifiers := current.modifiers.eraseP (·.1.address == modifier.address) } }, ?_, ?_⟩
  · exact Std.TreeMap.getElem?_insert_self
  · have forgotten : (state.forgetModifier name modifier.address).properties[name]? =
        some current := by
      rw [forgetModifier_properties]
      exact isCurrent
    unfold LocatedEntity.removeModifier
    simp only [forgotten, active, if_true, enqueueUpdateOp_properties]
    rw [setAttrValue_of_isValidName _ _ valid, setAttr_getElem?_self _ _ valid]

section

variable (remains : Remains name addresses entity state)

include remains

theorem Remains.removeModifier (modifier : ModifierRef) :
    Remains name (addresses ++ [modifier.address]) entity (state.removeModifier name modifier) := by
  have requested := removeModifier_requested remains.named name modifier
  refine ⟨?_, ?_, requested.touched.named remains.named, ?_, ?_⟩
  · exact (requested.touched.flags _ (by decide)).trans remains.flag
  · rw [typeDefault, requested.touched.type, ← remains.default, typeDefault]
  · intro missing
    have stillMissing := remains.absent missing
    simp [LocatedEntity.removeModifier, stillMissing]
  · intro entry found
    obtain ⟨current, isCurrent, left⟩ := remains.present entry found
    by_cases active : current.modifiers.any (·.1.address == modifier.address) = true
    · have valid : PropertyUtil.isValidName name = true := by
        refine remains.named name current isCurrent ?_
        rintro empty
        simp [empty] at active
      obtain ⟨prepared, isPrepared, set⟩ := removeModifier_getElem?_of_active isCurrent active valid
      exact ⟨_, set, left.remove active isPrepared⟩
    · refine ⟨current, ?_, ?_⟩
      · simp [LocatedEntity.removeModifier, isCurrent, active]
      · have unchanged : current.modifiers =
            withoutModifiers (addresses ++ [modifier.address]) entry.modifiers := by
          rw [withoutModifiers_append, ← left.modifiers]
          refine (eraseP_of_forall_not ?_).symm
          intro candidate isMember same
          exact active (List.any_eq_true.mpr ⟨candidate, isMember, same⟩)
        exact ⟨unchanged, left.baseValue, left.flag, left.value, left.same⟩

theorem Remains.getAttr_eq
    (settled : ∀ entry, entity.properties[name]? = some entry → Settled entry) :
    state.getAttr name = entity.getAttr name := by
  unfold getAttr
  cases found : entity.properties[name]? with
  | none => simp only [remains.absent found, remains.default]
  | some entry =>
    obtain ⟨current, isCurrent, left⟩ := remains.present entry found
    simp only [isCurrent]
    by_cases same : current = entry
    · rw [same]
    · have fewer : withoutModifiers addresses entry.modifiers ≠ entry.modifiers := by
        rw [← left.modifiers]
        exact fun unchanged => same (left.same unchanged)
      rw [left.value.resolve_left same, settled entry found addresses fewer, left.modifiers]

end

theorem remains_run (named : entity.ModifiersNamed) (refuses : entity.Refuses name)
    (calls : List PropertyCall) (changes : ∀ call ∈ calls, call.changesModifiers = true) :
    ∃ addresses, Remains name addresses entity (run perform entity calls) := by
  refine run_invariant_of_mem (fun state => ∃ addresses, Remains name addresses entity state)
    calls ?_ ⟨[], Remains.refl named name⟩
  rintro state call isCall ⟨addresses, remains⟩
  cases call with
  | setDefault target value => exact absurd (changes _ isCall) Bool.false_ne_true
  | addModifier target modifier affecting =>
    exact ⟨addresses, remains.addModifier refuses target modifier affecting⟩
  | removeModifier target modifier =>
    by_cases different : target = name
    · subst different
      exact ⟨_, remains.removeModifier modifier⟩
    · have requested := removeModifier_requested remains.named target modifier
      exact ⟨addresses, remains.frame
        (sameProperty_removeModifier remains.named different modifier)
        (requested.touched.named remains.named)⟩

/-- Removals of these addresses. -/
def removals (name : String) (addresses : List Nat) : List PropertyCall :=
  addresses.map fun address => .removeModifier name ⟨address, .createModifier .default .none⟩

theorem remains_removals (named : entity.ModifiersNamed) (addresses : List Nat) :
    Remains name addresses entity (run perform entity (removals name addresses)) := by
  induction addresses using List.reverseRecOn with
  | nil => exact Remains.refl named name
  | append_singleton addresses address ih =>
    rw [removals, map_append, run_append]
    exact ih.removeModifier ⟨address, .createModifier .default .none⟩

section

variable {entry : ModifiableProperty} {value : Element} {rest : List (ModifierRef × Nat)}
  {address affecting : Nat}

theorem newValue_of_default_last
    (isList : entry.modifiers = rest ++ [(⟨address, .createModifier .default value⟩, affecting)])
    (property : SoftProperty) (modifier : Option Modifier) :
    (newValue entry property modifier).1 = value := by
  have decided (base start : Element) : applyModifiers entry.modifiers base start = value := by
    rw [applyModifiers, isList, foldl_append]
    rfl
  have active : entry.modifiers.isEmpty = false := by simp [isList]
  unfold newValue
  rw [active, if_neg Bool.false_ne_true]
  cases modifier with
  | none => exact decided _ _
  | some modifier =>
    dsimp only
    split
    · exact decided _ _
    · exact decided _ _

theorem getAttr_setAttr_of_default_last {changed : LocatedEntity}
    (valid : PropertyUtil.isValidName name = true) (found : changed.properties[name]? = some entry)
    (isList : entry.modifiers = rest ++ [(⟨address, .createModifier .default value⟩, affecting)])
    (modifier : Option Modifier) :
    (changed.setAttr name modifier).enqueueUpdateOp.getAttr name = some value := by
  rw [getAttr, enqueueUpdateOp_properties, setAttr_getElem?_self changed modifier valid]
  simp only [settledEntry, found, getD_some, map_some, SoftProperty.get_addFlags,
    SoftProperty.get_set, Option.some.injEq]
  exact newValue_of_default_last isList _ modifier

end

theorem getAttr_addModifier_default (accepts : ¬ entity.Refuses name) (value : Element) :
    (entity.addModifier name ⟨0, .createModifier .default value⟩ 0).getAttr name = some value := by
  unfold Refuses at accepts
  push Not at accepts
  obtain ⟨allowed, valid, takes⟩ := accepts
  rw [ne_eq, Bool.not_eq_false] at valid
  unfold addModifier
  unfold takesModifiers at takes
  simp only [Bool.eq_false_iff.mpr allowed, valid, Bool.false_eq_true, if_false, if_true,
    recordModifier_typeDefault]
  cases found : (entity.recordModifier 0 name 0).properties[name]? with
  | some entry =>
    rw [recordModifier_properties] at found
    simp only [found, ne_eq, Bool.not_eq_false, Bool.not_eq_true'] at takes
    simp only [takes, Bool.false_eq_true, if_false]
    exact getAttr_setAttr_of_default_last valid Std.TreeMap.getElem?_insert_self rfl _
  | none =>
    rw [recordModifier_properties] at found
    cases isDefault : entity.typeDefault name with
    | none =>
      exact getAttr_setAttr_of_default_last valid Std.TreeMap.getElem?_insert_self
        (nil_append _).symm _
    | some property =>
      simp only [found, isDefault, map_some, getD_some, ne_eq,
        Bool.not_eq_false, Bool.not_eq_true'] at takes
      simp only [takes, Bool.false_eq_true, if_false]
      exact getAttr_setAttr_of_default_last valid Std.TreeMap.getElem?_insert_self
        (nil_append _).symm _

/-- A protected property keeps its value just if no modifier can be added to it. -/
theorem getAttr_resists_iff {entity : LocatedEntity} (named : entity.ModifiersNamed)
    (name : String) :
    (∀ calls, (∀ call ∈ calls, PropertyCall.changesModifiers call = true) →
      (run perform entity calls).getAttr name = entity.getAttr name) ↔
      entity.Shielded name := by
  constructor
  · intro resists
    constructor
    · by_contra takes
      have changed (value : Element) : entity.getAttr name = some value := by
        have added := getAttr_addModifier_default takes value
        rw [← added]
        exact (resists [.addModifier name ⟨0, .createModifier .default value⟩ 0]
          (by simp [PropertyCall.changesModifiers])).symm
      have same := (changed (.int 0)).symm.trans (changed (.int 1))
      simp at same
    · intro entry found addresses fewer
      have remains : Remains name addresses entity
          (run perform entity (removals name addresses)) := remains_removals named addresses
      obtain ⟨current, isCurrent, left⟩ := remains.present entry found
      have differs : current ≠ entry := by
        rintro rfl
        exact fewer left.modifiers.symm
      have same := resists (removals name addresses)
        (by simp [removals, PropertyCall.changesModifiers])
      simp only [getAttr, isCurrent, found] at same
      rw [← same, ← left.modifiers]
      exact left.value.resolve_left differs
  · intro shielded calls changes
    obtain ⟨addresses, remains⟩ := remains_run named shielded.refuses calls changes
    exact remains.getAttr_eq shielded.settled

/-- Its value is 1, and marked. -/
def markedProperty : SoftProperty :=
  { flags := Flags.empty.addFlags propFlagModifiersNotAllowed, data := .int 1 }

/-- An entity that has the property itself. -/
def markedEntity : LocatedEntity :=
  { plainEntity "foo" (.int 1) with
    properties := (∅ : Std.TreeMap String ModifiableProperty).insert "foo"
      { property := some markedProperty, baseValue := .none, modifiers := [] } }

theorem markedEntity_modifiers (name : String) : markedEntity.modifiersOf name = [] := by
  by_cases same : name = "foo"
  · subst same
    rfl
  · simp [modifiersOf, markedEntity, Ne.symm same]

theorem withoutModifiers_nil (addresses : List Nat) : withoutModifiers addresses [] = [] := by
  induction addresses with
  | nil => rfl
  | cons address rest ih => exact ih

theorem markedEntity_shielded : markedEntity.Shielded "foo" where
  refuses := .inr (.inr (by rfl))
  settled := by
    intro entry found addresses fewer
    have empty : entry.modifiers = [] :=
      (modifiersOf_of_getElem? found).symm.trans (markedEntity_modifiers "foo")
    rw [empty] at fewer
    exact absurd (withoutModifiers_nil addresses) fewer

theorem markedEntity_named : markedEntity.ModifiersNamed := by
  intro name entry found active
  exact absurd ((modifiersOf_of_getElem? found).symm.trans (markedEntity_modifiers name)) active

/-- A modifier comes and goes. -/
theorem getAttr_markedEntity_resists :
    markedEntity.Shielded "foo" ∧
      (run perform markedEntity [.addModifier "foo" ⟨7, ⟨.append, .int 10⟩⟩ 2,
        .removeModifier "foo" ⟨7, ⟨.append, .int 10⟩⟩]).getAttr "foo" =
          markedEntity.getAttr "foo" :=
  ⟨markedEntity_shielded,
    (getAttr_resists_iff markedEntity_named "foo").mpr markedEntity_shielded _ (by decide)⟩

/-- It comes from the type. -/
def typeMarkedEntity : LocatedEntity :=
  { plainEntity "bar" (.int 1) with
    type := some
      { name := "thing"
        defaults := (∅ : Std.TreeMap String SoftProperty).insert "foo" markedProperty } }

/-- A value marked by the type is changed. -/
theorem getAttr_typeMarkedEntity_yields :
    (typeMarkedEntity.typeDefault "foo").map (·.hasFlags propFlagModifiersNotAllowed) =
        some true ∧
      (run perform typeMarkedEntity [.addModifier "foo" ⟨7, ⟨.append, .int 10⟩⟩ 2]).getAttr
          "foo" ≠
        typeMarkedEntity.getAttr "foo" := by
  refine ⟨by rfl, ?_⟩
  have before : typeMarkedEntity.getAttr "foo" = some (.int 1) := by rfl
  have after : (run perform typeMarkedEntity
      [.addModifier "foo" ⟨7, ⟨.append, .int 10⟩⟩ 2]).getAttr "foo" = some (.int 11) := by rfl
  rw [before, after]
  simp

end LocatedEntity

end Cyphesis.Rules
