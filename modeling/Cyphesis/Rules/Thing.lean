import Cyphesis.Rules.LocatedEntity

/-!
# Setting and updating the properties of a thing

A Set operation merges attributes into an entity; the Update it asks for broadcasts them. `id` and
`contains`, which are never persisted, are left out.
-/

namespace Cyphesis.Rules

open Cyphesis.Atlas
open Cyphesis.Common
open Cyphesis.Foundation

namespace LocatedEntity

/-- Name of `LocationProperty`. -/
def locName : String := "loc"

/-- Setting does not change them. -/
def immutables : List String := ["id", "parent", "loc", "contains", "objtype"]

/-- `LocatedEntity::LocatedEntity`, and `setType`. -/
def create (id : Nat) (type : TypeNode) : LocatedEntity where
  id := id
  type := some type
  flags := Flags.empty
  seq := 0
  parent := none
  properties := (∅ : Std.TreeMap String ModifiableProperty).insert locName
    { property := some { flags := Flags.empty, data := .none }, baseValue :=
      .none, modifiers := [] }
  activeModifiers := ∅

def addFlags (entity : LocatedEntity) (mask : BitVec 32) : LocatedEntity :=
  { entity with flags := entity.flags.addFlags mask }

def removeFlags (entity : LocatedEntity) (mask : BitVec 32) : LocatedEntity :=
  { entity with flags := entity.flags.removeFlags mask }

def isDestroyed (entity : LocatedEntity) : Bool :=
  entity.hasFlags entityDestroyed

/-- `LocationProperty::get`. -/
def locValue (entity : LocatedEntity) : Element :=
  match entity.parent with
  | none => .none
  | some parent => .string (toString parent)

/-- `PropertyBase::get` for an entity. -/
def propertyValue (entity : LocatedEntity) (name : String) (property : SoftProperty) : Element :=
  if name = locName then entity.locValue else property.get

/-- `LocatedEntity::getAttr`, of `loc` too. -/
def attr (entity : LocatedEntity) (name : String) : Option Element :=
  if name = locName then some entity.locValue else entity.getAttr name

/-- `applyProperty` of `loc`, in a new container. -/
def applyLocation (entity : LocatedEntity) : LocatedEntity :=
  match entity.properties[locName]?.bind ModifiableProperty.property with
  | none => entity
  | some property => entity.applyProperty locName property

/-- Replacements come first. -/
def merge (entity : LocatedEntity) (attributes : List (String × Element)) : LocatedEntity :=
  let allowed := attributes.filter fun pair =>
    pair.1 ≠ "" && (PropertyUtil.parsePropertyModification pair.1).2 ∉ immutables
  let isDefault := fun pair : String × Element =>
    (PropertyUtil.parsePropertyModification pair.1).1 = .default
  let replaced := (allowed.filter isDefault).foldl
    (fun current pair =>
      current.setAttr pair.1 (some (Modifier.createModifier .default pair.2))) entity
  (allowed.filter fun pair => ¬ isDefault pair).foldl
    (fun current pair =>
      let parsed := PropertyUtil.parsePropertyModification pair.1
      current.setAttr parsed.2 (some (Modifier.createModifier parsed.1 pair.2))) replaced

def setOperation (entity : LocatedEntity) (attributes : List (String × Element)) : LocatedEntity :=
  (entity.merge attributes).enqueueUpdateOp

variable (entry : ModifiableProperty)

/-- Has this property not been broadcast? -/
def ModifiableProperty.isUnsent : Bool :=
  (entry.property.map (·.hasFlags propFlagUnsent)).getD false

/-- Broadcast, and to be written to store again. -/
def broadcastEntry : ModifiableProperty :=
  if ModifiableProperty.isUnsent entry then
    { entry with
      property := entry.property.map (·.removeFlags (propFlagUnsent ||| propFlagPersistenceClean)) }
  else entry

/-- Does an Update operation change anything? -/
def hasChanges (entity : LocatedEntity) : Bool :=
  entity.properties.toList.any fun entry => ModifiableProperty.isUnsent entry.2

/-- Without the notification. -/
def updateProperties (entity : LocatedEntity) : LocatedEntity :=
  if entity.hasChanges then
    { entity with
      properties := entity.properties.map fun _ entry => broadcastEntry entry
      seq := entity.seq + 1
      flags := (entity.flags.removeFlags entityClean).removeFlags entityUpdateBroadcastQueued }
  else entity.removeFlags entityUpdateBroadcastQueued

/-! ## What the operations do to an entity

A property is left as it is, or rewritten: marked as changed, and so is the entity. -/

/-- Names with active modifiers are valid. -/
def ModifiersNamed (entity : LocatedEntity) : Prop :=
  ∀ (name : String) (entry : ModifiableProperty), entity.properties[name]? = some entry →
    entry.modifiers ≠ [] → PropertyUtil.isValidName name = true

/-- Property object of the instance. -/
def propertyAt (entity : LocatedEntity) (name : String) : Option SoftProperty :=
  entity.properties[name]?.bind ModifiableProperty.property

/-- The property has changed, and is or was broadcast. -/
def Rewritten (unsent : Bool) (before after : LocatedEntity) (name : String) : Prop :=
  (∃ property, after.propertyAt name = some property ∧
    property.hasFlags propFlagPersistenceClean = false ∧
    property.hasFlags propFlagUnsent = unsent ∧
    property.hasFlags propFlagPersistenceSeen =
      (before.propertyForSet name).hasFlags propFlagPersistenceSeen ∧
    property.hasFlags propFlagPersistenceEphem =
      (before.propertyForSet name).hasFlags propFlagPersistenceEphem) ∧
  after.hasFlags entityClean = false

/-- What setting and broadcasting can do. -/
structure Touched (unsent : Bool) (before after : LocatedEntity) : Prop where
  type : after.type = before.type
  parent : after.parent = before.parent
  flags : ∀ mask, mask &&& (entityClean ||| entityUpdateBroadcastQueued) = 0 →
    after.hasFlags mask = before.hasFlags mask
  clean : after.hasFlags entityClean = true → before.hasFlags entityClean = true
  named : before.ModifiersNamed → after.ModifiersNamed
  properties : ∀ name : String, after.properties[name]? = before.properties[name]? ∨
    Rewritten unsent before after name

variable {before after : LocatedEntity} {name : String} (entity : LocatedEntity)

theorem propertyForSet_of_propertyAt {entity : LocatedEntity} {property : SoftProperty}
    (found : entity.propertyAt name = some property) :
    entity.propertyForSet name = property := by
  rw [propertyAt] at found
  rw [propertyForSet, found]

theorem propertyForSet_congr (type : after.type = before.type)
    (same : after.propertyAt name = before.propertyAt name) :
    after.propertyForSet name = before.propertyForSet name := by
  rw [propertyAt, propertyAt] at same
  rw [propertyForSet, propertyForSet, same, typeDefault, typeDefault, type]

namespace Touched

variable {unsent : Bool} {first second third : LocatedEntity}

theorem refl (unsent : Bool) (entity : LocatedEntity) : Touched unsent entity entity where
  type := rfl
  parent := rfl
  flags _ _ := rfl
  clean marked := marked
  named named := named
  properties _ := .inl rfl

theorem trans (earlier : Touched unsent first second) (later : Touched unsent second third) :
    Touched unsent first third where
  type := later.type.trans earlier.type
  parent := later.parent.trans earlier.parent
  flags mask other := (later.flags mask other).trans (earlier.flags mask other)
  clean marked := earlier.clean (later.clean marked)
  named named := later.named (earlier.named named)
  properties name := by
    rcases later.properties name with
      same | ⟨⟨property, found, changed, sent, seen, ephem⟩, unclean⟩
    · rcases earlier.properties name with same' | ⟨⟨property, found, rest⟩, unclean⟩
      · exact .inl (same.trans same')
      · refine .inr ⟨⟨property, ?_, rest⟩, ?_⟩
        · rw [propertyAt, same]
          exact found
        · rw [Bool.eq_false_iff] at unclean ⊢
          exact fun marked => unclean (later.clean marked)
    · right
      refine ⟨⟨property, found, changed, sent, ?_⟩, unclean⟩
      rcases earlier.properties name with same | ⟨⟨old, oldFound, _, _, oldSeen, oldEphem⟩, _⟩
      · rw [seen, ephem, propertyForSet_congr earlier.type (by rw [propertyAt, propertyAt, same])]
        exact ⟨rfl, rfl⟩
      · rw [seen, ephem, propertyForSet_of_propertyAt oldFound]
        exact ⟨oldSeen, oldEphem⟩

theorem of_flags (type : after.type = before.type) (parent : after.parent = before.parent)
    (properties : after.properties = before.properties)
    (flags : ∀ mask, mask &&& (entityClean ||| entityUpdateBroadcastQueued) = 0 →
      after.hasFlags mask = before.hasFlags mask)
    (clean : after.hasFlags entityClean = true → before.hasFlags entityClean = true) :
    Touched unsent before after where
  type := type
  parent := parent
  flags := flags
  clean := clean
  named := by
    rw [ModifiersNamed, ModifiersNamed, properties]
    exact fun named => named
  properties name := .inl (by rw [properties])

end Touched

theorem disjoint_of_or {mask left right : BitVec 32} (disjoint : mask &&& (left ||| right) = 0) :
    mask &&& left = 0 ∧ mask &&& right = 0 := by
  have distrib : mask &&& (left ||| right) = (mask &&& left) ||| (mask &&& right) := by
    ext i
    simp [Bool.and_or_distrib_left]
  rw [distrib] at disjoint
  exact BitVec.or_eq_zero_iff.mp disjoint

theorem enqueueUpdateOp_touched (unsent : Bool) (entity : LocatedEntity) :
    Touched unsent entity entity.enqueueUpdateOp := by
  refine Touched.of_flags rfl rfl (enqueueUpdateOp_properties entity) ?_ ?_
  · intro mask other
    apply entity.enqueueUpdateOp_hasFlags
    rw [BitVec.and_comm]
    exact (disjoint_of_or other).2
  · intro marked
    rwa [entity.enqueueUpdateOp_hasFlags (by decide)] at marked

/-- A set rewrites its property. -/
theorem setAttr_touched_of_prepared {before changed : LocatedEntity} (modifier : Option Modifier)
    (type : changed.type = before.type) (parent : changed.parent = before.parent)
    (flags : changed.flags = before.flags) (valid : PropertyUtil.isValidName name = true)
    (property : changed.propertyAt name = before.propertyAt name)
    (others : ∀ other : String, name ≠ other →
      changed.properties[other]? = before.properties[other]?) :
    Touched true before (changed.setAttr name modifier) where
  type := by rw [setAttr_type, type]
  parent := by
    rw [← parent, setAttr, if_pos valid]
    rfl
  flags mask other := by
    rw [setAttr_hasFlags changed name modifier (disjoint_of_or other).1, hasFlags, hasFlags, flags]
  clean marked := by
    have removed : (changed.flags.removeFlags entityClean).hasFlags entityClean = false :=
      Flags.hasFlags_removeFlags_of_subset _ (by decide)
    rw [setAttr, if_pos valid] at marked
    exact absurd (marked.symm.trans removed) (by decide)
  named named other entry found active := by
    by_cases same : name = other
    · rw [← same, valid]
    · rw [setAttr_getElem?_of_ne changed modifier same, others other same] at found
      exact named other entry found active
  properties other := by
    by_cases same : name = other
    · subst same
      right
      have settled := changed.setAttr_getElem?_self modifier valid
      refine ⟨⟨_, by rw [propertyAt, settled]; rfl, ?_, ?_, ?_, ?_⟩, ?_⟩
      · simp only [SoftProperty.hasFlags, SoftProperty.flags_addFlags, SoftProperty.flags_set,
          SoftProperty.flags_removeFlags]
        rw [Flags.hasFlags_addFlags_of_disjoint _ (by decide),
          Flags.hasFlags_removeFlags_of_subset _ (by decide)]
      · exact Flags.hasFlags_addFlags_of_subset _ (by decide)
      · rw [← propertyForSet_congr type property]
        simp only [SoftProperty.hasFlags, SoftProperty.flags_addFlags, SoftProperty.flags_set,
          SoftProperty.flags_removeFlags]
        rw [Flags.hasFlags_addFlags_of_disjoint _ (by decide),
          Flags.hasFlags_removeFlags_of_disjoint _ (by decide)]
      · rw [← propertyForSet_congr type property]
        simp only [SoftProperty.hasFlags, SoftProperty.flags_addFlags, SoftProperty.flags_set,
          SoftProperty.flags_removeFlags]
        rw [Flags.hasFlags_addFlags_of_disjoint _ (by decide),
          Flags.hasFlags_removeFlags_of_disjoint _ (by decide)]
      · rw [setAttr, if_pos valid]
        exact Flags.hasFlags_removeFlags_of_subset _ (by decide)
    · left
      rw [setAttr_getElem?_of_ne changed modifier same, others other same]

theorem setAttr_touched (name : String) (modifier : Option Modifier) :
    Touched true entity (entity.setAttr name modifier) := by
  by_cases valid : PropertyUtil.isValidName name = true
  · exact setAttr_touched_of_prepared modifier rfl rfl rfl valid rfl fun _ _ => rfl
  · rw [setAttr, if_neg valid]
    exact Touched.refl true entity

theorem foldl_touched {α : Type} {unsent : Bool} {change : LocatedEntity → α → LocatedEntity}
    (touches : ∀ current item, Touched unsent current (change current item)) (items : List α)
    (entity : LocatedEntity) : Touched unsent entity (items.foldl change entity) := by
  induction items generalizing entity with
  | nil => exact Touched.refl unsent entity
  | cons item rest ih => exact (touches entity item).trans (ih _)

variable (attributes : List (String × Element))

theorem merge_touched : Touched true entity (entity.merge attributes) := by
  unfold merge
  refine (foldl_touched ?_ _ entity).trans (foldl_touched ?_ _ _)
  · exact fun current pair => setAttr_touched current _ _
  · exact fun current pair => setAttr_touched current _ _

/-- A change asks for an Update operation. -/
structure Requested (before after : LocatedEntity) : Prop where
  touched : Touched true before after
  asked : after.properties = before.properties ∨
    after.hasFlags entityUpdateBroadcastQueued = true
  keeps : before.hasFlags entityUpdateBroadcastQueued = true →
    after.hasFlags entityUpdateBroadcastQueued = true

theorem Touched.enqueueUpdateOp (touched : Touched true before after) :
    Requested before after.enqueueUpdateOp where
  touched := touched.trans (enqueueUpdateOp_touched true after)
  asked := .inr (Flags.hasFlags_addFlags_of_subset _ (by decide))
  keeps _ := Flags.hasFlags_addFlags_of_subset _ (by decide)

theorem Requested.refl : Requested entity entity where
  touched := Touched.refl true entity
  asked := .inl rfl
  keeps marked := marked

theorem setOperation_requested : Requested entity (entity.setOperation attributes) :=
  (merge_touched entity attributes).enqueueUpdateOp

theorem recordModifier_requested (affecting : Nat) (name : String) (address : Nat) :
    Requested entity (entity.recordModifier affecting name address) where
  touched := Touched.of_flags rfl rfl rfl (fun _ _ => rfl) fun marked => marked
  asked := .inl rfl
  keeps marked := marked

theorem forgetModifier_requested (name : String) (address : Nat) :
    Requested entity (entity.forgetModifier name address) := by
  unfold forgetModifier
  split
  · exact Requested.refl entity
  · refine ⟨Touched.of_flags rfl rfl rfl (fun _ _ => rfl) fun marked => marked, .inl rfl, ?_⟩
    exact fun marked => marked

theorem modified_touched {entity : LocatedEntity} {entry : ModifiableProperty}
    (modifier : Option Modifier) (valid : PropertyUtil.isValidName name = true)
    (property : entry.property = entity.propertyAt name) :
    Touched true entity ({ entity with
      properties := entity.properties.insert name entry }.setAttr name modifier) := by
  refine setAttr_touched_of_prepared modifier rfl rfl rfl valid ?_ ?_
  · simp [propertyAt, property]
  · intro other different
    simp [Std.TreeMap.getElem?_insert, different]

theorem addModifier_requested (name : String) (modifier : ModifierRef) (affecting : Nat) :
    Requested entity (entity.addModifier name modifier affecting) := by
  have recorded := recordModifier_requested entity affecting name modifier.address
  unfold addModifier
  split
  · exact Requested.refl entity
  · split
    next valid =>
      dsimp only
      split
      next entry found =>
        split
        · exact recorded
        · refine (recorded.touched.trans (modified_touched _ valid ?_)).enqueueUpdateOp
          rw [propertyAt, found]
          rfl
      next missing =>
        split
        · split
          · exact recorded
          · refine (recorded.touched.trans (modified_touched _ valid ?_)).enqueueUpdateOp
            rw [propertyAt, missing]
            rfl
        · refine (recorded.touched.trans (modified_touched _ valid ?_)).enqueueUpdateOp
          rw [propertyAt, missing]
          rfl
    · exact Requested.refl entity

theorem removeModifier_requested {entity : LocatedEntity} (named : entity.ModifiersNamed)
    (name : String) (modifier : ModifierRef) :
    Requested entity (entity.removeModifier name modifier) := by
  have forgotten := forgetModifier_requested entity name modifier.address
  unfold removeModifier
  dsimp only
  split
  · exact forgotten
  next entry found =>
    split
    next active =>
      have valid : PropertyUtil.isValidName name = true := by
        refine named name entry ?_ ?_
        · rwa [forgetModifier_properties] at found
        · rintro none
          rw [none] at active
          contradiction
      rw [setAttrValue_of_isValidName _ _ valid]
      refine (forgotten.touched.trans (modified_touched _ valid ?_)).enqueueUpdateOp
      rw [propertyAt, found]
      rfl
    · exact forgotten

theorem broadcastEntry_rewritten {entry : ModifiableProperty}
    (found : before.properties[name]? = some entry)
    (broadcast : after.properties[name]? = some (broadcastEntry entry))
    (unsent : ModifiableProperty.isUnsent entry = true)
    (unclean : after.hasFlags entityClean = false) : Rewritten false before after name := by
  cases isProperty : entry.property with
  | none => simp [ModifiableProperty.isUnsent, isProperty] at unsent
  | some property =>
    have old : before.propertyForSet name = property := by
      apply propertyForSet_of_propertyAt
      rw [propertyAt, found, Option.bind_some, isProperty]
    refine ⟨⟨property.removeFlags (propFlagUnsent ||| propFlagPersistenceClean),
      ?_, ?_, ?_, ?_, ?_⟩, unclean⟩
    · rw [propertyAt, broadcast, broadcastEntry, if_pos unsent, Option.bind_some, isProperty]
      rfl
    · exact Flags.hasFlags_removeFlags_of_subset _ (by decide)
    · exact Flags.hasFlags_removeFlags_of_subset _ (by decide)
    · rw [old]
      exact Flags.hasFlags_removeFlags_of_disjoint _ (by decide)
    · rw [old]
      exact Flags.hasFlags_removeFlags_of_disjoint _ (by decide)

theorem updateProperties_touched : Touched false entity entity.updateProperties := by
  unfold updateProperties
  split
  · have unclean : ((entity.flags.removeFlags entityClean).removeFlags
        entityUpdateBroadcastQueued).hasFlags entityClean = false := by
      rw [Flags.hasFlags_removeFlags_of_disjoint _ (by decide),
        Flags.hasFlags_removeFlags_of_subset _ (by decide)]
    refine ⟨rfl, rfl, ?_, ?_, ?_, ?_⟩
    · intro mask other
      exact (Flags.hasFlags_removeFlags_of_disjoint _ (disjoint_of_or other).2).trans
        (Flags.hasFlags_removeFlags_of_disjoint _ (disjoint_of_or other).1)
    · intro marked
      exact absurd (marked.symm.trans unclean) (by decide)
    · intro named name entry found active
      simp only [Std.TreeMap.getElem?_map, Option.map_eq_some_iff] at found
      obtain ⟨old, foundOld, rfl⟩ := found
      refine named name old foundOld ?_
      unfold broadcastEntry at active
      split at active <;> exact active
    · intro name
      cases found : entity.properties[name]? with
      | none => simp [found]
      | some entry =>
        by_cases unsent : ModifiableProperty.isUnsent entry = true
        · exact .inr (broadcastEntry_rewritten found (by simp [found]) unsent unclean)
        · simp [found, broadcastEntry, unsent]
  · refine Touched.of_flags rfl rfl rfl ?_ ?_
    · intro mask other
      exact Flags.hasFlags_removeFlags_of_disjoint _ (disjoint_of_or other).2
    · intro marked
      exact (Flags.hasFlags_removeFlags_of_disjoint entity.flags (by decide)).symm.trans marked

end LocatedEntity

end Cyphesis.Rules
