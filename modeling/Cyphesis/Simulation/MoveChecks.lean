import Cyphesis.Foundation.Forest
import Cyphesis.Rules.ModifierStack
import Cyphesis.Rules.Thing
import Cyphesis.Server.Sessions
import Cyphesis.Simulation.ModeData

/-!
# What a Move operation checks, and when

`Thing::moveOurselves` sets `mode`, `mode_data`, `planted_offset` and `_propel` before it reads the
orientation. That throws if it is no quaternion, as does `mode_data` if its entity is no number.
-/

namespace Cyphesis.Simulation

open Cyphesis.Atlas Cyphesis.Common Cyphesis.Foundation Cyphesis.Rules Cyphesis.Server List Option

/-- `ModeProperty::parseMode`. -/
def Mode.parse (mode : String) : Mode :=
  if mode = "free" ∨ mode = "" then .free
  else if mode = "planted" then .planted
  else if mode = "fixed" then .fixed
  else if mode = "submerged" then .submerged
  else if mode = "projectile" then .projectile
  else .unknown

/-- `ModeProperty::encodeMode`. -/
def Mode.encode : Mode → String
  | .planted => "planted"
  | .fixed => "fixed"
  | .free => "free"
  | .submerged => "submerged"
  | .projectile => "projectile"
  | .unknown => ""

/-- An entity that is to be moved, with what other entities answer. -/
structure MoveContext where
  /-- The entities in the world. -/
  eobjects : List Nat
  parentOf : Nat → Option Nat
  /-- The parent of the entity has a domain. -/
  hasDomain : Bool
  /-- `WFMath::Quaternion::fromAtlas` does not throw. -/
  isQuaternion : List Element → Bool
  /-- `WFMath::Vector<3>::fromAtlas`, and back. -/
  vector : List Element → Option (List Element)
  /-- `active_rotation` in `ModeProperty::apply`. -/
  rotate : Mode → Option Element → Option Element → Option Element
  moveToNewLocation : LocatedEntity → Nat → LocatedEntity
  applyTransform : LocatedEntity → LocatedEntity

/-- A Move operation whose argument has the id of the receiver. -/
structure MoveRequest where
  loc : Option String
  mode : Option Element
  modeData : Option Element
  plantedOffset : Option Element
  propel : Option Element
  orientation : Option Element

/-- How the handling of an operation ends. -/
inductive MoveOutcome where
  | done
  | error (text : String)
  | exception

/-- Names of the properties. -/
def modeName : String := "mode"
def modeDataName : String := "mode_data"
def plantedOffsetName : String := "planted_offset"
def propelName : String := "_propel"
def plantedRotationName : String := "planted_rotation"
def activeRotationName : String := "active_rotation"

namespace MoveContext

variable (context : MoveContext)

def getEntity (id : String) : Option Nat :=
  findId context.eobjects id

variable (entries : List (String × Element))

/-- `setPlantedData`, which throws like `std::stol`. -/
def plantedData : Option Element :=
  let attachment := match entries.lookup "attachment" with
    | some (.string attachment) => [("attachment", Element.string attachment)]
    | _ => []
  match entries.lookup "$eid" with
  | some (.string id) =>
    (stol id).map fun entityId =>
      .map (("$eid", .string (toString entityId)) :: attachment ++ [("mode", .string "planted")])
  | _ => some (.map (attachment ++ [("mode", .string "planted")]))

/-- `ModeDataProperty::setProjectileData`. -/
def projectileData : Element :=
  let entity := match entries.lookup "$eid" with
    | some (.string id) =>
      (context.getEntity id).elim [] fun entityId =>
        [("$eid", Element.string (toString entityId))]
    | _ => []
  let extra := match entries.lookup "extra" with
    | some (.map extra) => extra
    | _ => []
  .map (entity ++ [("extra", .map extra), ("mode", .string "projectile")])

/-- `ModeDataProperty::set`, unless it throws. -/
def modeDataSet : Element → Option Element
  | .map entries =>
    match entries.lookup "mode" with
    | some (.string mode) =>
      match Mode.parse mode with
      | .planted => plantedData entries
      | .projectile => some (context.projectileData entries)
      | _ => some (.map [])
    | _ => some (.map [])
  | _ => some (.map [])

/-- `PropertyBase::set`, over the value there is. -/
def propertySet (name : String) (old value : Element) : Option Element :=
  if name = modeName then
    match value with
    | .string mode => some (.string (Mode.parse mode).encode)
    | _ => some old
  else if name = modeDataName then context.modeDataSet value
  else if name = plantedOffsetName then some (if value.isNum then .float value.asNum else old)
  else if name = propelName then
    match value with
    | .list items => some ((context.vector items).elim .none .list)
    | _ => some .none
  else some value

/-- What `PropertyManager::addProperty` makes. -/
def addProperty (name : String) : SoftProperty :=
  let property := Common.addProperty name
  if name = modeName then property.set (.string Mode.free.encode)
  else if name = modeDataName then property.set (.map [])
  else if name = plantedOffsetName then property.set (.float 0)
  else if name = propelName then property.addFlags propFlagPersistenceEphem
  else property

variable (entity : LocatedEntity)

variable (name : String)

/-- The property object a set works on. -/
def propertyFor : SoftProperty :=
  match entity.propertyAt name with
  | some property => property
  | none => (entity.typeDefault name).getD (addProperty name)

/-- Mode that is stored in `mode_data`. -/
def modeOfData : Element → Mode
  | .map entries =>
    match entries.lookup "mode" with
    | some (.string mode) => Mode.parse mode
    | _ => .unknown
  | _ => .unknown

variable (value : Element)

/-- Setting a property gives it its value, and has an effect. -/
def write : LocatedEntity :=
  entity.applyProperty name
    (((propertyFor entity name).removeFlags propFlagPersistenceClean).set value)

/-- `ModeProperty::apply`. -/
def applyMode (mode : Mode) : LocatedEntity :=
  let dataMode := (entity.getAttr modeDataName).elim Mode.unknown modeOfData
  let cleared :=
    if dataMode ≠ mode ∧ dataMode ≠ .unknown then write entity modeDataName (.map []) else entity
  match context.rotate mode (cleared.getAttr plantedRotationName)
      (cleared.getAttr activeRotationName) with
  | some rotation => write cleared activeRotationName rotation
  | none => cleared

/-- What `apply` does depends on the name of the property. -/
def apply (stored : Element) : LocatedEntity :=
  if name = modeName then
    match stored with
    | .string mode => context.applyMode entity (Mode.parse mode)
    | _ => entity
  else entity

/-- The new value, and the base value that is left under it. -/
def newAttr : Element × Element :=
  LocatedEntity.newValue (entity.properties[name]?.getD .empty) (propertyFor entity name)
    (some (.createModifier .default value))

/-- There, waiting to be stored. -/
def prepare : LocatedEntity :=
  let entry := entity.properties[name]?.getD .empty
  { entity with
    properties := entity.properties.insert name
      { entry with
        property := some ((propertyFor entity name).removeFlags propFlagPersistenceClean)
        baseValue := (newAttr entity name value).2 } }

/-- `setAttrValue`, and whether it throws. -/
def setAttrValue : LocatedEntity × Bool :=
  match context.propertySet name (propertyFor entity name).get (newAttr entity name value).1 with
  | none => (prepare entity name value, true)
  | some stored =>
    (context.apply (write (prepare entity name value) name stored) name stored, false)

/-- The attributes are set one by one, until one throws. -/
def setAttributes : LocatedEntity → List (String × Element) → LocatedEntity × Bool
  | entity, [] => (entity, false)
  | entity, (name, value) :: rest =>
    match context.setAttrValue entity name value with
    | (changed, true) => (changed, true)
    | (changed, false) => setAttributes changed rest

end MoveContext

namespace MoveRequest

/-- Attributes set before the position. -/
def attributes (request : MoveRequest) : List (String × Element) :=
  (match request.mode with
    | some (.string mode) => [(modeName, .string mode)]
    | _ => []) ++
  (request.modeData.toList.map fun value => (modeDataName, value)) ++
  (request.plantedOffset.toList.map fun value => (plantedOffsetName, value)) ++
  (request.propel.toList.map fun value => (propelName, value))

end MoveRequest

namespace MoveContext

variable (context : MoveContext)

variable (entity : LocatedEntity) (request : MoveRequest)

/-- If it is new; or the error. -/
def newLocation : Except String (Option Nat) :=
  match request.loc with
  | none => .ok none
  | some loc =>
    if some loc = entity.parent.map toString then .ok none
    else
      match context.getEntity loc with
      | none => .error "Move op loc does not exist"
      | some newLoc =>
        if meets context.parentOf context.eobjects.length newLoc entity.id then
          .error "Attempt to move into itself"
        else .ok (some newLoc)

/-- Reading the orientation throws. -/
def orientationThrows : Bool :=
  match request.orientation with
  | none => false
  | some (.list items) => !context.isQuaternion items
  | some _ => true

def moveOurselves : LocatedEntity × MoveOutcome :=
  match context.newLocation entity request with
  | .error text => (entity, .error text)
  | .ok newLoc =>
    match context.setAttributes entity request.attributes with
    | (changed, true) => (changed, .exception)
    | (changed, false) =>
      if (context.hasDomain || newLoc.isSome) && context.orientationThrows request then
        (changed, .exception)
      else
        let moved := match newLoc with
          | some loc => context.moveToNewLocation changed loc
          | none => if context.hasDomain then context.applyTransform changed else changed
        ({ moved.removeFlags entityClean with seq := moved.seq + 1 }, .done)

end MoveContext

/-- Changed, and not broadcast. -/
def Unsent (entity : LocatedEntity) (name : String) : Prop :=
  ∃ property, entity.propertyAt name = some property ∧
    property.hasFlags propFlagUnsent = true

namespace Unsent

variable {context : MoveContext} {entity : LocatedEntity} {name other : String}

section

variable (entity)

theorem propertyAt_applyProperty (name other : String)
    (property : SoftProperty) :
    (entity.applyProperty name property).propertyAt other =
      if other = name then some (property.addFlags propFlagUnsent)
      else entity.propertyAt other := by
  by_cases same : other = name
  · simp [LocatedEntity.propertyAt, LocatedEntity.applyProperty, same]
  · simp [LocatedEntity.propertyAt, LocatedEntity.applyProperty, Std.TreeMap.getElem?_insert, same,
      Ne.symm same]

theorem of_write (name : String) (value : Element) :
    Unsent (MoveContext.write entity name value) name := by
  refine ⟨_, by rw [MoveContext.write, propertyAt_applyProperty, if_pos rfl], ?_⟩
  exact Flags.hasFlags_addFlags_of_subset _ (by decide)

end

section

variable (unsent : Unsent entity other)

include unsent

theorem write (name : String) (value : Element) :
    Unsent (MoveContext.write entity name value) other := by
  by_cases same : other = name
  · subst same
    exact of_write entity other value
  · obtain ⟨property, isProperty, marked⟩ := unsent
    exact ⟨property, by rw [MoveContext.write, propertyAt_applyProperty, if_neg same, isProperty],
      marked⟩

theorem applyMode (mode : Mode) : Unsent (context.applyMode entity mode) other := by
  have cleared (dataMode : Mode) : Unsent (if dataMode ≠ mode ∧ dataMode ≠ .unknown then
      MoveContext.write entity modeDataName (.map []) else entity) other := by
    split
    · exact unsent.write modeDataName _
    · exact unsent
  unfold MoveContext.applyMode
  dsimp only
  split
  · exact (cleared _).write activeRotationName _
  · exact cleared _

theorem apply (name : String) (stored : Element) :
    Unsent (context.apply entity name stored) other := by
  unfold MoveContext.apply
  split
  · split
    · exact unsent.applyMode _
    · exact unsent
  · exact unsent

theorem prepare (different : other ≠ name) (value : Element) :
    Unsent (MoveContext.prepare entity name value) other := by
  obtain ⟨property, isProperty, marked⟩ := unsent
  refine ⟨property, ?_, marked⟩
  rw [← isProperty]
  simp [MoveContext.prepare, LocatedEntity.propertyAt, Std.TreeMap.getElem?_insert,
    Ne.symm different]

end

variable {value : Element}

variable {changed : LocatedEntity}

theorem of_setAttrValue
    (returns : context.setAttrValue entity name value = (changed, false)) :
    Unsent changed name := by
  unfold MoveContext.setAttrValue at returns
  split at returns
  · cases returns
  · cases returns
    exact (of_write _ _ _).apply _ _

theorem setAttrValue (unsent : Unsent entity other)
    (returns : context.setAttrValue entity name value = (changed, false)) :
    Unsent changed other := by
  by_cases same : other = name
  · subst same
    exact of_setAttrValue returns
  · unfold MoveContext.setAttrValue at returns
    split at returns
    · cases returns
    · cases returns
      exact ((unsent.prepare same value).write name _).apply _ _

end Unsent

namespace MoveContext

variable (context : MoveContext) (entity : LocatedEntity)

theorem propertySet_eq_none_iff {name : String} {old value : Element} :
    context.propertySet name old value = none ↔
      name = modeDataName ∧ context.modeDataSet value = none := by
  unfold propertySet
  split
  next isMode =>
    subst isMode
    have different : modeName ≠ modeDataName := by decide
    split <;> simp [different]
  · split
    next isModeData => simp [isModeData]
    next notModeData =>
      split
      · simp [notModeData]
      · split
        · split <;> simp [notModeData]
        · simp [notModeData]

/-- Value that `mode_data` would be given. -/
def modeDataAttr (value : Element) : Element :=
  LocatedEntity.applyModifiers (entity.modifiersOf modeDataName) value value

theorem newAttr_fst (name : String) (value : Element) :
    (newAttr entity name value).1 =
      LocatedEntity.applyModifiers (entity.modifiersOf name) value value := by
  unfold newAttr LocatedEntity.newValue LocatedEntity.modifiersOf Modifier.createModifier
  cases entity.properties[name]? with
  | none => rfl
  | some entry => cases isList : entry.modifiers <;> simp [isList, LocatedEntity.applyModifiers]

variable (name other : String)

theorem modifiersOf_write (value : Element) :
    (write entity name value).modifiersOf other = entity.modifiersOf other := by
  by_cases same : other = name
  · subst same
    unfold write LocatedEntity.applyProperty LocatedEntity.modifiersOf
    cases entity.properties[other]? with
    | none => simp; rfl
    | some entry => simp
  · simp [write, LocatedEntity.applyProperty, LocatedEntity.modifiersOf,
      Std.TreeMap.getElem?_insert, Ne.symm same]

theorem modifiersOf_prepare (value : Element) :
    (prepare entity name value).modifiersOf other = entity.modifiersOf other := by
  by_cases same : other = name
  · subst same
    unfold prepare LocatedEntity.modifiersOf
    cases entity.properties[other]? with
    | none => simp; rfl
    | some entry => simp
  · simp [prepare, LocatedEntity.modifiersOf, Std.TreeMap.getElem?_insert, Ne.symm same]

theorem modifiersOf_applyMode (mode : Mode) (other : String) :
    (context.applyMode entity mode).modifiersOf other = entity.modifiersOf other := by
  unfold applyMode
  dsimp only
  split
  · rw [modifiersOf_write]
    split
    · exact modifiersOf_write ..
    · rfl
  · split
    · exact modifiersOf_write ..
    · rfl

theorem modifiersOf_setAttrValue {name : String} {changed : LocatedEntity}
    (returns : context.setAttrValue entity name value = (changed, false)) (other : String) :
    changed.modifiersOf other = entity.modifiersOf other := by
  unfold setAttrValue at returns
  split at returns
  · cases returns
  · cases returns
    unfold apply
    split
    · split
      · rw [modifiersOf_applyMode, modifiersOf_write, modifiersOf_prepare]
      · rw [modifiersOf_write, modifiersOf_prepare]
    · rw [modifiersOf_write, modifiersOf_prepare]

end MoveContext

namespace MoveContext

variable {context : MoveContext} {entity changed : LocatedEntity}

theorem setAttrValue_returns {name : String} (notModeData : name ≠ modeDataName)
    (context : MoveContext) (entity : LocatedEntity) (value : Element) :
    ∃ changed, context.setAttrValue entity name value = (changed, false) := by
  unfold setAttrValue
  split
  next throws =>
    exact absurd ((context.propertySet_eq_none_iff).mp throws).1 notModeData
  · exact ⟨_, rfl⟩

variable {attributes : List (String × Element)}

theorem setAttributes_returns
    (noModeData : ∀ pair ∈ attributes, pair.1 ≠ modeDataName) (context : MoveContext)
    (entity : LocatedEntity) :
    ∃ changed, context.setAttributes entity attributes = (changed, false) := by
  induction attributes generalizing entity with
  | nil => exact ⟨entity, rfl⟩
  | cons pair rest ih =>
    obtain ⟨changed, returns⟩ :=
      setAttrValue_returns (noModeData pair mem_cons_self) context entity pair.2
    obtain ⟨last, later⟩ :=
      ih (fun other isRest => noModeData other (mem_cons_of_mem _ isRest)) changed
    refine ⟨last, ?_⟩
    rw [setAttributes, returns]
    exact later

theorem unsent_of_setAttributes
    (returns : context.setAttributes entity attributes = (changed, false)) :
    (∀ name, Unsent entity name → Unsent changed name) ∧
      ∀ pair ∈ attributes, Unsent changed pair.1 := by
  induction attributes generalizing entity with
  | nil =>
    cases returns
    exact ⟨fun _ unsent => unsent, fun _ isMember => absurd isMember not_mem_nil⟩
  | cons pair rest ih =>
    rw [setAttributes] at returns
    rcases set : context.setAttrValue entity pair.1 pair.2 with ⟨next, _ | _⟩
    · rw [set] at returns
      obtain ⟨keeps, later⟩ := ih returns
      refine ⟨fun name unsent => keeps name (unsent.setAttrValue set), ?_⟩
      intro other isMember
      rcases List.mem_cons.mp isMember with rfl | isRest
      · exact keeps _ (Unsent.of_setAttrValue set)
      · exact later other isRest
    · rw [set] at returns
      cases returns

theorem setAttrValue_modeData_of_throws
    (throws : context.modeDataSet (modeDataAttr entity value) = none) :
    context.setAttrValue entity modeDataName value = (prepare entity modeDataName value, true) := by
  have none : context.propertySet modeDataName (propertyFor entity modeDataName).get
      (newAttr entity modeDataName value).1 = none := by
    rw [propertySet_eq_none_iff, newAttr_fst]
    exact ⟨rfl, throws⟩
  rw [setAttrValue, none]

theorem setAttrValue_modeData_returns
    (sets : context.modeDataSet (modeDataAttr entity value) ≠ none) :
    ∃ changed, context.setAttrValue entity modeDataName value = (changed, false) := by
  unfold setAttrValue
  split
  next throws =>
    rw [propertySet_eq_none_iff, newAttr_fst] at throws
    exact absurd throws.2 sets
  · exact ⟨_, rfl⟩

end MoveContext

namespace MoveRequest

variable (request : MoveRequest)

/-- Set after `mode_data`. -/
def laterAttributes : List (String × Element) :=
  (request.plantedOffset.toList.map fun value => (plantedOffsetName, value)) ++
  (request.propel.toList.map fun value => (propelName, value))

theorem laterAttributes_ne : ∀ pair ∈ request.laterAttributes, pair.1 ≠ modeDataName := by
  intro pair isMember
  rcases List.mem_append.mp isMember with isOffset | isPropel
  · obtain ⟨value, -, rfl⟩ := List.mem_map.mp isOffset
    exact (by decide : plantedOffsetName ≠ modeDataName)
  · obtain ⟨value, -, rfl⟩ := List.mem_map.mp isPropel
    exact (by decide : propelName ≠ modeDataName)

section

variable {request}

theorem attributes_of_no_mode
    (noMode : ∀ mode, request.mode ≠ some (.string mode)) :
    request.attributes =
      (request.modeData.toList.map fun value => (modeDataName, value)) ++
        request.laterAttributes := by
  unfold attributes laterAttributes
  split
  next mode isMode => exact absurd isMode (noMode mode)
  · simp

theorem attributes_of_mode {mode : String}
    (isMode : request.mode = some (.string mode)) :
    request.attributes =
      (modeName, .string mode) :: ((request.modeData.toList.map fun value =>
        (modeDataName, value)) ++ request.laterAttributes) := by
  simp [attributes, laterAttributes, isMode]

end

end MoveRequest

namespace MoveContext

variable {context : MoveContext} {entity : LocatedEntity}

theorem setAttributes_from_modeData (context : MoveContext) (entity : LocatedEntity)
    (request : MoveRequest) :
    (∃ value, request.modeData = some value ∧
        context.modeDataSet (modeDataAttr entity value) = none ∧
        context.setAttributes entity ((request.modeData.toList.map fun value =>
          (modeDataName, value)) ++ request.laterAttributes) =
            (prepare entity modeDataName value, true)) ∨
      ((∀ value, request.modeData = some value →
          context.modeDataSet (modeDataAttr entity value) ≠ none) ∧
        ∃ changed, context.setAttributes entity ((request.modeData.toList.map fun value =>
          (modeDataName, value)) ++ request.laterAttributes) = (changed, false)) := by
  cases isModeData : request.modeData with
  | none =>
    right
    refine ⟨fun value isValue => absurd isValue.symm (some_ne_none value), ?_⟩
    exact setAttributes_returns request.laterAttributes_ne context entity
  | some value =>
    by_cases throws : context.modeDataSet (modeDataAttr entity value) = none
    · left
      refine ⟨value, rfl, throws, ?_⟩
      simp [setAttributes, setAttrValue_modeData_of_throws throws]
    · right
      refine ⟨fun other isValue => (Option.some.inj isValue) ▸ throws, ?_⟩
      obtain ⟨changed, returns⟩ := setAttrValue_modeData_returns throws
      obtain ⟨last, later⟩ := setAttributes_returns request.laterAttributes_ne context changed
      refine ⟨last, ?_⟩
      simpa [setAttributes, returns] using later

theorem setAttributes_cases (request : MoveRequest) :
    (∃ value changed, request.modeData = some value ∧
        context.modeDataSet (modeDataAttr entity value) = none ∧
        context.setAttributes entity request.attributes = (changed, true) ∧
        ((∀ mode, request.mode ≠ some (.string mode)) ∧
            changed = prepare entity modeDataName value ∨
          (∃ mode, request.mode = some (.string mode)) ∧ Unsent changed modeName)) ∨
      ((∀ value, request.modeData = some value →
          context.modeDataSet (modeDataAttr entity value) ≠ none) ∧
        ∃ changed, context.setAttributes entity request.attributes = (changed, false) ∧
          ∀ pair ∈ request.attributes, Unsent changed pair.1) := by
  by_cases noMode : ∀ mode, request.mode ≠ some (.string mode)
  · rw [MoveRequest.attributes_of_no_mode noMode]
    rcases setAttributes_from_modeData context entity request with
      ⟨value, isValue, throws, set⟩ | ⟨sets, changed, set⟩
    · exact .inl ⟨value, _, isValue, throws, set, .inl ⟨noMode, rfl⟩⟩
    · exact .inr ⟨sets, changed, set, (unsent_of_setAttributes set).2⟩
  · push Not at noMode
    obtain ⟨mode, isMode⟩ := noMode
    rw [MoveRequest.attributes_of_mode isMode]
    obtain ⟨next, returns⟩ := setAttrValue_returns (by decide : modeName ≠ modeDataName) context
      entity (.string mode)
    have unsent : Unsent next modeName := Unsent.of_setAttrValue returns
    have sameAttr (value : Element) : modeDataAttr next value = modeDataAttr entity value := by
      rw [modeDataAttr, modeDataAttr, context.modifiersOf_setAttrValue entity returns]
    have whole (attributes : List (String × Element)) :
        context.setAttributes entity ((modeName, .string mode) :: attributes) =
          context.setAttributes next attributes := by
      rw [setAttributes, returns]
    rw [whole]
    rcases setAttributes_from_modeData context next request with
      ⟨value, isValue, throws, set⟩ | ⟨sets, changed, set⟩
    · rw [sameAttr] at throws
      refine .inl ⟨value, _, isValue, throws, set, .inr ⟨⟨mode, isMode⟩, ?_⟩⟩
      exact unsent.prepare (by decide) value
    · refine .inr ⟨fun value isValue => sameAttr value ▸ sets value isValue, changed, set, ?_⟩
      obtain ⟨keeps, later⟩ := unsent_of_setAttributes set
      intro pair isMember
      rcases List.mem_cons.mp isMember with rfl | isRest
      · exact keeps modeName unsent
      · exact later pair isRest

end MoveContext

namespace MoveContext

variable (context : MoveContext) (entity : LocatedEntity) (request : MoveRequest)

/-- `mode_data` cannot be set after the checks. -/
def ModeDataThrows (value : Element) : Prop :=
  (∃ newLoc, context.newLocation entity request = .ok newLoc) ∧ request.modeData = some value ∧
    context.modeDataSet (modeDataAttr entity value) = none

/-- The orientation throws after the checks. -/
def OrientationThrows : Prop :=
  (∃ newLoc, context.newLocation entity request = .ok newLoc ∧
      (context.hasDomain || newLoc.isSome) = true) ∧
    (∀ value, ¬ context.ModeDataThrows entity request value) ∧
    context.orientationThrows request = true

/-- The property is to be stored, and this is its base value. -/
def Prepared (value : Element) : Prop :=
  ∃ entry property, entity.properties[modeDataName]? = some entry ∧
    entry.property = some property ∧ property.hasFlags propFlagPersistenceClean = false ∧
    (entry.modifiers = [] ∨ entry.baseValue = value)

/-- Nothing has been set when something throws. -/
structure Harmless : Prop where
  modeData : ∀ value, context.ModeDataThrows entity request value →
    (∀ mode, request.mode ≠ some (.string mode)) ∧ Prepared entity value
  orientation : context.OrientationThrows entity request → request.attributes = []

/-- After an error nothing has changed. -/
def AllOrNothing : Prop :=
  (context.moveOurselves entity request).2 = .done ∨
    ((∀ name : String, (context.moveOurselves entity request).1.properties[name]? =
        entity.properties[name]?) ∧
      (context.moveOurselves entity request).1.parent = entity.parent ∧
      (context.moveOurselves entity request).1.seq = entity.seq)

variable (context : MoveContext) (entity : LocatedEntity) (request : MoveRequest)

theorem newAttr_snd {entry : ModifiableProperty}
    (found : entity.properties[modeDataName]? = some entry)
    (value : Element) :
    (newAttr entity modeDataName value).2 =
      if entry.modifiers.isEmpty then entry.baseValue else value := by
  simp only [newAttr, LocatedEntity.newValue, found, getD_some, Modifier.createModifier, if_true]
  split <;> rfl

theorem removeFlags_of_not_hasFlags {property : SoftProperty} {mask : BitVec 32}
    (unmarked : property.hasFlags mask = false) : property.removeFlags mask = property := by
  have noBits : property.flags.bits &&& mask = 0 := by
    simpa [SoftProperty.hasFlags, Flags.hasFlags] using unmarked
  have kept : property.flags.bits &&& ~~~mask = property.flags.bits := by
    calc property.flags.bits &&& ~~~mask
        = (property.flags.bits &&& ~~~mask) ||| (property.flags.bits &&& mask) := by
          rw [noBits]
          simp
      _ = property.flags.bits := by
          ext i
          simp
          cases property.flags.bits[i] <;> cases mask[i] <;> rfl
  unfold SoftProperty.removeFlags Flags.removeFlags
  rw [kept]

theorem prepare_properties_iff (value : Element) :
    (∀ name : String, (prepare entity modeDataName value).properties[name]? =
      entity.properties[name]?) ↔ Prepared entity value := by
  have written : (prepare entity modeDataName value).properties[modeDataName]? = some
      { entity.properties[modeDataName]?.getD .empty with
        property := some ((propertyFor entity modeDataName).removeFlags propFlagPersistenceClean)
        baseValue := (newAttr entity modeDataName value).2 } := Std.TreeMap.getElem?_insert_self
  constructor
  · intro same
    have own := same modeDataName
    rw [written] at own
    obtain ⟨entry, found⟩ : ∃ entry, entity.properties[modeDataName]? = some entry :=
      ⟨_, own.symm⟩
    rw [found, getD_some, Option.some.injEq] at own
    have isProperty : entry.property =
        some ((propertyFor entity modeDataName).removeFlags propFlagPersistenceClean) :=
      congrArg ModifiableProperty.property own.symm
    have base := congrArg ModifiableProperty.baseValue own
    rw [newAttr_snd entity found] at base
    refine ⟨entry, _, found, isProperty, Flags.hasFlags_removeFlags_of_subset _ (by decide), ?_⟩
    by_cases none : entry.modifiers = []
    · exact .inl none
    · rw [if_neg (by simpa using none)] at base
      exact .inr base.symm
  · rintro ⟨entry, property, found, isProperty, unclean, base⟩ name
    by_cases same : name = modeDataName
    · subst same
      have forSet : propertyFor entity modeDataName = property := by
        simp [propertyFor, LocatedEntity.propertyAt, found, isProperty]
      have kept : (newAttr entity modeDataName value).2 = entry.baseValue := by
        rw [newAttr_snd entity found]
        split
        · rfl
        next active => exact (base.resolve_left (by simpa using active)).symm
      rw [written, found, getD_some, forSet, kept,
        removeFlags_of_not_hasFlags unclean, ← isProperty]
    · simp [prepare, Std.TreeMap.getElem?_insert, Ne.symm same]

theorem allOrNothing_of_harmless (harmless : context.Harmless entity request) :
    context.AllOrNothing entity request := by
  unfold AllOrNothing moveOurselves
  cases located : context.newLocation entity request with
  | error text => exact .inr ⟨fun _ => rfl, rfl, rfl⟩
  | ok newLoc =>
    rcases @setAttributes_cases context entity request with
      ⟨value, changed, isValue, throws, set, state⟩ | ⟨sets, changed, set, -⟩
    · obtain ⟨noMode, prepared⟩ := harmless.modeData value ⟨⟨newLoc, located⟩, isValue, throws⟩
      have isPrepared : changed = prepare entity modeDataName value := by
        rcases state with ⟨-, isPrepared⟩ | ⟨⟨mode, isMode⟩, -⟩
        · exact isPrepared
        · exact absurd isMode (noMode mode)
      simp only [set, isPrepared]
      exact .inr ⟨(prepare_properties_iff entity value).mpr prepared, rfl, rfl⟩
    · simp only [set]
      split
      next fails =>
        have none : request.attributes = [] := by
          refine harmless.orientation ⟨⟨newLoc, located, ?_⟩, ?_, ?_⟩
          · exact (Bool.and_eq_true _ _ ▸ fails).1
          · rintro value ⟨-, isValue, throws⟩
            exact sets value isValue throws
          · exact (Bool.and_eq_true _ _ ▸ fails).2
        rw [none] at set
        cases set
        exact .inr ⟨fun _ => rfl, rfl, rfl⟩
      · exact .inl rfl

theorem harmless_of_allOrNothing (sent : ∀ name, ¬ Unsent entity name)
    (allOrNothing : context.AllOrNothing entity request) : context.Harmless entity request := by
  unfold AllOrNothing moveOurselves at allOrNothing
  have settled {changed : LocatedEntity} {name : String}
      (same : ∀ name : String, changed.properties[name]? = entity.properties[name]?) :
      ¬ Unsent changed name := by
    rintro ⟨property, isProperty, marked⟩
    refine sent name ⟨property, ?_, marked⟩
    rw [LocatedEntity.propertyAt, ← same name]
    exact isProperty
  constructor
  · rintro value ⟨⟨newLoc, located⟩, isValue, throws⟩
    rcases @setAttributes_cases context entity request with
      ⟨other, changed, isOther, -, set, state⟩ | ⟨sets, -⟩
    · have same : other = value := Option.some.inj (isOther.symm.trans isValue)
      subst same
      simp only [located, set, reduceCtorEq, false_or] at allOrNothing
      rcases state with ⟨noMode, isPrepared⟩ | ⟨-, unsent⟩
      · rw [isPrepared] at allOrNothing
        exact ⟨noMode, (prepare_properties_iff entity other).mp allOrNothing.1⟩
      · exact absurd unsent (settled allOrNothing.1)
    · exact absurd throws (sets value isValue)
  · rintro ⟨⟨newLoc, located, handled⟩, sets, throws⟩
    rcases @setAttributes_cases context entity request with
      ⟨value, changed, isValue, modeDataThrows, -⟩ | ⟨-, changed, set, unsent⟩
    · exact absurd ⟨⟨newLoc, located⟩, isValue, modeDataThrows⟩ (sets value)
    · simp only [located, set, handled, throws, Bool.and_self, if_true, reduceCtorEq, false_or]
        at allOrNothing
      rw [eq_nil_iff_forall_not_mem]
      intro pair isMember
      exact settled allOrNothing.1 (unsent pair isMember)

/-- A Move takes effect as a whole or not at all, exactly if what is checked late is harmless. -/
theorem allOrNothing_iff_harmless (context : MoveContext) (entity : LocatedEntity)
    (request : MoveRequest) :
    (context.Harmless entity request → context.AllOrNothing entity request) ∧
      (entity.hasChanges = false → context.AllOrNothing entity request →
        context.Harmless entity request) := by
  refine ⟨allOrNothing_of_harmless context entity request, ?_⟩
  intro noChanges
  refine harmless_of_allOrNothing context entity request ?_
  rintro name ⟨property, isProperty, marked⟩
  obtain ⟨entry, found, isEntry⟩ := Option.bind_eq_some_iff.mp isProperty
  have waiting : LocatedEntity.ModifiableProperty.isUnsent entry = true := by
    simp [LocatedEntity.ModifiableProperty.isUnsent, isEntry, marked]
  have changes : entity.hasChanges = true :=
    List.any_eq_true.mpr ⟨(name, entry), Std.TreeMap.mem_toList_iff_getElem?_eq_some.mpr found,
      waiting⟩
  rw [noChanges] at changes
  contradiction

/-- Entity 2 in entity 1, which has a domain. -/
def physicalContext : MoveContext where
  eobjects := [0, 1, 2]
  parentOf id := if id = 0 then none else some (id - 1)
  hasDomain := true
  isQuaternion items := items.length = 4 && items.all Element.isNum
  vector items := if items.length = 3 && items.all Element.isNum then some items else none
  rotate _ _ activeRotation := activeRotation
  moveToNewLocation thing loc := { thing with parent := some loc }
  applyTransform thing := thing

def restingThing : LocatedEntity :=
  { plainEntity "name" (.string "oak") with id := 2, parent := some 1 }

/-- The orientation is a text. -/
def turnByText : MoveRequest where
  loc := none
  mode := none
  modeData := none
  plantedOffset := none
  propel := none
  orientation := some (.string "north")

/-- Nothing is set, so nothing is changed. -/
theorem turnByText_allOrNothing : physicalContext.AllOrNothing restingThing turnByText := by
  have harmless : physicalContext.Harmless restingThing turnByText := by
    constructor
    · rintro value ⟨-, isValue, -⟩
      cases isValue
    · exact fun _ => rfl
  exact (allOrNothing_iff_harmless physicalContext restingThing turnByText).1 harmless

/-- The mode is changed all the same. -/
theorem turnByText_changes_mode :
    ¬ physicalContext.AllOrNothing restingThing
      { turnByText with mode := some (.string "planted") } := by
  rintro (done | ⟨same, -⟩)
  · have fails : (physicalContext.moveOurselves restingThing
        { turnByText with mode := some (.string "planted") }).2 = .exception := by rfl
    rw [fails] at done
    cases done
  · have isSet := congrArg Option.isSome (same modeName)
    exact absurd isSet (by decide +kernel)

end MoveContext

end Cyphesis.Simulation
