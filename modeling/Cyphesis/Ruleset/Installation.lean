import Cyphesis.Ruleset.Coherence

/-!
# What installing a rule does

A successful install enters one type, with the description of the rule, below a type that is there.
-/

namespace Cyphesis.Ruleset

open Std (ExtTreeMap)
open Cyphesis.Atlas Option Std.ExtTreeMap
open Cyphesis.Foundation

/-- A description without what is entered later. -/
def Description.bare (description : Description) : Description :=
  { description with children := none, properties := none, access := none }

/-- Parent of a type, and its rule. -/
def TypeNode.origin (node : TypeNode) : Option String × Description :=
  (node.parent, node.privateDescription.bare)

def EntityKit.isEntity : EntityKit → Bool
  | .entity _ => true
  | .archetype _ => false

namespace RuleBook

/-- A new type; only its parent is new besides. -/
structure Entered (book changed : RuleBook) (obj : Description) : Prop where
  new : book.atlasObjects[obj.id]? = none
  different : obj.id ≠ obj.parent
  type : changed.atlasObjects[obj.id]? =
    some { TypeNode.create obj.id obj with parent := some obj.parent }
  parent : ∃ parentNode children, book.atlasObjects[obj.parent]? = some parentNode ∧
    changed.atlasObjects[obj.parent]? = some (parentNode.setDescription
      { parentNode.privateDescription with children := some children })
  others : ∀ name : String, name ≠ obj.id → name ≠ obj.parent →
    changed.atlasObjects[name]? = book.atlasObjects[name]?
  factories : changed.entityFactories = book.entityFactories
  manager : changed.propertyFactories = book.propertyFactories
  waiting : changed.waitingRules = book.waitingRules

variable {name : String}

theorem getElem?_of_hasClass {book : RuleBook} (known : book.hasClass name = true) :
    ∃ node, book.atlasObjects[name]? = some node := by
  rw [hasClass, contains_eq_isSome_getElem?] at known
  exact Option.isSome_iff_exists.mp known

theorem hasClass_of_getElem? {book : RuleBook} {node : TypeNode}
    (known : book.atlasObjects[name]? = some node) : book.hasClass name = true := by
  rw [hasClass, contains_eq_isSome_getElem?, known, isSome_some]

theorem addChild_entered {book changed : RuleBook} {obj : Description}
    (added : book.addChild obj = some changed) : Entered book changed obj := by
  unfold addChild at added
  cases exists_ : book.hasClass obj.id with
  | true => simp [exists_] at added
  | false =>
    cases isParent : book.atlasObjects[obj.parent]? with
    | none => simp [exists_, isParent] at added
    | some parentNode =>
      simp only [exists_, isParent, Bool.false_eq_true, if_false, Option.some.injEq] at added
      have new : book.atlasObjects[obj.id]? = none := by
        rw [hasClass, contains_eq_isSome_getElem?] at exists_
        cases found : book.atlasObjects[obj.id]? with
        | none => rfl
        | some node =>
          rw [found] at exists_
          contradiction
      have different : obj.id ≠ obj.parent := by
        intro same
        rw [same, isParent] at new
        contradiction
      subst added
      refine
        { new := new
          different := different
          type := ?_
          parent := ⟨parentNode, parentNode.privateDescription.children.getD [] ++ [obj.id],
            isParent, ?_⟩
          others := ?_
          factories := rfl
          manager := rfl
          waiting := rfl }
      · rw [atlasObjects_setType, if_pos rfl]
      · rw [atlasObjects_setType, if_neg different, atlasObjects_setType, if_pos rfl]
      · intro name notNew notParent
        rw [atlasObjects_setType, if_neg (Ne.symm notNew), atlasObjects_setType,
          if_neg (Ne.symm notParent)]

namespace Entered

variable {book changed : RuleBook} {obj : Description} (entered : Entered book changed obj)

include entered

theorem before {node : TypeNode} (known : book.atlasObjects[name]? = some node) :
    ∃ changedNode, changed.atlasObjects[name]? = some changedNode ∧
      changedNode.defaults = node.defaults ∧ changedNode.name = node.name ∧
      changedNode.parent = node.parent := by
  have notNew : name ≠ obj.id := by
    rintro rfl
    rw [entered.new] at known
    contradiction
  by_cases isParent : name = obj.parent
  · subst isParent
    obtain ⟨parentNode, children, isBefore, isAfter⟩ := entered.parent
    rw [isBefore] at known
    obtain rfl := Option.some.inj known
    exact ⟨_, isAfter, rfl, rfl, rfl⟩
  · exact ⟨node, (entered.others name notNew isParent).trans known, rfl, rfl, rfl⟩

theorem defaults (notNew : name ≠ obj.id) :
    changed.atlasObjects[name]?.map TypeNode.defaults =
      book.atlasObjects[name]?.map TypeNode.defaults := by
  by_cases isParent : name = obj.parent
  · subst isParent
    obtain ⟨parentNode, children, isBefore, isAfter⟩ := entered.parent
    rw [isBefore, isAfter]
    rfl
  · rw [entered.others name notNew isParent]

theorem hasClass_iff (name : String) :
    changed.hasClass name = true ↔ name = obj.id ∨ book.hasClass name = true := by
  constructor
  · intro known
    by_cases isNew : name = obj.id
    · exact Or.inl isNew
    · obtain ⟨node, isNode⟩ := getElem?_of_hasClass known
      have same := entered.defaults isNew
      rw [isNode, map_some] at same
      obtain ⟨before, isBefore, -⟩ := Option.map_eq_some_iff.mp same.symm
      exact Or.inr (hasClass_of_getElem? isBefore)
  · rintro (rfl | known)
    · exact hasClass_of_getElem? entered.type
    · obtain ⟨node, isNode⟩ := getElem?_of_hasClass known
      obtain ⟨changedNode, isChanged, -⟩ := entered.before isNode
      exact hasClass_of_getElem? isChanged

end Entered

/-- A default property of a type. -/
def defaultOf (book : RuleBook) (type name : String) : Option Property :=
  book.atlasObjects[type]?.bind fun node => node.defaults[name]?

theorem defaultOf_congr {book changed : RuleBook} {type : String}
    (same : changed.atlasObjects[type]?.map TypeNode.defaults =
      book.atlasObjects[type]?.map TypeNode.defaults) (name : String) :
    changed.defaultOf type name = book.defaultOf type name := by
  have mapped : ∀ other : RuleBook, other.defaultOf type name =
      (other.atlasObjects[type]?.map TypeNode.defaults).bind fun defaults => defaults[name]? := by
    intro other
    rw [defaultOf, bind_map]
    rfl
  rw [mapped, mapped, same]

/-- The parent and the description that a type was last installed with. -/
def origin (book : RuleBook) (name : String) : Option (Option String × Description) :=
  book.atlasObjects[name]?.map TypeNode.origin

def kind (book : RuleBook) (name : String) : Option Bool :=
  book.entityFactories[name]?.map EntityKit.isEntity

section

variable {book : RuleBook}

theorem hasClass_iff_origin : book.hasClass name = true ↔ (book.origin name).isSome = true := by
  rw [hasClass, contains_eq_isSome_getElem?, origin, isSome_map]

theorem hasClass_eq_false_iff_origin : book.hasClass name = false ↔ book.origin name = none := by
  rw [hasClass, contains_eq_isSome_getElem?, origin, map_eq_none_iff,
    isSome_eq_false_iff, isNone_iff_eq_none]

theorem kind_eq_entity :
    book.kind name = some true ↔ ∃ factory, book.entityFactory name = some factory := by
  unfold kind entityFactory
  cases book.entityFactories[name]? with
  | none => simp
  | some kit => cases kit <;> simp [EntityKit.isEntity]

theorem kind_eq_archetype :
    book.kind name = some false ↔ ∃ factory, book.archetypeFactory name = some factory := by
  unfold kind archetypeFactory
  cases book.entityFactories[name]? with
  | none => simp
  | some kit => cases kit <;> simp [EntityKit.isEntity]

end

/-- Kinds stay, and nothing else waits. -/
structure Keeps (book changed : RuleBook) : Prop where
  types : ∀ name, changed.origin name = book.origin name
  kits : ∀ name, changed.kind name = book.kind name
  manager : changed.propertyFactories = book.propertyFactories
  waiting : changed.waitingRules = book.waitingRules

theorem Keeps.refl (book : RuleBook) : Keeps book book :=
  ⟨fun _ => rfl, fun _ => rfl, rfl, rfl⟩

theorem Keeps.trans {first second third : RuleBook} (left : Keeps first second)
    (right : Keeps second third) : Keeps first third where
  types name := (right.types name).trans (left.types name)
  kits name := (right.kits name).trans (left.kits name)
  manager := right.manager.trans left.manager
  waiting := right.waiting.trans left.waiting

theorem keeps_setEntityFactory {book : RuleBook} {old : EntityFactory}
    (known : book.entityFactory name = some old) (factory : EntityFactory) :
    Keeps book (book.setEntityFactory name factory) where
  types _ := rfl
  kits other := by
    unfold kind setEntityFactory
    by_cases same : name = other
    · subst same
      rw [getElem?_insert_self]
      exact (kind_eq_entity.mpr ⟨old, known⟩).symm
    · rw [getElem?_insert]
      simp [same]
  manager := rfl
  waiting := rfl

theorem keeps_setType {book : RuleBook} {node changed : TypeNode}
    (known : book.atlasObjects[name]? = some node) (same : changed.origin = node.origin) :
    Keeps book (book.setType name changed) where
  types other := by
    unfold origin
    rw [atlasObjects_setType]
    split
    case isTrue isName =>
        subst isName
        rw [known, map_some, map_some, same]
    case isFalse => rfl
  kits _ := rfl
  manager := rfl
  waiting := rfl

theorem keeps_updateType (book : RuleBook) (changes : Changes) (name : String)
    (attributes : MapType) : Keeps book (book.updateType changes name attributes).1 := by
  unfold updateType
  cases known : book.atlasObjects[name]? with
  | none => exact Keeps.refl book
  | some node => exact keeps_setType known rfl

theorem keeps_updateProperties (depth : Nat) (result : RuleBook × Changes) (name : String) :
    Keeps result.1 (updateProperties depth result name).1 := by
  induction depth generalizing result name with
  | zero => exact Keeps.refl result.1
  | succ depth ih =>
    cases known : result.1.entityFactory name with
    | none =>
      simp only [updateProperties, known]
      exact Keeps.refl result.1
    | some factory =>
      rw [updateProperties_succ known]
      -- each child may change its factory before its turn
      have loop : ∀ (children : List String) (state : RuleBook × Changes),
          Keeps state.1 (children.foldl (handDown depth factory.attributes) state).1 := by
        intro children
        induction children with
        | nil => exact fun state => Keeps.refl state.1
        | cons child children inner =>
          intro state
          have step : Keeps state.1 (handDown depth factory.attributes state child).1 := by
            unfold handDown
            cases childKnown : state.1.entityFactory child with
            | none => exact Keeps.refl state.1
            | some childFactory =>
              apply (keeps_setEntityFactory childKnown
                (childFactory.inherit factory.attributes)).trans
              exact ih (_, state.2) child
          exact step.trans (inner _)
      exact (keeps_updateType result.1 result.2 name factory.attributes).trans (loop _ _)

/-- A parent for rules of the kind. -/
def Provides (book : RuleBook) (name : String) (objtype : Objtype) : Prop :=
  book.hasClass name = true ∧
    match objtype with
    | .opDefinition => True
    | .entityClass => book.kind name = some true
    | .propertyType => book.propertyFactories.contains name = true
    | .archetype => book.kind name = some false
    | .other => False

/-- Every factory belongs to a type. -/
def Typed (book : RuleBook) : Prop :=
  ∀ name, book.hasClass name = false → book.kind name = none

/-- A rule has been installed. -/
structure Installed (book changed : RuleBook) (rule : Description) : Prop where
  unknown : book.hasClass rule.id = false
  parentKnown : book.hasClass rule.parent = true
  origin : changed.origin rule.id = some (some rule.parent, rule.bare)
  provides : book.Typed → changed.Provides rule.id rule.objtype
  types : ∀ name, name ≠ rule.id → changed.origin name = book.origin name
  kits : ∀ name, name ≠ rule.id → changed.kind name = book.kind name
  manager : ∀ name : String, name ≠ rule.id →
    changed.propertyFactories[name]? = book.propertyFactories[name]?
  waiting : changed.waitingRules = book.waitingRules

namespace Entered

variable {book changed : RuleBook} {obj : Description} (entered : Entered book changed obj)

include entered

theorem unknown : book.hasClass obj.id = false := by
  rw [hasClass_eq_false_iff_origin, RuleBook.origin, entered.new, map_none]

theorem parentKnown : book.hasClass obj.parent = true := by
  obtain ⟨parentNode, -, isParent, -⟩ := entered.parent
  exact hasClass_of_getElem? isParent

theorem origin_new : changed.origin obj.id = some (some obj.parent, obj.bare) := by
  rw [RuleBook.origin, entered.type]
  rfl

theorem origin_of_ne {name : String} (notNew : name ≠ obj.id) :
    changed.origin name = book.origin name := by
  unfold RuleBook.origin
  by_cases isParent : name = obj.parent
  · subst isParent
    obtain ⟨parentNode, children, isBefore, isAfter⟩ := entered.parent
    rw [isBefore, isAfter]
    rfl
  · rw [entered.others name notNew isParent]

end Entered

/-- Before its parent hears of it. -/
theorem installed_installFactory {book changed : RuleBook} {rule : Description} {kit : EntityKit}
    (added : book.installFactory rule kit = some changed) (attributes : MapType)
    (fits : kit.isEntity = true ∧ rule.objtype = .entityClass ∨
      kit.isEntity = false ∧ rule.objtype = .archetype) :
    Installed book (changed.addProperties rule.id attributes) rule := by
  obtain ⟨mid, isMid, rfl⟩ := Option.map_eq_some_iff.mp added
  have entered := addChild_entered isMid
  have isType : { mid with entityFactories := mid.entityFactories.insertIfNew rule.id kit
      }.atlasObjects[rule.id]? = _ := entered.type
  have keeps : Keeps { mid with entityFactories := mid.entityFactories.insertIfNew rule.id kit }
      (addProperties { mid with entityFactories := mid.entityFactories.insertIfNew rule.id kit }
        rule.id attributes) := by
    rw [addProperties, isType]
    exact keeps_setType isType rfl
  have isNew := keeps.types rule.id
  rw [show origin { mid with entityFactories := mid.entityFactories.insertIfNew rule.id kit }
    rule.id = _ from entered.origin_new] at isNew
  refine
    { unknown := entered.unknown
      parentKnown := entered.parentKnown
      origin := isNew
      provides := ?_
      types := ?_
      kits := ?_
      manager := ?_
      waiting := keeps.waiting.trans entered.waiting }
  · intro typed
    have isKit : (mid.entityFactories.insertIfNew rule.id kit)[rule.id]? = some kit := by
      have none : mid.entityFactories[rule.id]? = none := by
        rw [entered.factories]
        exact Option.map_eq_none_iff.mp (typed rule.id entered.unknown)
      rw [getElem?_insertIfNew, if_pos]
      simp [mem_iff_isSome_getElem?, none]
    have isKind : kind { mid with entityFactories := mid.entityFactories.insertIfNew rule.id kit }
        rule.id = some kit.isEntity := by
      rw [kind, isKit, map_some]
    constructor
    · rw [hasClass_iff_origin, isNew, isSome_some]
    · rcases fits with ⟨isEntity, isClass⟩ | ⟨isEntity, isArchetype⟩
      · rw [isClass]
        exact (keeps.kits rule.id).trans (isKind.trans (congrArg some isEntity))
      · rw [isArchetype]
        exact (keeps.kits rule.id).trans (isKind.trans (congrArg some isEntity))
  · intro name notNew
    exact (keeps.types name).trans (entered.origin_of_ne notNew)
  · intro name notNew
    rw [keeps.kits name]
    unfold kind
    rw [getElem?_insertIfNew, if_neg, entered.factories]
    simp [Ne.symm notNew]
  · intro name _
    rw [keeps.manager]
    exact congrArg (fun manager : PropertyManager => manager[name]?) entered.manager

theorem Installed.keeps {book mid changed : RuleBook} {rule : Description}
    (installed : Installed book mid rule) (keeps : Keeps mid changed) :
    Installed book changed rule where
  unknown := installed.unknown
  parentKnown := installed.parentKnown
  origin := (keeps.types _).trans installed.origin
  provides typed := by
    have known := (installed.provides typed).1
    rw [hasClass_iff_origin, ← keeps.types, ← hasClass_iff_origin] at known
    have fits := (installed.provides typed).2
    refine ⟨known, ?_⟩
    rw [← keeps.kits, ← keeps.manager] at fits
    exact fits
  types name notNew := (keeps.types name).trans (installed.types name notNew)
  kits name notNew := (keeps.kits name).trans (installed.kits name notNew)
  manager name notNew := by
    rw [keeps.manager]
    exact installed.manager name notNew
  waiting := keeps.waiting.trans installed.waiting

theorem keeps_joinParent (book : RuleBook) (changes : Changes) (name parent : String) :
    Keeps book (book.joinParent changes name parent).1 := by
  unfold joinParent
  cases known : book.entityFactory parent with
  | none => exact Keeps.refl book
  | some factory =>
    apply (keeps_setEntityFactory known
      { factory with children := factory.children ++ [name] }).trans
    exact keeps_updateProperties _ (_, changes) parent

section Handlers

variable {book : RuleBook} {changes : Changes} {rule : Description}

variable {result : RuleBook × Changes}

theorem installed_installOpDefinition
    (isOp : rule.objtype = .opDefinition)
    (succeeds : book.installOpDefinition changes rule = .installed result) :
    Installed book result.1 rule := by
  unfold installOpDefinition at succeeds
  split_ifs at succeeds
  cases added : book.addChild rule with
  | none => simp [added] at succeeds
  | some changed =>
    simp only [added, InstallResult.installed.injEq] at succeeds
    subst succeeds
    have entered := addChild_entered added
    exact
      { unknown := entered.unknown
        parentKnown := entered.parentKnown
        origin := entered.origin_new
        provides := fun _ => by
          rw [isOp]
          exact ⟨hasClass_of_getElem? entered.type, trivial⟩
        types := fun _ => entered.origin_of_ne
        kits := fun name _ => by rw [kind, kind, entered.factories]
        manager := fun name _ => by rw [entered.manager]
        waiting := entered.waiting }

theorem installed_installEntityClass
    (isClass : rule.objtype = .entityClass)
    (succeeds : book.installEntityClass changes rule = .installed result) :
    Installed book result.1 rule := by
  unfold installEntityClass at succeeds
  cases isFactory : book.newEntityFactory rule.id rule.parent with
  | inr reason => simp [isFactory] at succeeds
  | inl factory =>
    cases added : book.installFactory rule (.entity (factory.populate rule)) with
    | none => simp [isFactory, added] at succeeds
    | some changed =>
      simp only [isFactory, added, InstallResult.installed.injEq] at succeeds
      subst succeeds
      exact (installed_installFactory added _ (Or.inl ⟨rfl, isClass⟩)).keeps
        (keeps_joinParent _ _ _ _)

theorem installed_installArchetypeClass
    (isArchetype : rule.objtype = .archetype)
    (succeeds : book.installArchetypeClass changes rule = .installed result) :
    Installed book result.1 rule := by
  unfold installArchetypeClass at succeeds
  cases isParent : book.archetypeFactory rule.parent with
  | none => simp [isParent] at succeeds
  | some parentFactory =>
    simp only [isParent] at succeeds
    split at succeeds
    case h_1 => simp at succeeds
    case h_2 changed added =>
        have installed :
            ∀ attributes, Installed book (changed.addProperties rule.id attributes) rule :=
          fun attributes => installed_installFactory added attributes (Or.inr ⟨rfl, isArchetype⟩)
        split at succeeds
        case h_1 =>
            obtain rfl := InstallResult.installed.inj succeeds
            exact installed _
        case h_2 joined isJoined =>
            obtain rfl := InstallResult.installed.inj succeeds
            apply (installed _).keeps
            refine ⟨fun _ => rfl, fun other => ?_, rfl, rfl⟩
            unfold kind
            by_cases same : rule.parent = other
            · subst same
              rw [getElem?_insert_self]
              exact (kind_eq_archetype.mpr ⟨joined, isJoined⟩).symm
            · rw [getElem?_insert]
              simp [same]

theorem installed_installPropertyType
    (isProperty : rule.objtype = .propertyType)
    (succeeds : book.installPropertyType changes rule = .installed result) :
    Installed book result.1 rule ∨ result.1 = book := by
  unfold installPropertyType at succeeds
  split_ifs at succeeds
  cases isKit : book.propertyFactories[rule.parent]? with
  | none => simp [isKit] at succeeds
  | some kit =>
    cases added : book.addChild rule with
    | none =>
      simp only [isKit, added, InstallResult.installed.injEq] at succeeds
      exact Or.inr (congrArg Prod.fst succeeds.symm)
    | some changed =>
      simp only [isKit, added, InstallResult.installed.injEq] at succeeds
      subst succeeds
      have entered := addChild_entered added
      refine Or.inl
        { unknown := entered.unknown
          parentKnown := entered.parentKnown
          origin := entered.origin_new
          provides := fun _ => ?_
          types := fun _ => entered.origin_of_ne
          kits := fun name _ => ?_
          manager := fun name notNew => ?_
          waiting := entered.waiting }
      · rw [isProperty]
        refine ⟨hasClass_of_getElem? entered.type, ?_⟩
        simp
      · unfold kind
        rw [show RuleBook.entityFactories _ = book.entityFactories from entered.factories]
      · rw [getElem?_insertIfNew, if_neg, entered.manager]
        simp [Ne.symm notNew]

theorem installRuleInner_installed
    (succeeds : book.installRuleInner changes rule = .installed result) :
    Installed book result.1 rule ∨ (rule.objtype = .propertyType ∧ result.1 = book) := by
  unfold installRuleInner at succeeds
  split_ifs at succeeds
  cases isKind : rule.objtype with
  | opDefinition =>
    rw [isKind] at succeeds
    exact Or.inl (installed_installOpDefinition isKind succeeds)
  | entityClass =>
    rw [isKind] at succeeds
    exact Or.inl (installed_installEntityClass isKind succeeds)
  | propertyType =>
    rw [isKind] at succeeds
    exact (installed_installPropertyType isKind succeeds).imp_right fun same => ⟨rfl, same⟩
  | archetype =>
    rw [isKind] at succeeds
    exact Or.inl (installed_installArchetypeClass isKind succeeds)
  | other => simp [isKind] at succeeds

theorem installRuleInner_waits {dependent reason : String}
    (waits : book.installRuleInner changes rule = .waits dependent reason) :
    dependent = rule.parent := by
  unfold installRuleInner at waits
  split_ifs at waits
  cases isKind : rule.objtype with
  | opDefinition =>
    simp only [isKind, installOpDefinition] at waits
    split_ifs at waits
    · exact (InstallResult.waits.inj waits).1.symm
    · split at waits <;> cases waits
  | entityClass =>
    simp only [isKind, installEntityClass] at waits
    split at waits
    · exact (InstallResult.waits.inj waits).1.symm
    · split at waits <;> cases waits
  | propertyType =>
    simp only [isKind, installPropertyType] at waits
    split_ifs at waits
    split at waits
    · exact (InstallResult.waits.inj waits).1.symm
    · split at waits <;> cases waits
  | archetype =>
    simp only [isKind, installArchetypeClass] at waits
    split at waits
    · exact (InstallResult.waits.inj waits).1.symm
    · split at waits
      · cases waits
      · split at waits <;> cases waits
  | other => simp [isKind] at waits

/-- A rule that is not refused on sight. -/
structure Acceptable (rule : Description) : Prop where
  idLen : rule.id.utf8ByteSize ≤ idLen
  parent : rule.parent ≠ ""
  objtype : rule.objtype ≠ .other

/-- There is no trace of the name. -/
def Absent (book : RuleBook) (name : String) : Prop :=
  book.hasClass name = false ∧ book.propertyFactories.contains name = false

theorem installRuleInner_of_absent (changes : Changes) (acceptable : Acceptable rule)
    (typed : book.Typed) (absent : book.Absent rule.parent) (notRoot : rule.parent ≠ "game_entity")
    (unknown : book.Absent rule.id) :
    ∃ reason, book.installRuleInner changes rule = .waits rule.parent reason := by
  have noKind := typed _ absent.1
  have noFactory : book.entityFactories[rule.parent]? = none := Option.map_eq_none_iff.mp noKind
  unfold installRuleInner
  rw [if_neg (Nat.not_lt.mpr acceptable.idLen), if_neg acceptable.parent]
  cases isKind : rule.objtype with
  | opDefinition => exact ⟨_, if_pos (by rw [absent.1]; rfl)⟩
  | entityClass =>
    simp only [installEntityClass, newEntityFactory, if_neg notRoot, entityFactory, noFactory]
    exact ⟨_, rfl⟩
  | propertyType =>
    have noProperty : book.propertyFactories[rule.parent]? = none := by
      have missing := absent.2
      rw [contains_eq_isSome_getElem?, isSome_eq_false_iff, isNone_iff_eq_none] at missing
      exact missing
    simp only [installPropertyType, unknown.2, noProperty, Bool.false_eq_true, if_false]
    exact ⟨_, rfl⟩
  | archetype =>
    simp only [installArchetypeClass, archetypeFactory, noFactory]
    exact ⟨_, rfl⟩
  | other => exact absurd isKind acceptable.objtype

/-- The parent is what the rule needs. -/
def Ready (book : RuleBook) (rule : Description) : Prop :=
  if rule.objtype = .entityClass ∧ rule.parent = "game_entity" then
    book.hasClass "game_entity" = true ∧ rule.id ∈ predefinedFactories
  else book.Provides rule.parent rule.objtype

theorem Ready.parentKnown (ready : book.Ready rule) : book.hasClass rule.parent = true := by
  unfold Ready at ready
  split_ifs at ready with isRoot
  · rw [isRoot.2]
    exact ready.1
  · exact ready.1

theorem exists_addChild
    (known : book.hasClass rule.parent = true) (unknown : book.hasClass rule.id = false) :
    ∃ changed, book.addChild rule = some changed := by
  obtain ⟨node, isNode⟩ := getElem?_of_hasClass known
  unfold addChild
  rw [unknown, isNode]
  exact ⟨_, rfl⟩

theorem exists_newEntityFactory (isClass : rule.objtype = .entityClass) (ready : book.Ready rule) :
    (∃ factory, book.newEntityFactory rule.id rule.parent = .inl factory) ∧
      book.hasClass rule.parent = true := by
  unfold Ready at ready
  unfold newEntityFactory
  by_cases isRoot : rule.parent = "game_entity"
  · rw [if_pos ⟨isClass, isRoot⟩] at ready
    rw [if_pos isRoot, if_pos ready.2, isRoot]
    exact ⟨⟨_, rfl⟩, ready.1⟩
  · rw [if_neg fun both => isRoot both.2, isClass] at ready
    obtain ⟨parentFactory, isParent⟩ := kind_eq_entity.mp ready.2
    rw [if_neg isRoot, isParent]
    refine ⟨?_, ready.1⟩
    by_cases predefined : rule.id ∈ predefinedFactories
    · exact ⟨_, if_pos predefined⟩
    · exact ⟨_, if_neg predefined⟩

/-- Ready and new, it is installed. -/
theorem installRuleInner_of_ready (changes : Changes) (acceptable : Acceptable rule)
    (ready : book.Ready rule) (unknown : book.Absent rule.id) :
    ∃ result, book.installRuleInner changes rule = .installed result ∧
      Installed book result.1 rule := by
  have succeeds : (∃ result, book.installRuleInner changes rule = .installed result) ∧
      book.hasClass rule.parent = true := by
    unfold installRuleInner
    rw [if_neg (Nat.not_lt.mpr acceptable.idLen), if_neg acceptable.parent]
    cases isKind : rule.objtype with
    | opDefinition =>
      rw [Ready, if_neg (by simp [isKind])] at ready
      obtain ⟨changed, added⟩ := exists_addChild ready.1 unknown.1
      simp only [installOpDefinition, ready.1, added]
      exact ⟨⟨_, rfl⟩, trivial⟩
    | entityClass =>
      obtain ⟨⟨factory, isFactory⟩, known⟩ := exists_newEntityFactory isKind ready
      obtain ⟨changed, added⟩ := exists_addChild known unknown.1
      simp only [installEntityClass, isFactory, installFactory, added, map_some]
      exact ⟨⟨_, rfl⟩, known⟩
    | propertyType =>
      rw [Ready, if_neg (by simp [isKind]), isKind] at ready
      obtain ⟨changed, added⟩ := exists_addChild ready.1 unknown.1
      have isKit := ready.2
      rw [contains_eq_isSome_getElem?] at isKit
      obtain ⟨kit, isKit⟩ := Option.isSome_iff_exists.mp isKit
      simp only [installPropertyType, unknown.2, isKit, added]
      exact ⟨⟨_, rfl⟩, ready.1⟩
    | archetype =>
      rw [Ready, if_neg (by simp [isKind]), isKind] at ready
      obtain ⟨changed, added⟩ := exists_addChild ready.1 unknown.1
      obtain ⟨parentFactory, isParent⟩ := kind_eq_archetype.mp ready.2
      simp only [installArchetypeClass, isParent, installFactory, added, map_some]
      refine ⟨?_, ready.1⟩
      split
      · exact ⟨_, rfl⟩
      · exact ⟨_, rfl⟩
    | other => exact absurd isKind acceptable.objtype
  obtain ⟨⟨result, isResult⟩, known⟩ := succeeds
  refine ⟨result, isResult, ?_⟩
  rcases installRuleInner_installed isResult with installed | ⟨isProperty, unchanged⟩
  · exact installed
  · -- the type can be entered, so that a property type is not passed over
    exfalso
    obtain ⟨changed, added⟩ := exists_addChild known unknown.1
    have entered := addChild_entered added
    unfold installRuleInner at isResult
    rw [if_neg (Nat.not_lt.mpr acceptable.idLen), if_neg acceptable.parent, isProperty] at isResult
    simp only [installPropertyType, unknown.2, added] at isResult
    split at isResult
    · contradiction
    · split at isResult
      · contradiction
      · obtain rfl := InstallResult.installed.inj isResult
        have sameTypes : changed.atlasObjects = book.atlasObjects := by
          rw [← unchanged]
        have isType := entered.type
        rw [sameTypes, entered.new] at isType
        contradiction

end Handlers

/-- Description of a type without attributes. -/
def plainDescription (id parent : String) (objtype : Objtype) : Description :=
  { id := id
    parent := parent
    objtype := objtype
    attributes := none
    entities := none
    thoughts := none
    children := none
    properties := none
    access := none }

/-- Built-in types to start from. -/
def builtinBook : RuleBook where
  atlasObjects :=
    ((((∅ : ExtTreeMap String TypeNode compare).insert "root"
      (TypeNode.create "root" (plainDescription "root" "" .other))).insert "root_operation"
      (TypeNode.create "root_operation"
        (plainDescription "root_operation" "root" .opDefinition))).insert
      "game_entity"
      (TypeNode.create "game_entity" (plainDescription "game_entity" "root" .entityClass))).insert
      "archetype" (TypeNode.create "archetype" (plainDescription "archetype" "root" .entityClass))
  entityFactories := (∅ : ExtTreeMap String EntityKit compare).insert "archetype"
    (.archetype
      { entities := ∅
        thoughts := []
        classEntities := ∅
        classThoughts := []
        parent := none
        children := [] })
  propertyFactories := ∅
  waitingRules := []

/-- An entity class with one attribute. -/
def classRule (id parent attributeName : String) (value : Element) : Description :=
  { plainDescription id parent .entityClass with
    attributes := some ((∅ : MapType).insert attributeName (.map [("default", value)])) }

end RuleBook

end Cyphesis.Ruleset
