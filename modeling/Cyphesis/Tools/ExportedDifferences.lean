import Cyphesis.Foundation.Keyed
import Cyphesis.Rules.Merge
import Cyphesis.Tools.EntityExporter

/-!
# Differences from the type

Of a property that its type has too only the difference is written.
-/

namespace Cyphesis.Tools

open Cyphesis.Atlas Cyphesis.Common Cyphesis.Foundation Cyphesis.Rules

variable (left right : Element)

/-- The same, or equal for the library. -/
def Same : Prop :=
  left = right ∨ (left == right) = true ∨ (right == left) = true

/-- The same value, or a list of the same items. -/
def Alike : Prop :=
  Same left right ∨ ∃ items others, left = .list items ∧ right = .list others ∧
    List.Forall₂ Same items others

/-- A fresh entity, with the type's default. -/
structure Fresh (entity : LocatedEntity) (name : String) (typeElement : Element) : Prop where
  noOwn : entity.properties[name]? = none
  hasDefault : (entity.typeDefault name).map SoftProperty.get = some typeElement

/-- Set what was written, by keys. -/
def restored (written : List (String × Element)) (entity : LocatedEntity) (name : String) :
    LocatedEntity :=
  [name, name ++ "!append", name ++ "!prepend"].foldl
    (fun current key => (written.lookup key).elim current (current.setAttrValue key)) entity

/-- A list around that of the type, found once. -/
structure Around (typeList before mid after : List Element) : Prop where
  same : Element.equalItems mid typeList = true
  adds : before ≠ [] ∨ after ≠ []
  first : ∃ item, typeList.head? = some item ∧ ∀ other ∈ before, (other == item) = false
  last : ∃ item, typeList.getLast? = some item ∧ ∀ other ∈ after, (other == item) = false

/-- A list with items around the type's. -/
def AddsItems (typeElement value : Element) : Prop :=
  ∃ typeList before mid after, typeElement = .list typeList ∧
    value = .list (before ++ mid ++ after) ∧ Around typeList before mid after

/-- Nothing and zero are not written. -/
def Neglected (name : String) (value : Element) : Prop :=
  (name = "angular" ∨ name = "_propel") ∧ isZeroVector value = true

/-- What is written gives its value back. -/
structure Restores (typeElement value : Element) (written : List (String × Element))
    (entity : LocatedEntity) (name : String) : Prop where
  back : ¬ Neglected name value →
    ∃ result, (restored written entity name).getAttr name = some result ∧ Alike result value
  neglected : Neglected name value → written.lookup name = none
  relative : AddsItems typeElement value →
    written.lookup name = none ∧ ((written.lookup (name ++ "!prepend")).isSome ∨
      (written.lookup (name ++ "!append")).isSome)

/-! ## Lookups -/

theorem lookup_mapAssign (key : String) (value : Element) (entries : List (String × Element))
    (other : String) :
    (mapAssign key value entries).lookup other =
      if other = key then some value else entries.lookup other := by
  induction entries with
  | nil => rw [mapAssign, lookup_cons_eq_ite]
  | cons entry rest ih =>
    rcases entry with ⟨first, old⟩
    rw [mapAssign]
    split
    · next same =>
      subst same
      rw [lookup_cons_eq_ite, lookup_cons_eq_ite]
      split <;> rfl
    · next different =>
      split
      · exact lookup_cons_eq_ite ..
      · rw [lookup_cons_eq_ite, ih, lookup_cons_eq_ite]
        grind

theorem lookup_foldl_mapInsert (entries added : List (String × Element)) (key : String) :
    (added.foldl mapInsert entries).lookup key = (entries ++ added).lookup key := by
  induction added generalizing entries with
  | nil => rw [List.foldl_nil, List.append_nil]
  | cons entry rest ih =>
    have inserted : (mapInsert entries entry).lookup key =
        (entries.lookup key).or ([entry].lookup key) := by
      rw [lookup_cons_eq_ite]
      unfold mapInsert
      by_cases isKey : key = entry.1
      · subst isKey
        cases found : entries.lookup entry.1 with
        | none => simp [lookup_mapAssign]
        | some old => simp [found]
      · rw [if_neg isKey, List.lookup_nil, Option.or_none]
        split
        · rfl
        · rw [lookup_mapAssign, if_neg isKey]
    rw [List.foldl_cons, ih, List.lookup_append, inserted, List.append_cons, List.lookup_append,
      List.lookup_append]

/-! ## What is written -/

theorem parse_relative {name : String} (valid : PropertyUtil.isValidName name = true)
    (suffix modified : String) (isModified : modified.toList = '!' :: suffix.toList)
    {type : ModifierType} (isType : PropertyUtil.modifierTypeOfSuffix suffix = some type) :
    PropertyUtil.parsePropertyModification (name ++ modified) = (type, name) := by
  have characters := PropertyUtil.unmodified_of_isValidName valid
  rw [PropertyUtil.parsePropertyModification, String.toList_append, isModified,
    List.dropWhile_append_of_pos characters, List.takeWhile_append_of_pos characters]
  simp [isType]

theorem forall₂_of_equalItems {left right : List Element}
    (same : Element.equalItems left right = true) :
    List.Forall₂ (fun item other => (item == other) = true) left right := by
  induction left generalizing right with
  | nil =>
    cases right with
    | nil => exact .nil
    | cons other right => cases same
  | cons item left ih =>
    cases right with
    | nil => cases same
    | cons other right =>
      rw [Element.equalItems, Bool.and_eq_true] at same
      exact .cons same.1 (ih same.2)

theorem lastMatch_spec (items : List Element) (item : Element) (last : Nat) :
    let found := lastMatch items item last
    found ≤ last ∧
      (∀ place, found < place → place ≤ last → (items.getD place .none == item) = false) ∧
      (found = 0 ∨ (items.getD found .none == item) = true) := by
  induction last with
  | zero => exact ⟨Nat.le_refl 0, fun place lower upper => absurd lower (by omega), .inl rfl⟩
  | succ last ih =>
    dsimp only at ih ⊢
    rw [lastMatch]
    split
    · next matched =>
      exact ⟨Nat.le_refl _, fun place lower upper => absurd lower (by omega), .inr matched⟩
    · next missed =>
      refine ⟨Nat.le_succ_of_le ih.1, fun place lower upper => ?_, ih.2.2⟩
      rcases Nat.lt_or_eq_of_le upper with earlier | rfl
      · exact ih.2.1 place lower (Nat.lt_succ_iff.mp earlier)
      · exact Bool.eq_false_iff.mpr missed

theorem lastMatch_eq {items : List Element} {item : Element} {place last : Nat}
    (within : place ≤ last) (matched : (items.getD place .none == item) = true)
    (noneLater : ∀ later, place < later → later ≤ last →
      (items.getD later .none == item) = false) : lastMatch items item last = place := by
  rcases lastMatch_spec items item last with ⟨upper, missed, found⟩
  rcases Nat.lt_trichotomy (lastMatch items item last) place with earlier | isPlace | later
  · rw [missed place earlier within] at matched
    cases matched
  · exact isPlace
  · rcases found with isZero | matchedLater
    · omega
    · rw [noneLater _ later upper] at matchedLater
      cases matchedLater

variable {typeList before mid after : List Element}

theorem Around.extract
    (around : Around typeList before mid after) :
    extractListPrependAppend typeList (before ++ mid ++ after) = (before, after) := by
  rcases around with ⟨same, some, ⟨first, isFirst, notBefore⟩, last, isLast, notAfter⟩
  have lengths := (forall₂_of_equalItems same).length_eq
  have notEmpty : 0 < typeList.length :=
    List.length_pos_iff.mpr fun isNil => by rw [isNil] at isFirst; cases isFirst
  have longer : 0 < before.length + after.length := by
    rcases some with some | some <;> have := List.length_pos_iff.mpr some <;> omega
  have firstMatches : (mid[0] == first) = true := by
    rw [List.head?_eq_getElem?, List.getElem?_eq_getElem notEmpty] at isFirst
    rw [← Option.some.inj isFirst]
    exact (forall₂_of_equalItems same).get _ notEmpty
  have lastMatches : (mid[typeList.length - 1] == last) = true := by
    rw [List.getLast?_eq_getElem?, List.getElem?_eq_getElem (by omega)] at isLast
    rw [← Option.some.inj isLast]
    exact (forall₂_of_equalItems same).get _ (by omega)
  have firstIndex : (before ++ mid ++ after).findIdx (· == first) = before.length := by
    rw [List.findIdx_eq (by simp; omega)]
    constructor
    · simpa [List.getElem_append, lengths, notEmpty] using firstMatches
    · intro place lower
      simpa [List.getElem_append, lower, Nat.lt_add_right] using
        notBefore _ (List.getElem_mem lower)
  have lastIndex : lastMatch (before ++ mid ++ after) last ((before ++ mid ++ after).length - 1) =
      before.length + typeList.length - 1 := by
    refine lastMatch_eq (by simp only [List.length_append]; omega) ?_ fun place later upper => ?_
    · rw [Nat.add_sub_assoc notEmpty, List.getD_eq_getElem?_getD, List.append_assoc,
        List.getElem?_append_right (Nat.le_add_right ..), Nat.add_sub_cancel_left,
        List.getElem?_append_left (by omega), List.getElem?_eq_getElem (by omega)]
      exact lastMatches
    · have isAfter : (before ++ mid ++ after).getD place .none ∈ after := by
        grind
      exact notAfter _ isAfter
  unfold extractListPrependAppend
  rw [isFirst, isLast]
  dsimp only
  rw [firstIndex, lastIndex]
  have upTo : (before ++ mid ++ after).take (before.length + typeList.length - 1 + 1) =
      before ++ mid := by
    rw [Nat.sub_add_cancel (by omega), ← lengths, ← List.length_append, List.take_left]
  have rest : (before ++ mid ++ after).drop (before.length + typeList.length - 1 + 1) = after := by
    rw [Nat.sub_add_cancel (by omega), ← lengths, ← List.length_append, List.drop_left]
  rw [upTo, rest, List.drop_left, List.append_assoc, List.take_left, if_neg, if_pos]
  · refine ⟨?_, by omega, same⟩
    simp only [List.length_append]
    omega
  · simp only [List.length_append]
    omega

theorem extractListPrependAppend_cases (typeList entityList : List Element) :
    let result := extractListPrependAppend typeList entityList
    result = ([], []) ∨ ∃ mid, entityList = result.1 ++ mid ++ result.2 ∧
      Around typeList result.1 mid result.2 := by
  rcases List.eq_nil_or_concat' typeList with rfl | ⟨front, last, isConcat⟩
  · exact .inl (by simp [extractListPrependAppend])
  rcases List.exists_cons_of_ne_nil (l := typeList) (by simp [isConcat]) with
    ⟨first, later, isCons⟩
  have isFirst : typeList.head? = some first := by rw [isCons, List.head?_cons]
  have isLast : typeList.getLast? = some last := by rw [isConcat, List.getLast?_concat]
  rcases lastMatch_spec entityList last (entityList.length - 1) with ⟨within, noneLater, _⟩
  unfold extractListPrependAppend
  rw [isFirst, isLast]
  dsimp only
  split
  · exact .inl rfl
  next longer =>
  split
  · next part =>
    rcases part with ⟨some, ordered, same⟩
    refine .inr ⟨_, ?_, same, ?_, ⟨first, isFirst, ?_⟩, last, isLast, ?_⟩
    · have isTake : entityList.take (entityList.findIdx (· == first)) =
          (entityList.take (lastMatch entityList last (entityList.length - 1) + 1)).take
            (entityList.findIdx (· == first)) := by
        rw [List.take_take, min_eq_left (Nat.le_succ_of_le ordered)]
      rw [isTake, List.take_append_drop, List.take_append_drop]
    · rw [ne_eq, ne_eq, List.take_eq_nil_iff, List.drop_eq_nil_iff]
      rcases some with some | some
      · exact .inr (by omega)
      · exact .inl fun isNil => isNil.elim some fun isNil => longer (by simp [isNil])
    · intro item member
      rcases List.mem_take_iff_getElem.mp member with ⟨place, lower, rfl⟩
      exact List.not_of_lt_findIdx (p := (· == first)) (by omega)
    · intro item member
      rcases List.mem_drop_iff_getElem.mp member with ⟨place, upper, rfl⟩
      have missed := noneLater (lastMatch entityList last (entityList.length - 1) + 1 + place)
        (by omega) (by omega)
      rwa [List.getD_eq_getElem?_getD, List.getElem?_eq_getElem (by omega)] at missed
  · exact .inl rfl

/-- The parts of a list that are written. -/
def writtenParts (name : String) (before after : List Element) : List (String × Element) :=
  (if before.isEmpty then [] else [(name ++ "!prepend", .list before)]) ++
    if after.isEmpty then [] else [(name ++ "!append", .list after)]

theorem comparedWithType_cases (name : String) (typeElement value : Element) :
    let change := comparedWithType typeElement (name, value)
    (typeElement == value) = true ∧ change = (true, []) ∨ change = (false, []) ∨
      ∃ typeList before mid after, typeElement = .list typeList ∧
        value = .list (before ++ mid ++ after) ∧ Around typeList before mid after ∧
        change = (true, writtenParts name before after) := by
  dsimp only [comparedWithType]
  split
  · next same => exact .inl ⟨same, rfl⟩
  · split
    · rename_i entityList typeList _
      split
      · exact .inr (.inl rfl)
      next some =>
        rw [Bool.and_eq_true, List.isEmpty_iff, List.isEmpty_iff] at some
        rcases extractListPrependAppend_cases typeList entityList with
          none | ⟨mid, isList, around⟩
        · rw [none] at some
          exact absurd ⟨rfl, rfl⟩ some
        · exact .inr (.inr ⟨_, _, mid, _, rfl, congrArg _ isList, around, rfl⟩)
    · exact .inr (.inl (by simp [extractMapPrepend]))
    · exact .inr (.inl rfl)

theorem Around.compared
    (around : Around typeList before mid after) (name : String) :
    comparedWithType (.list typeList) (name, .list (before ++ mid ++ after)) =
      (true, writtenParts name before after) := by
  have some : (before.isEmpty && after.isEmpty) = false := by
    rw [Bool.and_eq_false_iff, List.isEmpty_eq_false_iff, List.isEmpty_eq_false_iff]
    exact around.adds
  have different : (Element.list typeList == .list (before ++ mid ++ after)) = false := by
    by_contra same
    rw [Bool.not_eq_false] at same
    have lengths := (forall₂_of_equalItems around.same).length_eq.trans
      (forall₂_of_equalItems same).length_eq
    rcases around.adds with adds | adds <;>
      have positive := List.length_pos_iff.mpr adds <;>
      simp only [List.length_append] at lengths <;> omega
  simp only [comparedWithType, different, around.extract, some, writtenParts]
  rfl

section

variable {properties attributes : List (String × Element)} {name : String}
  {typeElement value : Element}

theorem parse_pruned {entry added : String × Element}
    (valid : PropertyUtil.isValidName entry.1 = true)
    (isAdded : added ∈ (pruned properties entry).2) :
    (PropertyUtil.parsePropertyModification added.1).1 ≠ .default ∧
      (PropertyUtil.parsePropertyModification added.1).2 = entry.1 := by
  unfold pruned at isAdded
  split at isAdded
  · rename_i typeElement _
    rcases comparedWithType_cases entry.1 typeElement entry.2 with
      ⟨_, none⟩ | none | ⟨_, before, _, after, _, _, _, parts⟩
    · rw [none] at isAdded
      cases isAdded
    · rw [none] at isAdded
      cases isAdded
    · rw [parts, writtenParts] at isAdded
      rcases List.mem_append.mp isAdded with isBefore | isAfter
      · split at isBefore
        · cases isBefore
        · rw [List.mem_singleton.mp isBefore, parse_relative valid "prepend" "!prepend" rfl rfl]
          exact ⟨nofun, rfl⟩
      · split at isAfter
        · cases isAfter
        · rw [List.mem_singleton.mp isAfter, parse_relative valid "append" "!append" rfl rfl]
          exact ⟨nofun, rfl⟩
  · cases isAdded

theorem not_mem_pruned {entry : String × Element} {key : String}
    (valid : PropertyUtil.isValidName entry.1 = true)
    (different : PropertyUtil.parsePropertyModification key = (.default, key) ∨
      (PropertyUtil.parsePropertyModification key).2 ≠ entry.1) :
    key ∉ (pruned properties entry).2.map Prod.fst := by
  intro isAdded
  rcases List.mem_map.mp isAdded with ⟨added, isPart, rfl⟩
  have parsed := parse_pruned valid isPart
  rcases different with isDefault | different
  · exact parsed.1 (congrArg Prod.fst isDefault)
  · exact different parsed.2

variable (isType : properties.lookup name = some typeElement)
  (isValue : attributes.lookup name = some value) (nodup : (attributes.map Prod.fst).Nodup)
  (names : ∀ entry ∈ attributes, PropertyUtil.isValidName entry.1 = true)

include isType isValue nodup names in
theorem lookup_persistedAttributes_relative {key : String} {type : ModifierType}
    (parsed : PropertyUtil.parsePropertyModification key = (type, name))
    (relative : type ≠ .default) :
    (persistedAttributes (some properties) attributes).lookup key =
      (comparedWithType typeElement (name, value)).2.lookup key := by
  have change : pruned properties (name, value) = comparedWithType typeElement (name, value) := by
    rw [pruned, isType]
  have notKept : ∀ keeps : String × Element → Bool,
      (attributes.filter keeps).lookup key = none := by
    intro keeps
    rw [List.lookup_eq_none_iff]
    intro entry isEntry
    refine bne_iff_ne.mpr fun same => relative ?_
    rw [same, PropertyUtil.parsePropertyModification_of_isValidName
      (names entry (List.mem_filter.mp isEntry).1)] at parsed
    exact (congrArg Prod.fst parsed).symm
  unfold persistedAttributes
  dsimp only
  rw [lookup_foldl_mapInsert, List.lookup_append, notKept, Option.none_or, List.flatMap_map,
    ← change]
  refine lookup_flatMap_of_nodup nodup isValue fun entry isEntry different => ?_
  rw [List.lookup_eq_none_iff]
  intro other isOther
  refine bne_iff_ne.mpr fun same => not_mem_pruned (names entry isEntry) (.inr ?_)
    (List.mem_map.mpr ⟨other, isOther, same.symm⟩)
  rw [parsed]
  exact different.symm

include isType isValue nodup names in
theorem lookup_persistedAttributes (valid : PropertyUtil.isValidName name = true)
    (persisted : name ∉ ignoredProperties) :
    (persistedAttributes (some properties) attributes).lookup name =
      if (comparedWithType typeElement (name, value)).1 = true ∨
        ((name = "angular" ∨ name = "_propel") ∧ isZeroVector value = true) then none
      else some value := by
  have change : pruned properties (name, value) = comparedWithType typeElement (name, value) := by
    rw [pruned, isType]
  have removed : name ∈ ((attributes.map fun entry => (entry.1, pruned properties entry)).filter
      fun change => change.2.1).map (·.1) ↔
        (comparedWithType typeElement (name, value)).1 = true := by
    rw [List.filter_map, List.map_map, ← change]
    have found := lookup_filter_of_nodup nodup isValue fun entry => (pruned properties entry).1
    constructor
    · intro isRemoved
      by_contra kept
      rw [if_neg kept, List.lookup_eq_none_iff] at found
      rcases List.mem_map.mp isRemoved with ⟨entry, isEntry, rfl⟩
      simpa using found entry isEntry
    · intro isRemoved
      rw [if_pos isRemoved] at found
      rcases List.lookup_eq_some_iff.mp found with ⟨before, after, isSplit, _⟩
      exact List.mem_map.mpr ⟨(name, value), by
        rw [Function.comp_def, isSplit]; simp, rfl⟩
  have noneAdded : ((attributes.map fun entry => (entry.1, pruned properties entry)).flatMap
      fun change => change.2.2).lookup name = none := by
    rw [List.flatMap_map, List.lookup_eq_none_iff]
    intro other isOther
    rcases List.mem_flatMap.mp isOther with ⟨entry, isEntry, isAdded⟩
    exact bne_iff_ne.mpr fun same => not_mem_pruned (names entry isEntry)
      (.inl (PropertyUtil.parsePropertyModification_of_isValidName valid))
      (List.mem_map.mpr ⟨other, isAdded, same.symm⟩)
  unfold persistedAttributes
  dsimp only
  rw [lookup_foldl_mapInsert, List.lookup_append, noneAdded, Option.or_none,
    lookup_filter_of_nodup nodup isValue]
  simp only [decide_eq_true_eq, List.mem_append, removed, persisted, false_or]
  grind

end

theorem append_ne_prepend (name : String) : name ++ "!append" ≠ name ++ "!prepend" := by
  intro same
  have lengths := congrArg String.length same
  rw [String.length_append, String.length_append] at lengths
  exact absurd (Nat.add_left_cancel lengths) (by decide)

theorem lookup_writtenParts (name : String) (before after : List Element) :
    (writtenParts name before after).lookup (name ++ "!prepend") =
        (if before.isEmpty then none else some (.list before)) ∧
      (writtenParts name before after).lookup (name ++ "!append") =
        if after.isEmpty then none else some (.list after) := by
  have different := append_ne_prepend name
  unfold writtenParts
  constructor <;> split <;> split <;> simp [lookup_cons_eq_ite, different, different.symm]

/-! ## Setting it again -/

/-- Without modifiers, and its value. -/
structure Holds (entity : LocatedEntity) (name : String) (value : Element) : Prop where
  unmodified : (entity.slot name).modifiers = []
  isValue : (entity.slot name).value = some value
  current : (entity.slot name).current = value

section

variable {entity : LocatedEntity} {name : String} {typeElement value : Element}

theorem Fresh.holds (fresh : Fresh entity name typeElement) : Holds entity name typeElement := by
  rcases fresh with ⟨noOwn, hasDefault⟩
  rcases Option.map_eq_some_iff.mp hasDefault with ⟨property, isDefault, isValue⟩
  constructor <;> simp [LocatedEntity.slot, LocatedEntity.modifiersOf, LocatedEntity.getAttr,
    LocatedEntity.propertyForSet, noOwn, isDefault, isValue]

theorem Holds.setAttrValue (holds : Holds entity name value)
    (valid : PropertyUtil.isValidName name = true) {key : String} {type : ModifierType}
    (parsed : PropertyUtil.parsePropertyModification key = (type, name))
    (written : Option Element) :
    Holds (written.elim entity (entity.setAttrValue key)) name
      (written.elim value fun part => (Modifier.createModifier type part).process value value) := by
  cases written with
  | none => exact holds
  | some part =>
    have slots := entity.slot_setAttr valid (Modifier.createModifier type part)
    rw [Slot.set, if_pos (by rw [holds.unmodified]; rfl), holds.current] at slots
    simp only [Option.elim_some, LocatedEntity.setAttrValue, parsed]
    constructor <;> rw [slots]
    exact holds.unmodified

theorem Holds.restored (holds : Holds entity name value)
    (valid : PropertyUtil.isValidName name = true) (written : List (String × Element)) :
    let replaced := (written.lookup name).elim value id
    let appended := (written.lookup (name ++ "!append")).elim replaced fun part =>
      AppendModifier.process part replaced replaced
    (restored written entity name).getAttr name =
      some ((written.lookup (name ++ "!prepend")).elim appended fun part =>
        PrependModifier.process part appended appended) := by
  have replaced := holds.setAttrValue valid
    (PropertyUtil.parsePropertyModification_of_isValidName valid) (written.lookup name)
  have appended := replaced.setAttrValue valid (parse_relative valid "append" "!append" rfl rfl)
    (written.lookup (name ++ "!append"))
  have prepended := appended.setAttrValue valid (parse_relative valid "prepend" "!prepend" rfl rfl)
    (written.lookup (name ++ "!prepend"))
  exact prepended.isValue

variable {properties attributes : List (String × Element)}

theorem persistedAttributes_restores (isType : properties.lookup name = some typeElement)
    (isValue : attributes.lookup name = some value) (nodup : (attributes.map Prod.fst).Nodup)
    (names : ∀ entry ∈ attributes, PropertyUtil.isValidName entry.1 = true)
    (persisted : name ∉ ignoredProperties) (fresh : Fresh entity name typeElement) :
    Restores typeElement value (persistedAttributes (some properties) attributes) entity name := by
  have valid : PropertyUtil.isValidName name = true := by
    rcases List.lookup_eq_some_iff.mp isValue with ⟨before, after, isSplit, _⟩
    exact names (name, value) (by simp [isSplit])
  have whole := lookup_persistedAttributes isType isValue nodup names valid persisted
  have appended := lookup_persistedAttributes_relative isType isValue nodup names
    (parse_relative valid "append" "!append" rfl rfl) nofun
  have prepended := lookup_persistedAttributes_relative isType isValue nodup names
    (parse_relative valid "prepend" "!prepend" rfl rfl) nofun
  constructor
  · intro kept
    have back := fresh.holds.restored valid (persistedAttributes (some properties) attributes)
    rw [whole, appended, prepended] at back
    refine ⟨_, back, ?_⟩
    rcases comparedWithType_cases name typeElement value with ⟨same, none⟩ | none |
      ⟨typeList, before, mid, after, rfl, rfl, around, parts⟩
    · rw [none]
      exact .inl (.inr (.inl same))
    · have isKept : ¬ ((false, ([] : List (String × Element))).1 = true ∨
          ((name = "angular" ∨ name = "_propel") ∧ isZeroVector value = true)) :=
        not_or.mpr ⟨nofun, kept⟩
      rw [none, if_neg isKept]
      exact .inl (.inl rfl)
    · rw [parts, if_pos (.inl rfl), (lookup_writtenParts ..).1, (lookup_writtenParts ..).2]
      refine .inr ⟨before ++ typeList ++ after, _, ?_, rfl, ?_⟩
      · cases before <;> cases after <;> simp [AppendModifier.process, PrependModifier.process]
      · have refl : ∀ items, List.Forall₂ Same items items :=
          fun items => List.forall₂_same.mpr fun _ _ => .inl rfl
        have items : List.Forall₂ Same typeList mid :=
          (forall₂_of_equalItems around.same).flip.imp fun _ _ same => .inr (.inr same)
        exact List.rel_append (List.rel_append (refl _) items) (refl _)
  · intro neglected
    rw [whole, if_pos (.inr neglected)]
  · rintro ⟨typeList, before, mid, after, rfl, rfl, around⟩
    rw [whole, appended, prepended, around.compared, (lookup_writtenParts ..).1,
      (lookup_writtenParts ..).2, if_pos (.inl rfl)]
    refine ⟨rfl, ?_⟩
    rcases around.adds with adds | adds <;> simp [adds]

end

/-- A fresh entity with a single property. -/
def freshCart (name : String) (typeElement : Element) : LocatedEntity :=
  { plainEntity "mass" (.int 1) with
    type := some
      { name := "cart"
        defaults := (∅ : Std.TreeMap String SoftProperty).insert name ⟨Flags.empty, typeElement⟩ } }

/-- A third wheel is written as an addition. -/
theorem third_wheel_restores :
    Restores (.list [.int 1, .int 2]) (.list [.int 1, .int 2, .int 3])
      (persistedAttributes (some [("wheels", .list [.int 1, .int 2])])
        [("wheels", .list [.int 1, .int 2, .int 3])])
      (freshCart "wheels" (.list [.int 1, .int 2])) "wheels" :=
  persistedAttributes_restores rfl rfl (by decide) (by decide) (by decide) ⟨rfl, rfl⟩

/-- A cart that had stopped spins again. -/
theorem stopped_cart_not_restored :
    ¬ ∃ result, (restored (persistedAttributes
      (some [("angular", .list [.float 0, .float 0, .float 1])]) [("angular", .none)])
      (freshCart "angular" (.list [.float 0, .float 0, .float 1])) "angular").getAttr "angular" =
        some result ∧ Alike result .none := by
  rintro ⟨result, isResult, alike⟩
  cases isResult
  rcases alike with (same | same | same) | ⟨_, _, _, isList, _⟩
  · cases same
  · cases same
  · cases same
  · cases isList

end Cyphesis.Tools
