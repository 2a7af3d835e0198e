import Cyphesis.Tools.EntityImporter

/-!
# References in property values

What the importer makes of a value depends only on what the entities in it are replaced by.
-/

namespace Cyphesis.Tools

open Cyphesis.Atlas List

theorem element_induct {motive : Element → Prop}
    (map : ∀ entries, (∀ entry ∈ entries, motive entry.2) → motive (.map entries))
    (list : ∀ items, (∀ item ∈ items, motive item) → motive (.list items))
    (none : motive .none) (int : ∀ value, motive (.int value))
    (float : ∀ value, motive (.float value)) (ptr : ∀ address, motive (.ptr address))
    (string : ∀ value, motive (.string value)) (value : Element) : motive value := by
  apply @Element.rec motive (fun entries => ∀ entry ∈ entries, motive entry.2)
    (fun items => ∀ item ∈ items, motive item) (fun entry => motive entry.2)
  · exact none
  · exact int
  · exact float
  · exact ptr
  · exact string
  · exact map
  · exact list
  · exact fun entry isEntry => absurd isEntry not_mem_nil
  · intro first rest isFirst isRest entry isEntry
    rcases List.mem_cons.mp isEntry with here | later
    · rw [here]
      exact isFirst
    · exact isRest entry later
  · exact fun item isItem => absurd isItem not_mem_nil
  · intro first rest isFirst isRest item isItem
    rcases List.mem_cons.mp isItem with here | later
    · rw [here]
      exact isFirst
    · exact isRest item later
  · exact fun key value isValue => isValue

theorem eq_of_reference? {key id : String} {value : Element}
    (isReference : reference? key value = some id) : value = .string id := by
  unfold reference? at isReference
  split at isReference
  · split at isReference
    · rw [Option.some.inj isReference]
    · contradiction
  · contradiction

namespace EntityImporterBase

variable (mapping : String → Option String)

/-- What is made of an entry of a map. -/
def resolveEntry (entry : String × Element) : String × Element :=
  match reference? entry.1 entry.2 with
  | some id => (entry.1, .string ((mapping id).getD id))
  | none => (entry.1, resolveEntityReferences mapping entry.2)

theorem resolveEntries_eq_map
    (entries : List (String × Element)) :
    resolveEntries mapping entries = entries.map (resolveEntry mapping) := by
  induction entries with
  | nil => rfl
  | cons entry rest ih =>
    rw [resolveEntries, ih]
    rfl

theorem resolveItems_eq_map (items : List Element) :
    resolveItems mapping items = items.map (resolveEntityReferences mapping) := by
  induction items with
  | nil => rfl
  | cons item rest ih =>
    rw [resolveItems, ih]
    rfl

end EntityImporterBase

/-- References in an entry of a map. -/
def entryReferences (entry : String × Element) : List String :=
  match reference? entry.1 entry.2 with
  | some id => [id]
  | none => extractEntityReferences entry.2

theorem referencesOfEntries_eq_flatMap (entries : List (String × Element)) :
    referencesOfEntries entries = entries.flatMap entryReferences := by
  induction entries with
  | nil => rfl
  | cons entry rest ih =>
    rw [referencesOfEntries, ih]
    rfl

theorem referencesOfItems_eq_flatMap (items : List Element) :
    referencesOfItems items = items.flatMap extractEntityReferences := by
  induction items with
  | nil => rfl
  | cons item rest ih =>
    rw [referencesOfItems, ih]
    rfl

namespace EntityImporterBase

theorem resolve_congr {mapping other : String → Option String} {value : Element}
    (agree : ∀ id ∈ extractEntityReferences value, (mapping id).getD id = (other id).getD id) :
    resolveEntityReferences mapping value = resolveEntityReferences other value := by
  induction value using element_induct with
  | map entries ih =>
    rw [resolveEntityReferences, resolveEntityReferences, resolveEntries_eq_map,
      resolveEntries_eq_map]
    rw [extractEntityReferences, referencesOfEntries_eq_flatMap] at agree
    congr 1
    apply map_congr_left
    intro entry isEntry
    have agreeHere : ∀ id ∈ entryReferences entry, (mapping id).getD id = (other id).getD id :=
      fun id isReference => agree id (List.mem_flatMap.mpr ⟨entry, isEntry, isReference⟩)
    rw [entryReferences] at agreeHere
    rw [resolveEntry, resolveEntry]
    cases isReference : reference? entry.1 entry.2 with
    | some id =>
      rw [isReference] at agreeHere
      simp only [agreeHere id (mem_singleton_self id)]
    | none =>
      rw [isReference] at agreeHere
      simp only [ih entry isEntry agreeHere]
  | list items ih =>
    rw [resolveEntityReferences, resolveEntityReferences, resolveItems_eq_map, resolveItems_eq_map]
    rw [extractEntityReferences, referencesOfItems_eq_flatMap] at agree
    congr 1
    apply map_congr_left
    intro item isItem
    exact ih item isItem fun id isReference =>
      agree id (List.mem_flatMap.mpr ⟨item, isItem, isReference⟩)
  | none => rfl
  | int value => rfl
  | float value => rfl
  | ptr address => rfl
  | string value => rfl

theorem resolve_none (value : Element) : resolveEntityReferences (fun _ => none) value = value := by
  induction value using element_induct with
  | map entries ih =>
    rw [resolveEntityReferences, resolveEntries_eq_map]
    congr 1
    calc
      entries.map (resolveEntry fun _ => none) = entries.map (fun x => x) := by
        apply map_congr_left
        intro entry isEntry
        rw [resolveEntry]
        cases isReference : reference? entry.1 entry.2 with
        | some id =>
          change (entry.1, Element.string id) = entry
          rw [← eq_of_reference? isReference]
        | none => rw [ih entry isEntry]
      _ = entries := map_id' entries
  | list items ih =>
    rw [resolveEntityReferences, resolveItems_eq_map]
    congr 1
    calc
      items.map (resolveEntityReferences fun _ => none) = items.map (fun x => x) :=
        map_congr_left ih
      _ = items := map_id' items
  | none => rfl
  | int value => rfl
  | float value => rfl
  | ptr address => rfl
  | string value => rfl

theorem resolve_of_no_references {mapping : String → Option String} {value : Element}
    (noReferences : extractEntityReferences value = []) :
    resolveEntityReferences mapping value = value := by
  calc
    resolveEntityReferences mapping value = resolveEntityReferences (fun _ => none) value := by
      apply resolve_congr
      rw [noReferences]
      exact fun id isReference => absurd isReference not_mem_nil
    _ = value := resolve_none value

end EntityImporterBase

section Attributes

variable {α : Type} {entries : List (String × α)} {name : String} {value : α}

theorem lookup_of_mem (nodup : (entries.map (·.1)).Nodup) (member : (name, value) ∈ entries) :
    entries.lookup name = some value := by
  induction entries with
  | nil => exact absurd member not_mem_nil
  | cons entry rest ih =>
    rw [map_cons, nodup_cons] at nodup
    rcases List.mem_cons.mp member with isFirst | isLater
    · rw [← isFirst, lookup_cons_self]
    · have different : name ≠ entry.1 := by
        intro same
        exact nodup.1 (same ▸ mem_map_of_mem isLater)
      rw [lookup_cons, beq_eq_false_iff_ne.mpr different]
      exact ih nodup.2 isLater

theorem lookup_filterMap {β : Type} {change : String × α → Option (String × β)}
    (keeps : ∀ entry changed, change entry = some changed → changed.1 = entry.1)
    (nodup : (entries.map (·.1)).Nodup) (member : (name, value) ∈ entries) :
    (entries.filterMap change).lookup name = (change (name, value)).map (·.2) := by
  have keysWithin : ∀ rest : List (String × α), name ∉ rest.map (·.1) →
      name ∉ (rest.filterMap change).map (·.1) := by
    intro rest missing isKey
    obtain ⟨changed, isChanged, isName⟩ := List.mem_map.mp isKey
    obtain ⟨entry, isEntry, isChange⟩ := List.mem_filterMap.mp isChanged
    apply missing
    rw [← isName, keeps entry changed isChange]
    exact mem_map_of_mem isEntry
  induction entries with
  | nil => exact absurd member not_mem_nil
  | cons entry rest ih =>
    rw [map_cons, nodup_cons] at nodup
    rcases List.mem_cons.mp member with isFirst | isLater
    · rw [← isFirst] at nodup ⊢
      cases isChange : change (name, value) with
      | none =>
        rw [filterMap_cons_none isChange]
        rw [Option.map_none, lookup_eq_none_iff]
        intro entry isEntry
        rw [bne_iff_ne]
        intro same
        exact keysWithin rest nodup.1 (same ▸ mem_map_of_mem isEntry)
      | some changed =>
        rw [filterMap_cons_some isChange, lookup_cons, keeps _ _ isChange, beq_self_eq_true]
        rfl
    · have different : name ≠ entry.1 := by
        intro same
        exact nodup.1 (same ▸ mem_map_of_mem isLater)
      cases isChange : change entry with
      | none =>
        rw [filterMap_cons_none isChange]
        exact ih nodup.2 isLater
      | some changed =>
        rw [filterMap_cons_some isChange, lookup_cons, keeps _ _ isChange,
          beq_eq_false_iff_ne.mpr different]
        exact ih nodup.2 isLater

variable {attributes : List (String × Element)}

theorem mem_referencedEntries {entry : ReferencedEntry} :
    entry ∈ referencedEntries attributes ↔
      ∃ value, (entry.propertyName, value) ∈ attributes ∧
        entry.propertyName ∉ ["id", "parent", "contains", "~contains"] ∧
        entry.referencedEntities = extractEntityReferences value ∧
        extractEntityReferences value ≠ [] := by
  rw [referencedEntries, mem_filterMap]
  constructor
  · rintro ⟨⟨name, value⟩, isProperty, isEntry⟩
    dsimp only at isEntry
    split at isEntry
    · contradiction
    · split at isEntry
      · contradiction
      · rename_i named hasReferences
        rw [← Option.some.inj isEntry]
        exact ⟨value, isProperty, named, rfl, by simpa using hasReferences⟩
  · rintro ⟨value, isProperty, named, isReferences, hasReferences⟩
    refine ⟨(entry.propertyName, value), isProperty, ?_⟩
    dsimp only
    rw [if_neg named, if_neg (by simpa using hasReferences), ← isReferences]

theorem find?_referencedEntries {name : String}
    {value : Element} (nodup : (attributes.map (·.1)).Nodup)
    (member : (name, value) ∈ attributes)
    (named : name ∉ ["id", "parent", "contains", "~contains"]) :
    (referencedEntries attributes).find? (fun entry => entry.propertyName == name) =
      if extractEntityReferences value = [] then none
      else some ⟨name, extractEntityReferences value⟩ := by
  have ofName : ∀ entry ∈ referencedEntries attributes, entry.propertyName = name →
      entry = ⟨name, extractEntityReferences value⟩ ∧ extractEntityReferences value ≠ [] := by
    intro entry isEntry isName
    obtain ⟨other, isOther, _, isReferences, hasReferences⟩ := mem_referencedEntries.mp isEntry
    rw [isName] at isOther
    have sameValue : some other = some value :=
      (lookup_of_mem nodup isOther).symm.trans (lookup_of_mem nodup member)
    rw [Option.some.inj sameValue] at isReferences hasReferences
    exact ⟨by rw [← isName, ← isReferences], hasReferences⟩
  by_cases noReferences : extractEntityReferences value = []
  · rw [if_pos noReferences, find?_eq_none]
    intro entry isEntry isName
    exact (ofName entry isEntry (beq_iff_eq.mp isName)).2 noReferences
  · rw [if_neg noReferences]
    have isEntry : (⟨name, extractEntityReferences value⟩ : ReferencedEntry) ∈
        referencedEntries attributes :=
      mem_referencedEntries.mpr ⟨value, member, named, rfl, noReferences⟩
    cases found :
      (referencedEntries attributes).find? (fun entry => entry.propertyName == name) with
    | none =>
      rw [find?_eq_none] at found
      exact absurd (beq_self_eq_true name) (found _ isEntry)
    | some entry =>
      have isName := find?_some found
      rw [(ofName entry (mem_of_find?_eq_some found) (beq_iff_eq.mp isName)).1]

end Attributes

namespace EntityImporterBase

variable {importer : EntityImporterBase} {obj : PersistedEntity} {name : String} {value : Element}

section

variable (nodup : (obj.attributes.map (·.1)).Nodup) (member : (name, value) ∈ obj.attributes)

include nodup member

theorem lookup_updateAttributes (named : name ≠ "contains" ∧ name ≠ "stamp") :
    (updateAttributes obj).lookup name = some value := by
  apply lookup_of_mem
  · exact nodup.sublist (List.filter_sublist.map _)
  · exact List.mem_filter.mpr ⟨member, by simpa using named⟩

theorem lookup_createAttributes
    (named : name ≠ "contains" ∧ name ≠ "velocity")
    (propertyName : name ∉ ["id", "parent", "contains", "~contains"])
    (references : importer.entitiesWithReferenceAttributes.getD obj.id [] =
      referencedEntries obj.attributes) :
    (importer.createAttributes obj).lookup name =
      if extractEntityReferences value = [] then some value
      else if importer.isResolved ⟨name, extractEntityReferences value⟩ then
        some (resolveEntityReferences importer.created? value)
      else none := by
  rw [createAttributes, references]
  rw [lookup_filterMap _ nodup member, if_neg (by simpa using named),
    find?_referencedEntries nodup member propertyName]
  · by_cases noReferences : extractEntityReferences value = []
    · simp only [noReferences, if_true, Option.map_some]
    · simp only [noReferences, if_false]
      split
      · rfl
      · rfl
  · intro entry changed isChanged
    split at isChanged
    · contradiction
    · split at isChanged
      · rw [← Option.some.inj isChanged]
      · split at isChanged
        · rw [← Option.some.inj isChanged]
        · contradiction

end

theorem getElem?_unresolvedReferences_of_ne {id other : String} (different : other ≠ id) :
    (importer.unresolvedReferences id)[other]? =
      importer.entitiesWithReferenceAttributes[other]? := by
  rw [unresolvedReferences]
  split
  · rfl
  · dsimp only
    split
    · rw [Std.ExtTreeMap.getElem?_erase, if_neg (by simpa using different.symm)]
    · rw [Std.ExtTreeMap.getElem?_insert, if_neg (by simpa using different.symm)]

theorem mem_unresolvedReferences {id : String} {entries : List ReferencedEntry}
    {entry : ReferencedEntry}
    (isEntries : importer.entitiesWithReferenceAttributes[id]? = some entries)
    (isEntry : entry ∈ entries) (unresolved : importer.isResolved entry = false) :
    ∃ left, (importer.unresolvedReferences id)[id]? = some left ∧ entry ∈ left := by
  have isLeft : entry ∈ entries.filter fun entry => !importer.isResolved entry :=
    List.mem_filter.mpr ⟨isEntry, by simp [unresolved]⟩
  rw [unresolvedReferences, isEntries]
  dsimp only
  rw [if_neg (by
    rw [List.isEmpty_iff]
    exact ne_nil_of_mem isLeft), Std.ExtTreeMap.getElem?_insert_self]
  exact ⟨_, rfl, isLeft⟩

end EntityImporterBase

end Cyphesis.Tools
