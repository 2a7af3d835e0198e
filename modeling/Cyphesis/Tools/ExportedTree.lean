import Cyphesis.Foundation.Forest
import Cyphesis.Tools.EntityExporter

/-!
# The tree that is exported

The entities of the file are nested along the child lists of the table.
-/

namespace Cyphesis.Tools

open Cyphesis.Foundation
open Std (ExtTreeMap)

mutual

/-- Identifiers of an entity and all in it. -/
def ExportedEntity.ids : ExportedEntity → List String
  | .mk message contains => message.id.toList ++ ExportedEntity.allIds contains

/-- Some exported entities and all nested in them. -/
def ExportedEntity.allIds : List ExportedEntity → List String
  | [] => []
  | entity :: rest => entity.ids ++ ExportedEntity.allIds rest

end

theorem ExportedEntity.allIds_append (first second : List ExportedEntity) :
    allIds (first ++ second) = allIds first ++ allIds second := by
  induction first with
  | nil => rfl
  | cons entity rest ih => rw [List.cons_append, allIds, allIds, ih, List.append_assoc]

theorem ExportedEntity.allIds_singleton (entity : ExportedEntity) :
    allIds [entity] = entity.ids := by
  rw [allIds, allIds, List.append_nil]

namespace EntityTable

variable (table : EntityTable) (id : String)

/-- Location that is recorded, if any. -/
def location? : Option String :=
  match table[id]? with
  | none => none
  | some entry => if entry.loc = "" then none else some entry.loc

/-- Identifier after an answer. -/
def exportedId? : Option String :=
  table[id]?.bind (·.entity.id)

theorem getElem?_edit (id key : String)
    (change : EntityEntry → EntityEntry) :
    (table.edit id change)[key]? =
      if id = key then some (change (table.getD id {})) else table[key]? := by
  rw [edit, ExtTreeMap.getElem?_insert]
  simp only [Std.compare_eq_iff_eq]

theorem mem_edit {table : EntityTable} {id key : String} {change : EntityEntry → EntityEntry} :
    key ∈ table.edit id change ↔ id = key ∨ key ∈ table := by
  rw [edit, ExtTreeMap.mem_insert, Std.compare_eq_iff_eq]

theorem size_le_size_edit
    (change : EntityEntry → EntityEntry) : table.size ≤ (table.edit id change).size := by
  rw [edit]
  exact ExtTreeMap.size_le_size_insert

theorem size_edit_of_not_mem {table : EntityTable} {id : String}
    {change : EntityEntry → EntityEntry} (missing : id ∉ table) :
    (table.edit id change).size = table.size + 1 := by
  rw [edit, ExtTreeMap.size_insert, if_neg (mt ExtTreeMap.mem_iff_contains.mpr missing)]

theorem location?_of_getElem? {table : EntityTable} {id : String} {entry : EntityEntry}
    (found : table[id]? = some entry) :
    table.location? id = if entry.loc = "" then none else some entry.loc := by
  rw [location?, found]

/-- Each listed child was answered for once. -/
structure Nested (table : EntityTable) : Prop where
  listed : ∀ {id : String} {entry : EntityEntry}, table[id]? = some entry →
    ∀ child ∈ entry.children,
      table.location? child = some id ∧ (table.exportedId? child).isSome = true
  nodup : ∀ {id : String} {entry : EntityEntry}, table[id]? = some entry → entry.children.Nodup
  located : ∀ {id above : String}, table.location? id = some above → above ∈ table
  distinct : ∀ {first second exported : String}, table.exportedId? first = some exported →
    table.exportedId? second = some exported → first = second
  unfilled : ∀ {id : String} {entry : EntityEntry}, table[id]? = some entry → entry.contains = []

section Populate

variable {base : EntityTable}

theorem mem_of_location? {id above : String} (isAbove : base.location? id = some above) :
    id ∈ base := by
  rw [ExtTreeMap.mem_iff_isSome_getElem?]
  unfold location? at isAbove
  split at isAbove
  · contradiction
  · rename_i found
    rw [found]
    rfl

theorem Nested.climb_lt_size (nested : base.Nested) {id top : String} {steps : Nat}
    (isEntry : id ∈ base) (isTop : base.location? top = none)
    (climbs : climb base.location? steps id = some top) : steps < base.size := by
  have bound : steps < (base.keys.toFinset).card := by
    apply climb_lt_card isTop (by simpa using isEntry) _ climbs
    intro node _ above isAbove
    simpa using nested.located isAbove
  exact lt_of_lt_of_le bound (by simpa using List.toFinset_card_le base.keys)

/-- Entries that are not nested are as before. -/
structure Filled (base table filled : EntityTable) (roots : List String) : Prop where
  apart : ∀ id : String, (∀ root ∈ roots, ¬ Reaches base.location? id root) → filled[id]? =
    table[id]?
  sameLoc : ∀ id : String, filled[id]?.map EntityEntry.loc = table[id]?.map EntityEntry.loc

/-- Exported entities differ, below the roots. -/
structure Written (base : EntityTable) (roots : List String) (entities : List ExportedEntity) :
    Prop where
  nodup : (ExportedEntity.allIds entities).Nodup
  below : ∀ exported ∈ ExportedEntity.allIds entities, ∃ root ∈ roots, ∃ id,
    Reaches base.location? id root ∧ base.exportedId? id = some exported

theorem Filled.refl (base table : EntityTable) (roots : List String) :
    Filled base table table roots :=
  ⟨fun _ _ => rfl, fun _ => rfl⟩

theorem getElem?_modify_of_ne {table : EntityTable} {id key : String}
    {change : EntityEntry → EntityEntry} (different : id ≠ key) :
    (table.modify id change)[key]? = table[key]? := by
  rw [ExtTreeMap.getElem?_modify, if_neg (by simpa using different)]

theorem map_loc_modify {table : EntityTable} {id : String} {change : EntityEntry → EntityEntry}
    (sameLoc : ∀ entry, (change entry).loc = entry.loc) (key : String) :
    (table.modify id change)[key]?.map EntityEntry.loc = table[key]?.map EntityEntry.loc := by
  by_cases isKey : id = key
  · subst isKey
    rw [ExtTreeMap.getElem?_modify_self, Option.map_map]
    congr 1
    funext entry
    exact sameLoc entry
  · rw [getElem?_modify_of_ne isKey]

theorem Written.node {id : String} {entry : EntityEntry} (nested : base.Nested)
    (grounded : Grounded base.location? id) (found : base[id]? = some entry)
    {contains : List ExportedEntity} (written : Written base entry.children contains) :
    Written base [id] [.mk entry.entity contains] := by
  have exportedId : base.exportedId? id = entry.entity.id := by
    rw [exportedId?, found, Option.bind_some]
  have isBelow : ∀ exported ∈ ExportedEntity.allIds contains, ∃ below, below ≠ id ∧
      Reaches base.location? below id ∧ base.exportedId? below = some exported := by
    intro exported isExported
    obtain ⟨child, isChild, below, reaches, isBelow⟩ := written.below exported isExported
    have isParent := (nested.listed found child isChild).1
    refine ⟨below, ?_, reaches.trans (Reaches.of_parent isParent (Reaches.refl _ _)), isBelow⟩
    rintro rfl
    exact (grounded.of_parent isParent).not_reaches_of_parent isParent reaches
  constructor
  · rw [ExportedEntity.allIds_singleton, ExportedEntity.ids]
    refine List.nodup_append'.mpr ⟨?_, written.nodup, ?_⟩
    · cases entry.entity.id <;> simp
    · intro exported isOwn isNested
      obtain ⟨below, different, _, isBelow⟩ := isBelow exported isNested
      refine different (nested.distinct isBelow ?_)
      rw [exportedId]
      simpa using isOwn
  · intro exported isExported
    refine ⟨id, List.mem_singleton_self id, ?_⟩
    rw [ExportedEntity.allIds_singleton, ExportedEntity.ids, List.mem_append] at isExported
    rcases isExported with isOwn | isNested
    · exact ⟨id, Reaches.refl _ _, by rw [exportedId]; simpa using isOwn⟩
    · obtain ⟨below, _, reaches, isBelow⟩ := isBelow exported isNested
      exact ⟨below, reaches, isBelow⟩

theorem Written.append {roots others : List String} {entities more : List ExportedEntity}
    (nested : base.Nested)
    (apart : ∀ root ∈ roots, ∀ other ∈ others, ∀ id, Reaches base.location? id root →
      ¬ Reaches base.location? id other)
    (first : Written base roots entities) (second : Written base others more) :
    Written base (roots ++ others) (entities ++ more) := by
  constructor
  · rw [ExportedEntity.allIds_append]
    refine List.nodup_append'.mpr ⟨first.nodup, second.nodup, ?_⟩
    intro exported isFirst isSecond
    obtain ⟨root, isRoot, id, reaches, isId⟩ := first.below exported isFirst
    obtain ⟨other, isOther, id', reaches', isId'⟩ := second.below exported isSecond
    obtain rfl := nested.distinct isId isId'
    exact apart root isRoot other isOther id reaches reaches'
  · intro exported isExported
    rw [ExportedEntity.allIds_append, List.mem_append] at isExported
    rcases isExported with isFirst | isSecond
    · obtain ⟨root, isRoot, below⟩ := first.below exported isFirst
      exact ⟨root, List.mem_append_left _ isRoot, below⟩
    · obtain ⟨other, isOther, below⟩ := second.below exported isSecond
      exact ⟨other, List.mem_append_right _ isOther, below⟩

theorem Filled.cons {table middle filled : EntityTable} {root : String} {roots : List String}
    (first : Filled base table middle [root]) (second : Filled base middle filled roots) :
    Filled base table filled (root :: roots) := by
  constructor
  · intro id apart
    calc
      filled[id]? = middle[id]? :=
        second.apart id fun other isRoot => apart other (List.mem_cons_of_mem _ isRoot)
      _ = table[id]? := by
        apply first.apart id
        intro other isRoot
        rw [List.mem_singleton] at isRoot
        subst isRoot
        exact apart other List.mem_cons_self
  · intro id
    rw [second.sameLoc, first.sameLoc]

/-- The children are written, once each. -/
def Nests (base : EntityTable) (top : String) (depth : Nat) : Prop :=
  ∀ (id : String) (height : Nat) (table : EntityTable) (contains : List ExportedEntity)
    (children : List String), id ∈ base → climb base.location? height id = some top →
    base.size ≤ depth + height → children.Nodup →
    (∀ child ∈ children, base.location? child = some id) →
    (∀ below child : String, child ∈ children → Reaches base.location? below child →
      table[below]? = base[below]?) →
    ∃ filled entities,
      EntityExporterBase.populateChildEntities depth table contains children =
          some (filled, contains ++ entities) ∧
        Filled base table filled children ∧ Written base children entities

theorem Nests.entry (nested : base.Nested) {top : String} (isTop : base.location? top = none)
    {depth : Nat} (nests : Nests base top depth) {id : String} {height : Nat}
    {table : EntityTable} {entry : EntityEntry} (found : base[id]? = some entry)
    (climbs : climb base.location? height id = some top) (deep : base.size ≤ depth + height)
    (same : ∀ below : String, Reaches base.location? below id → table[below]? = base[below]?) :
    ∃ filled contains,
      EntityExporterBase.populateChildEntities depth table [] entry.children =
          some (filled, contains) ∧
        (∀ below : String, below ≠ id → ¬ Reaches base.location? below id →
          filled[below]? = table[below]?) ∧
        (∀ below : String, filled[below]?.map EntityEntry.loc = table[below]?.map EntityEntry.loc) ∧
        Written base [id] [.mk entry.entity contains] := by
  have isEntry : id ∈ base := by
    rw [ExtTreeMap.mem_iff_isSome_getElem?, found]
    rfl
  have isParent : ∀ child ∈ entry.children, base.location? child = some id :=
    fun child isChild => (nested.listed found child isChild).1
  have upward : ∀ below child : String, child ∈ entry.children →
      Reaches base.location? below child → Reaches base.location? below id :=
    fun below child isChild reaches =>
      reaches.trans (Reaches.of_parent (isParent child isChild) (Reaches.refl _ _))
  obtain ⟨filled, entities, populates, isFilled, isWritten⟩ :=
    nests id height table [] entry.children isEntry climbs deep (nested.nodup found) isParent
      fun below child isChild reaches => same below (upward below child isChild reaches)
  refine ⟨filled, entities, populates, ?_, isFilled.sameLoc, ?_⟩
  · intro below _ outside
    exact isFilled.apart below fun child isChild reaches =>
      outside (upward below child isChild reaches)
  · exact isWritten.node nested ⟨top, isTop, height, climbs⟩ found

theorem Nests.child (nested : base.Nested) {top : String} (isTop : base.location? top = none)
    {depth : Nat} (nests : Nests base top depth) {id child : String} {height : Nat}
    {table : EntityTable} (contains : List ExportedEntity)
    (climbs : climb base.location? height id = some top)
    (deep : base.size ≤ depth + 1 + height) (isChild : base.location? child = some id)
    (same : ∀ below : String, Reaches base.location? below child → table[below]? = base[below]?) :
    ∃ filled entity,
      EntityExporterBase.populateChild (EntityExporterBase.populateChildEntities depth)
          (table, contains) child = some (filled, contains ++ [entity]) ∧
        Filled base table filled [child] ∧ Written base [child] [entity] := by
  have climbsChild : climb base.location? (height + 1) child = some top := by
    rw [climb, isChild, Option.bind_some, climbs]
  have grounded : Grounded base.location? child := ⟨top, isTop, height + 1, climbsChild⟩
  obtain ⟨entry, found⟩ : ∃ entry, base[child]? = some entry :=
    Option.isSome_iff_exists.mp (ExtTreeMap.mem_iff_isSome_getElem?.mp (mem_of_location? isChild))
  have foundHere : table[child]? = some entry := (same child (Reaches.refl _ _)).trans found
  have unfilled := nested.unfilled found
  simp only [EntityExporterBase.populateChild, foundHere, unfilled]
  by_cases isLeaf : entry.children.isEmpty = true
  · rw [if_pos isLeaf]
    refine ⟨table, .mk entry.entity [], rfl, Filled.refl base table [child], ?_⟩
    apply Written.node nested grounded found
    exact ⟨List.nodup_nil, fun exported isExported => absurd isExported List.not_mem_nil⟩
  · rw [if_neg isLeaf]
    obtain ⟨filled, nestedHere, populates, apart, sameLoc, isWritten⟩ :=
      nests.entry nested isTop found climbsChild (by omega) same
    rw [populates]
    refine ⟨_, .mk entry.entity nestedHere, rfl, ⟨?_, ?_⟩, isWritten⟩
    · intro below outside
      have notBelow := outside child (List.mem_singleton_self child)
      have different : below ≠ child := by
        rintro rfl
        exact notBelow (Reaches.refl _ _)
      rw [getElem?_modify_of_ne different.symm, apart below different notBelow]
    · intro below
      rw [← sameLoc below]
      apply map_loc_modify
      exact fun _ => rfl

theorem not_reaches_sibling {id child other below : String} (grounded : Grounded base.location? id)
    (isChild : base.location? child = some id) (isOther : base.location? other = some id)
    (different : child ≠ other) (reaches : Reaches base.location? below child) :
    ¬ Reaches base.location? below other := by
  intro reachesOther
  rcases reaches.total reachesOther with up | down
  · exact different (grounded.eq_of_reaches_sibling isChild isOther up)
  · exact different (grounded.eq_of_reaches_sibling isOther isChild down).symm

/-- Induction on the depth, and along the children. -/
theorem nests (nested : base.Nested) {top : String} (isTop : base.location? top = none)
    (depth : Nat) : Nests base top depth := by
  induction depth with
  | zero =>
    intro id height table contains children isEntry climbs deep _ _ _
    have short := nested.climb_lt_size isEntry isTop climbs
    omega
  | succ depth ih =>
    intro id height table contains children isEntry climbs deep nodup isChild same
    have grounded : Grounded base.location? id := ⟨top, isTop, height, climbs⟩
    rw [EntityExporterBase.populateChildEntities]
    induction children generalizing table contains with
    | nil =>
      refine ⟨table, [], by simp, Filled.refl base table [], ?_⟩
      exact ⟨List.nodup_nil, fun exported isExported => absurd isExported List.not_mem_nil⟩
    | cons child rest ihRest =>
      obtain ⟨notRest, restNodup⟩ := List.nodup_cons.mp nodup
      have isFirst := isChild child List.mem_cons_self
      have isRest : ∀ other ∈ rest, base.location? other = some id :=
        fun other isOther => isChild other (List.mem_cons_of_mem _ isOther)
      have apart : ∀ other ∈ rest, ∀ below, Reaches base.location? below child →
          ¬ Reaches base.location? below other := by
        intro other isOther below
        apply not_reaches_sibling grounded isFirst (isRest other isOther)
        rintro rfl
        exact notRest isOther
      obtain ⟨middle, entity, step, firstFilled, firstWritten⟩ :=
        ih.child nested isTop contains climbs deep isFirst
          fun below reaches => same below child List.mem_cons_self reaches
      obtain ⟨filled, entities, steps, restFilled, restWritten⟩ :=
        ihRest middle (contains ++ [entity]) restNodup isRest (by
          intro below other isOther reaches
          rw [firstFilled.apart below (by
            intro root isRoot
            rw [List.mem_singleton] at isRoot
            subst isRoot
            exact fun reachesChild => apart other isOther below reachesChild reaches)]
          exact same below other (List.mem_cons_of_mem _ isOther) reaches)
      refine ⟨filled, entity :: entities, ?_, firstFilled.cons restFilled, ?_⟩
      · rw [List.foldlM_cons, step]
        simpa using steps
      · apply Written.append nested _ firstWritten restWritten
        intro root isRoot other isOther below
        rw [List.mem_singleton] at isRoot
        subst isRoot
        exact apart other isOther below

/-- Some entities are written by now, the others are as before. -/
structure Writing (base : EntityTable) (done left : List String) (table : EntityTable)
    (entities : List ExportedEntity) : Prop where
  isTop : ∀ id ∈ done, base.location? id = none
  notLeft : ∀ id ∈ done, id ∉ left
  sameLoc : ∀ id : String, table[id]?.map EntityEntry.loc = base[id]?.map EntityEntry.loc
  untouched : ∀ id ∈ left, base.location? id = none → ∀ below : String,
    Reaches base.location? below id → table[below]? = base[below]?
  written : Written base done entities

theorem not_reaches_top {top other below : String} (isTop : base.location? top = none)
    (isOther : base.location? other = none) (different : top ≠ other)
    (reaches : Reaches base.location? below top) : ¬ Reaches base.location? below other := by
  intro reachesOther
  rcases reaches.total reachesOther with up | down
  · exact different (up.eq_of_root isTop)
  · exact different (down.eq_of_root isOther).symm

theorem Writing.skip {done left : List String} {table : EntityTable} {id : String}
    {entities : List ExportedEntity} (writing : Writing base done (id :: left) table entities) :
    Writing base done left table entities where
  isTop := writing.isTop
  notLeft top isDone isLeft := writing.notLeft top isDone (List.mem_cons_of_mem _ isLeft)
  sameLoc := writing.sameLoc
  untouched top isLeft := writing.untouched top (List.mem_cons_of_mem _ isLeft)
  written := writing.written

/-- One entry of the loop. -/
theorem Writing.step (nested : base.Nested) {done left : List String} {table : EntityTable}
    {id : String} {entities : List ExportedEntity} (notLeft : id ∉ left)
    (writing : Writing base done (id :: left) table entities) {entry : EntityEntry}
    (found : base[id]? = some entry) :
    ∃ table' entities' done',
      EntityExporterBase.writeTopLevel (base.size + 1) (table, entities) id =
          some (table', entities') ∧
        Writing base done' left table' entities' := by
  obtain ⟨here, foundHere⟩ : ∃ here, table[id]? = some here := by
    have sameLoc := writing.sameLoc id
    rw [found, Option.map_some, Option.map_eq_some_iff] at sameLoc
    obtain ⟨here, foundHere, _⟩ := sameLoc
    exact ⟨here, foundHere⟩
  have sameLoc : here.loc = entry.loc := by
    have sameLoc := writing.sameLoc id
    rw [found, foundHere] at sameLoc
    exact Option.some.inj sameLoc
  have isLocation := location?_of_getElem? found
  simp only [EntityExporterBase.writeTopLevel, foundHere, sameLoc]
  by_cases isTop : entry.loc = ""
  · rw [if_pos isTop] at isLocation ⊢
    have untouched := writing.untouched id List.mem_cons_self isLocation
    obtain rfl : here = entry := by
      have same := untouched id (Reaches.refl _ _)
      rw [found, foundHere] at same
      exact Option.some.inj same
    obtain ⟨filled, contains, populates, apart, filledLoc, isWritten⟩ :=
      (nests nested isLocation (base.size + 1)).entry nested isLocation found
        (show climb base.location? 0 id = some id from rfl) (by omega) untouched
    rw [nested.unfilled found, populates]
    refine ⟨_, _, done ++ [id], rfl, ?_⟩
    constructor
    · intro top isDone
      rcases List.mem_append.mp isDone with before | isLast
      · exact writing.isTop top before
      · rw [List.mem_singleton.mp isLast]
        exact isLocation
    · intro top isDone
      rcases List.mem_append.mp isDone with before | isLast
      · exact fun isLeft => writing.notLeft top before (List.mem_cons_of_mem _ isLeft)
      · rw [List.mem_singleton.mp isLast]
        exact notLeft
    · intro below
      rw [← writing.sameLoc below, ← filledLoc below]
      apply map_loc_modify
      exact fun _ => rfl
    · intro top isLeft isTop below reaches
      have different : top ≠ id := by
        rintro rfl
        exact notLeft isLeft
      have outside := not_reaches_top isTop isLocation different reaches
      have notId : below ≠ id := by
        rintro rfl
        exact outside (Reaches.refl _ _)
      rw [getElem?_modify_of_ne notId.symm, apart below notId outside]
      exact writing.untouched top (List.mem_cons_of_mem _ isLeft) isTop below reaches
    · apply Written.append nested _ writing.written isWritten
      intro root isDone other isOther below
      rw [List.mem_singleton] at isOther
      subst isOther
      apply not_reaches_top (writing.isTop root isDone) isLocation
      rintro rfl
      exact writing.notLeft root isDone List.mem_cons_self
  · rw [if_neg isTop]
    exact ⟨table, entities, done, rfl, writing.skip⟩

theorem Writing.run (nested : base.Nested) {left : List String} (nodup : left.Nodup)
    (isEntry : ∀ id ∈ left, id ∈ base) {done : List String} {table : EntityTable}
    {entities : List ExportedEntity} (writing : Writing base done left table entities) :
    ∃ result done', left.foldlM (EntityExporterBase.writeTopLevel (base.size + 1))
        (table, entities) = some result ∧ Writing base done' [] result.1 result.2 := by
  induction left generalizing done table entities with
  | nil => exact ⟨(table, entities), done, rfl, writing⟩
  | cons id left ih =>
    obtain ⟨notLeft, leftNodup⟩ := List.nodup_cons.mp nodup
    obtain ⟨entry, found⟩ : ∃ entry, base[id]? = some entry :=
      Option.isSome_iff_exists.mp
        (ExtTreeMap.mem_iff_isSome_getElem?.mp (isEntry id List.mem_cons_self))
    obtain ⟨table', entities', done', steps, writing'⟩ := writing.step nested notLeft found
    rw [List.foldlM_cons, steps]
    exact ih leftNodup (fun other isLeft => isEntry other (List.mem_cons_of_mem _ isLeft)) writing'

theorem Nested.writeEntities (nested : base.Nested) :
    ∃ entities, EntityExporterBase.writeEntities base = some entities ∧
      (ExportedEntity.allIds entities).Nodup := by
  have writing : Writing base [] base.keys base [] := by
    constructor
    · exact fun id isDone => absurd isDone List.not_mem_nil
    · exact fun id isDone => absurd isDone List.not_mem_nil
    · exact fun id => rfl
    · exact fun id _ _ below _ => rfl
    · exact ⟨List.nodup_nil, fun exported isExported => absurd isExported List.not_mem_nil⟩
  obtain ⟨result, done, runs, written⟩ :=
    writing.run nested ExtTreeMap.nodup_keys fun id isKey => ExtTreeMap.mem_keys.mp isKey
  refine ⟨result.2, ?_, written.written.nodup⟩
  rw [EntityExporterBase.writeEntities, runs, Option.map_some]

end Populate

end EntityTable

end Cyphesis.Tools
