import Std.Data.String.ToNat
import Cyphesis.Tools.ExportedTree

/-!
# Runs of an export

An export asks for one entity after another until nothing is queued or awaited, and then writes the
file.
-/

namespace Cyphesis.Tools

open Cyphesis.Foundation List Option Std.ExtTreeMap
open Std (ExtTreeMap)

namespace EntityTable

/-- Identifiers are the server's, or small. -/
structure Recorded (preserveIds : Bool) (table : EntityTable) : Prop where
  nested : table.Nested
  preserved : preserveIds = true → ∀ {id exported : String},
    table.exportedId? id = some exported → exported = id
  numbered : preserveIds = false → ∀ {id exported : String},
    table.exportedId? id = some exported → ∃ number < table.size, exported = toString number

theorem recorded_empty (preserveIds : Bool) : Recorded preserveIds ∅ := by
  have missing : ∀ id : String, (∅ : EntityTable)[id]? = none := fun _ => getElem?_empty
  have noLocation : ∀ id, location? ∅ id = none := by
    intro id
    rw [location?, missing]
  have noExported : ∀ id, exportedId? ∅ id = none := by
    intro id
    rw [exportedId?, missing, bind_none]
  constructor
  · constructor
    · intro id entry found
      rw [missing] at found
      contradiction
    · intro id entry found
      rw [missing] at found
      contradiction
    · intro id above isAbove
      rw [noLocation] at isAbove
      contradiction
    · intro first second exported isExported
      rw [noExported] at isExported
      contradiction
    · intro id entry found
      rw [missing] at found
      contradiction
  · intro _ id exported isExported
    rw [noExported] at isExported
    contradiction
  · intro _ id exported isExported
    rw [noExported] at isExported
    contradiction

theorem Nested.map {table : EntityTable} (nested : table.Nested)
    {change : String → EntityEntry → EntityEntry}
    (sameLoc : ∀ id entry, (change id entry).loc = entry.loc)
    (sameChildren : ∀ id entry, (change id entry).children = entry.children)
    (sameId : ∀ id entry, (change id entry).entity.id = entry.entity.id)
    (sameContains : ∀ id entry, (change id entry).contains = entry.contains) :
    Nested (table.map change) := by
  have entries : ∀ id : String, (table.map change)[id]? = table[id]?.map (change id) :=
    fun _ => ExtTreeMap.getElem?_map
  have locations : ∀ id, location? (table.map change) id = table.location? id := by
    intro id
    rw [location?, location?, entries]
    cases table[id]? with
    | none => rfl
    | some entry => simp only [map_some, sameLoc]
  have exported : ∀ id, exportedId? (table.map change) id = table.exportedId? id := by
    intro id
    rw [exportedId?, exportedId?, entries]
    cases table[id]? with
    | none => rfl
    | some entry => simp only [map_some, bind_some, sameId]
  constructor
  · intro id entry found child isChild
    rw [entries, map_eq_some_iff] at found
    obtain ⟨before, found, rfl⟩ := found
    rw [sameChildren] at isChild
    rw [locations, exported]
    exact nested.listed found child isChild
  · intro id entry found
    rw [entries, map_eq_some_iff] at found
    obtain ⟨before, found, rfl⟩ := found
    rw [sameChildren]
    exact nested.nodup found
  · intro id above isAbove
    rw [locations] at isAbove
    exact ExtTreeMap.mem_map.mpr (nested.located isAbove)
  · intro first second id isFirst isSecond
    rw [exported] at isFirst isSecond
    exact nested.distinct isFirst isSecond
  · intro id entry found
    rw [entries, map_eq_some_iff] at found
    obtain ⟨before, found, rfl⟩ := found
    rw [sameContains]
    exact nested.unfilled found

theorem getD_of_getElem? {table : EntityTable} {id : String} {entry : EntityEntry}
    (found : table[id]? = some entry) : table.getD id {} = entry := by
  rw [getD_eq_getD_getElem?, found, getD_some]

section

variable (table : EntityTable) (id : String)

theorem getD_cases : table.getD id {} = {} ∨ table[id]? = some (table.getD id {}) := by
  rw [getD_eq_getD_getElem?]
  cases table[id]? with
  | none => exact .inl rfl
  | some entry => exact .inr rfl

theorem location?_eq_getD :
    table.location? id =
      if (table.getD id {}).loc = "" then none else some (table.getD id {}).loc := by
  rw [location?, getD_eq_getD_getElem?]
  cases table[id]? with
  | none => rfl
  | some entry => rfl

theorem exportedId?_eq_getD : table.exportedId? id = (table.getD id {}).entity.id := by
  rw [exportedId?, getD_eq_getD_getElem?]
  cases table[id]? with
  | none => rfl
  | some entry => rfl

end

theorem getD_edit (table : EntityTable) (id key : String) (change : EntityEntry → EntityEntry) :
    (table.edit id change).getD key {} =
      if id = key then change (table.getD id {}) else table.getD key {} := by
  rw [getD_eq_getD_getElem?, getElem?_edit]
  split
  · rfl
  · rw [getD_eq_getD_getElem?]

/-- The table after an entity is recorded. -/
def record (table : EntityTable) (id loc : String) (message : EntityMessage) : EntityTable :=
  let entered := table.edit id fun entry => { entry with entity := message, loc := loc }
  if loc = "" then entered
  else entered.edit loc fun entry => { entry with children := entry.children ++ [id] }

section Record

variable {table : EntityTable} {id loc : String} {message : EntityMessage}

variable (key : String)

/-- Entered, and its location has a child. -/
theorem getD_record :
    (table.record id loc message).getD key {} =
      { loc := if id = key then loc else (table.getD key {}).loc
        children := (table.getD key {}).children ++ if loc = key ∧ loc ≠ "" then [id] else []
        entity := if id = key then message else (table.getD key {}).entity
        contains := (table.getD key {}).contains } := by
  rw [record]
  by_cases noLoc : loc = ""
  · rw [if_pos noLoc, getD_edit]
    by_cases isId : id = key
    · simp [isId, noLoc]
    · simp [isId, noLoc]
  · rw [if_neg noLoc, getD_edit, getD_edit, getD_edit]
    by_cases isId : id = key
    · by_cases isLoc : loc = key
      · subst isLoc
        simp [isId, noLoc]
      · simp [isId, isLoc]
    · by_cases isLoc : loc = key
      · subst isLoc
        simp [isId, noLoc]
      · simp [isId, isLoc]

theorem location?_record :
    (table.record id loc message).location? key =
      if id = key then (if loc = "" then none else some loc) else table.location? key := by
  rw [location?_eq_getD, location?_eq_getD, getD_record]
  by_cases isId : id = key
  · simp only [if_pos isId]
  · simp only [if_neg isId]

theorem exportedId?_record :
    (table.record id loc message).exportedId? key =
      if id = key then message.id else table.exportedId? key := by
  rw [exportedId?_eq_getD, exportedId?_eq_getD, getD_record]
  by_cases isId : id = key
  · simp only [if_pos isId]
  · simp only [if_neg isId]

theorem mem_record {key : String} :
    key ∈ table.record id loc message ↔ id = key ∨ (loc ≠ "" ∧ loc = key) ∨ key ∈ table := by
  rw [record]
  by_cases noLoc : loc = ""
  · rw [if_pos noLoc, mem_edit]
    simp [noLoc]
  · rw [if_neg noLoc, mem_edit, mem_edit]
    simp only [ne_eq, noLoc, not_false_eq_true, true_and]
    tauto

theorem size_lt_size_record (missing : id ∉ table) :
    table.size < (table.record id loc message).size := by
  have entered : ∀ change, (table.edit id change).size = table.size + 1 :=
    fun _ => size_edit_of_not_mem missing
  rw [record]
  split
  · rw [entered]
    exact Nat.lt_succ_self _
  · refine lt_of_lt_of_le ?_ (size_le_size_edit _ _ _)
    rw [entered]
    exact Nat.lt_succ_self _

/-- A new one gets an identifier of its own. -/
theorem Nested.record {exported : String} (nested : table.Nested)
    (unanswered : table.exportedId? id = none) (isMessage : message.id = some exported)
    (unused : ∀ other, table.exportedId? other ≠ some exported) :
    (table.record id loc message).Nested := by
  have listed : ∀ key, ∀ child ∈ (table.getD key {}).children,
      table.location? child = some key ∧ (table.exportedId? child).isSome = true := by
    intro key
    rcases getD_cases table key with missing | found
    · rw [missing]
      exact fun child isChild => absurd isChild not_mem_nil
    · exact nested.listed found
  have nodup : ∀ key, (table.getD key {}).children.Nodup := by
    intro key
    rcases getD_cases table key with missing | found
    · rw [missing]
      exact nodup_nil
    · exact nested.nodup found
  have unfilled : ∀ key, (table.getD key {}).contains = [] := by
    intro key
    rcases getD_cases table key with missing | found
    · rw [missing]
    · exact nested.unfilled found
  have notChild : ∀ key, id ∉ (table.getD key {}).children := by
    intro key isChild
    have answered := (listed key id isChild).2
    rw [unanswered] at answered
    contradiction
  constructor
  · intro key entry found child isChild
    obtain rfl := getD_of_getElem? found
    rw [getD_record, mem_append] at isChild
    rw [location?_record, exportedId?_record]
    rcases isChild with before | isNew
    · have different : id ≠ child := by
        rintro rfl
        exact notChild key before
      rw [if_neg different, if_neg different]
      exact listed key child before
    · split at isNew
      · rename_i isLoc
        rw [List.mem_singleton.mp isNew, if_pos rfl, if_pos rfl, if_neg isLoc.2, isLoc.1, isMessage]
        exact ⟨rfl, rfl⟩
      · exact absurd isNew not_mem_nil
  · intro key entry found
    obtain rfl := getD_of_getElem? found
    rw [getD_record]
    by_cases isLoc : loc = key ∧ loc ≠ ""
    · rw [if_pos isLoc]
      exact nodup_append'.mpr
        ⟨nodup key, nodup_singleton id, List.disjoint_singleton.mpr (notChild key)⟩
    · rw [if_neg isLoc, append_nil]
      exact nodup key
  · intro key above isAbove
    rw [location?_record] at isAbove
    rw [mem_record]
    split at isAbove
    · split at isAbove
      · contradiction
      · rename_i isLoc
        exact .inr (.inl ⟨isLoc, Option.some.inj isAbove⟩)
    · exact .inr (.inr (nested.located isAbove))
  · intro first second shared isFirst isSecond
    rw [exportedId?_record] at isFirst isSecond
    split at isFirst
    · split at isSecond
      · rename_i isId isId'
        exact isId.symm.trans isId'
      · rw [isMessage, Option.some.injEq] at isFirst
        exact absurd (isFirst ▸ isSecond) (unused second)
    · split at isSecond
      · rw [isMessage, Option.some.injEq] at isSecond
        exact absurd (isSecond ▸ isFirst) (unused first)
      · exact nested.distinct isFirst isSecond
  · intro key entry found
    obtain rfl := getD_of_getElem? found
    rw [getD_record]
    exact unfilled key

end Record

end EntityTable

namespace EntityExporterBase

/-- Not exported yet; the world is the first. -/
def Unexported (exporter : EntityExporterBase) (ent : RootEntity) : Prop :=
  exporter.entityMap.exportedId? ent.id = none ∧
    (exporter.preserveIds = false →
      ent.id ∉ exporter.entityMap ∧ (ent.id = "0" → exporter.entityMap.isEmpty = true))

theorem entityMap_dumpEntity (exporter : EntityExporterBase) (ent : RootEntity) :
    (exporter.dumpEntity ent).entityMap =
      exporter.entityMap.record ent.id ent.loc
        { id := some (exporter.persistedId ent.id), parent := some ent.parent,
          attributes := persistedAttributes (exporter.typeProperties.lookup ent.parent)
            ent.attributes } :=
  rfl

variable {exporter : EntityExporterBase} {ent : RootEntity}

theorem persistedId_eq_size (preserves : exporter.preserveIds = false)
    (unexported : exporter.Unexported ent) :
    exporter.persistedId ent.id = toString exporter.entityMap.size := by
  by_cases isWorld : ent.id = "0"
  · have isEmpty := (unexported.2 preserves).2 isWorld
    rw [isEmpty_eq_size_beq_zero, beq_iff_eq] at isEmpty
    rw [isEmpty, persistedId, isWorld, if_neg (by simp)]
    rfl
  · simp [persistedId, preserves, isWorld]

section

variable (recorded : exporter.entityMap.Recorded exporter.preserveIds)
  (unexported : exporter.Unexported ent)

include recorded unexported

theorem persistedId_unused (other : String) :
    exporter.entityMap.exportedId? other ≠ some (exporter.persistedId ent.id) := by
  intro isOther
  cases preserves : exporter.preserveIds with
  | true =>
    have isSame : exporter.persistedId ent.id = ent.id := by simp [persistedId, preserves]
    rw [isSame] at isOther
    rw [← recorded.preserved preserves isOther, unexported.1] at isOther
    contradiction
  | false =>
    obtain ⟨number, below, isNumber⟩ := recorded.numbered preserves isOther
    rw [persistedId_eq_size preserves unexported] at isNumber
    exact absurd (Nat.repr_injective isNumber).symm (Nat.ne_of_lt below)

theorem recorded_dumpEntity :
    (exporter.dumpEntity ent).entityMap.Recorded exporter.preserveIds := by
  rw [entityMap_dumpEntity]
  constructor
  · exact recorded.nested.record unexported.1 rfl (persistedId_unused recorded unexported)
  · intro preserves id exported isExported
    rw [EntityTable.exportedId?_record] at isExported
    split at isExported
    · rename_i isId
      rw [← isId, ← Option.some.inj isExported]
      simp [persistedId, preserves]
    · exact recorded.preserved preserves isExported
  · intro preserves id exported isExported
    rw [EntityTable.exportedId?_record] at isExported
    split at isExported
    · refine ⟨exporter.entityMap.size,
        EntityTable.size_lt_size_record (unexported.2 preserves).1, ?_⟩
      rw [← Option.some.inj isExported, persistedId_eq_size preserves unexported]
    · obtain ⟨number, below, isNumber⟩ := recorded.numbered preserves isExported
      exact ⟨number,
        below.trans (EntityTable.size_lt_size_record (unexported.2 preserves).1), isNumber⟩

end

/-- Five at a time, and one file. -/
structure ExportsOnce (exporter : EntityExporterBase) : Prop where
  atMostFive : exporter.awaitedEntities.length ≤ 5
  asks : exporter.entityQueue ≠ [] → exporter.awaitedEntities.length = 5
  notYet : exporter.awaitedRules ≠ [] ∨ exporter.awaitedEntities ≠ [] → exporter.exports = []
  finishes : exporter.awaitedRules = [] → exporter.awaitedEntities = [] →
    exporter.exports.length = 1
  distinct : ∀ entities ∈ exporter.exports, (ExportedEntity.allIds entities).Nodup

/-- The counter and the table are right. -/
structure Kept (exporter : EntityExporterBase) : Prop where
  exportsOnce : exporter.ExportsOnce
  running : exporter.cancelled = false
  counted : exporter.outstandingGetRequestCounter =
    exporter.awaitedRules.length + exporter.awaitedEntities.length
  rulesFirst : exporter.awaitedRules ≠ [] →
    exporter.awaitedEntities = [] ∧ exporter.entityQueue = []
  recorded : exporter.entityMap.Recorded exporter.preserveIds

theorem requestQueued_spec (exporter : EntityExporterBase) (queue : List String)
    (counted : exporter.outstandingGetRequestCounter = exporter.awaitedEntities.length)
    (atMostFive : exporter.awaitedEntities.length ≤ 5) :
    ∃ asked rest, queue = asked ++ rest ∧
      exporter.requestQueued queue =
        { exporter with
          outstandingGetRequestCounter := (exporter.awaitedEntities ++ asked).length
          awaitedEntities := exporter.awaitedEntities ++ asked
          entityQueue := rest } ∧
      (exporter.awaitedEntities ++ asked).length ≤ 5 ∧
      (rest ≠ [] → (exporter.awaitedEntities ++ asked).length = 5) := by
  induction queue generalizing exporter with
  | nil =>
    refine ⟨[], [], rfl, ?_, by simpa using atMostFive, fun more => absurd rfl more⟩
    rw [requestQueued]
    simp [← counted]
  | cons id rest ih =>
    rw [requestQueued]
    by_cases room : exporter.outstandingGetRequestCounter < 5
    · rw [if_pos room]
      obtain ⟨asked, left, isQueue, result, bound, full⟩ := ih
        { exporter with
          outstandingGetRequestCounter := exporter.outstandingGetRequestCounter + 1
          awaitedEntities := exporter.awaitedEntities ++ [id] }
        (by simp [counted]) (by simp; omega)
      refine ⟨id :: asked, left, by rw [isQueue]; rfl, ?_, ?_, ?_⟩
      · rw [result]
        simp
      · simpa using bound
      · simpa using full
    · rw [if_neg room]
      refine ⟨[], id :: rest, rfl, ?_, by simpa using atMostFive, fun _ => ?_⟩
      · simp [← counted]
      · simp
        omega

theorem completed_spec {preserveIds : Bool} (recorded : exporter.entityMap.Recorded preserveIds) :
    ∃ entities, exporter.completed =
        { exporter with
          entityMap := ∅, complete := true, exports := exporter.exports ++ [entities] } ∧
      (ExportedEntity.allIds entities).Nodup := by
  have nested : exporter.adjustReferencedEntities.Nested := by
    apply recorded.nested.map
    · exact fun _ _ => rfl
    · exact fun _ _ => rfl
    · exact fun _ _ => rfl
    · exact fun _ _ => rfl
  obtain ⟨entities, writes, nodup⟩ := nested.writeEntities
  refine ⟨entities, ?_, nodup⟩
  rw [completed, writes]

/-- The exporter while it handles a response. -/
structure Handling (exporter : EntityExporterBase) : Prop where
  running : exporter.cancelled = false
  noRules : exporter.awaitedRules = []
  counted : exporter.outstandingGetRequestCounter = exporter.awaitedEntities.length
  room : exporter.awaitedEntities.length < 5
  notYet : exporter.exports = []
  recorded : exporter.entityMap.Recorded exporter.preserveIds

/-- A poll asks for more, or it is done. -/
theorem Handling.pollQueue (handling : exporter.Handling) : exporter.pollQueue.Kept := by
  rw [EntityExporterBase.pollQueue]
  by_cases isDone : exporter.entityQueue = [] ∧ exporter.outstandingGetRequestCounter = 0
  · rw [if_pos isDone]
    have nothing : exporter.awaitedEntities = [] := by
      rw [← length_eq_zero_iff]
      have counted := handling.counted
      omega
    obtain ⟨entities, completes, nodup⟩ := completed_spec handling.recorded
    rw [completes]
    refine ⟨⟨?_, ?_, ?_, ?_, ?_⟩, handling.running, ?_, ?_, EntityTable.recorded_empty _⟩
    · simp [nothing]
    · exact fun queued => absurd isDone.1 queued
    · simp [handling.noRules, nothing]
    · intro _ _
      simp [handling.notYet]
    · intro written isWritten
      rw [handling.notYet, nil_append, mem_singleton] at isWritten
      rw [isWritten]
      exact nodup
    · simp [isDone.2, handling.noRules, nothing]
    · exact fun rules => absurd handling.noRules rules
  · rw [if_neg isDone]
    obtain ⟨asked, rest, isQueue, result, bound, full⟩ :=
      requestQueued_spec exporter exporter.entityQueue handling.counted handling.room.le
    have asks : exporter.awaitedEntities ++ asked ≠ [] := by
      intro nothing
      obtain ⟨noneBefore, noneAsked⟩ := List.append_eq_nil_iff.mp nothing
      have noneLeft : rest = [] := by
        by_contra more
        have isFull := full more
        rw [nothing] at isFull
        contradiction
      apply isDone
      rw [isQueue, noneAsked, noneLeft, handling.counted, noneBefore]
      exact ⟨rfl, rfl⟩
    rw [result]
    refine ⟨⟨bound, full, fun _ => handling.notYet, ?_, ?_⟩, handling.running, ?_, ?_,
      handling.recorded⟩
    · exact fun _ nothing => absurd nothing asks
    · intro written isWritten
      rw [handling.notYet] at isWritten
      exact absurd isWritten not_mem_nil
    · simp [handling.noRules]
    · exact fun rules => absurd handling.noRules rules

/-- A rule, or an entity not exported yet. -/
def Usable (exporter : EntityExporterBase) : Arrival → Prop
  | .rule _ answer => answer.isSome = true
  | .entity _ (.info (.entity ent :: _)) =>
    exporter.shouldSkip ent = true ∨ exporter.Unexported ent
  | .entity _ _ => False

theorem Kept.entity (kept : exporter.Kept) {place : Nat}
    (isAwaited : place < exporter.awaitedEntities.length) {args : List Argument}
    (usable : exporter.shouldSkip ent = true ∨ exporter.Unexported ent) :
    (operationGetResult { exporter with
      awaitedEntities := exporter.awaitedEntities.eraseIdx place }
        (.info (.entity ent :: args))).Kept := by
  have noRules : exporter.awaitedRules = [] := by
    by_contra rules
    rw [(kept.rulesFirst rules).1] at isAwaited
    exact absurd isAwaited (Nat.not_lt_zero place)
  have someAwaited : exporter.awaitedEntities ≠ [] := by
    intro nothing
    rw [nothing] at isAwaited
    exact absurd isAwaited (Nat.not_lt_zero place)
  have erased := length_eraseIdx_of_lt isAwaited
  have atMostFive := kept.exportsOnce.atMostFive
  have counted := kept.counted
  rw [noRules] at counted
  have handling : Handling { exporter with
      awaitedEntities := exporter.awaitedEntities.eraseIdx place
      outstandingGetRequestCounter := exporter.outstandingGetRequestCounter - 1 } := by
    refine ⟨kept.running, noRules, ?_, ?_, ?_, kept.recorded⟩
    · simp only [counted, erased, length_nil]
      omega
    · simp only [erased]
      omega
    · exact kept.exportsOnce.notYet (.inr someAwaited)
  rw [operationGetResult, if_neg (by simp [kept.running])]
  change (infoArrived _ _).Kept
  rw [infoArrived]
  split
  · exact handling.pollQueue
  · rename_i notSkipped
    have unexported : exporter.Unexported ent :=
      usable.resolve_left notSkipped
    apply Handling.pollQueue
    refine ⟨handling.running, handling.noRules, handling.counted, handling.room, handling.notYet,
      ?_⟩
    exact recorded_dumpEntity handling.recorded unexported

theorem foldl_requestRule (exporter : EntityExporterBase) (rules : List String) :
    rules.foldl requestRule exporter =
      { exporter with
        outstandingGetRequestCounter := exporter.outstandingGetRequestCounter + rules.length
        awaitedRules := exporter.awaitedRules ++ rules } := by
  induction rules generalizing exporter with
  | nil => simp
  | cons rule rest ih =>
    rw [foldl_cons, ih, requestRule]
    simp
    omega

theorem Kept.rule (kept : exporter.Kept) {place : Nat}
    (isAwaited : place < exporter.awaitedRules.length) (rule : Rule) :
    (operationGetRuleResult { exporter with
      awaitedRules := exporter.awaitedRules.eraseIdx place } (some rule)).Kept := by
  have someRules : exporter.awaitedRules ≠ [] := by
    intro nothing
    rw [nothing] at isAwaited
    exact absurd isAwaited (Nat.not_lt_zero place)
  obtain ⟨noEntities, noQueue⟩ := kept.rulesFirst someRules
  have notYet := kept.exportsOnce.notYet (.inl someRules)
  have erased := length_eraseIdx_of_lt isAwaited
  have counted := kept.counted
  have noneWritten : ∀ entities ∈ exporter.exports, (ExportedEntity.allIds entities).Nodup :=
    kept.exportsOnce.distinct
  rw [noEntities] at counted
  rw [operationGetRuleResult, if_neg (by simp [kept.running])]
  simp only [foldl_requestRule, recordRule]
  split
  · rename_i isLast
    have noRules : exporter.awaitedRules.eraseIdx place ++ rule.children = [] := by
      rw [← length_eq_zero_iff, length_append, erased]
      simp only [counted, length_nil] at isLast
      omega
    rw [startRequestingEntities]
    refine ⟨⟨?_, ?_, fun _ => notYet, ?_, noneWritten⟩, kept.running, ?_, ?_, kept.recorded⟩
    · simp [noEntities]
    · exact fun queued => absurd noQueue queued
    · simp
    · simp only [isLast, noRules, noEntities]
      simp
    · exact fun rules => absurd noRules rules
  · rename_i notLast
    have moreRules : exporter.awaitedRules.eraseIdx place ++ rule.children ≠ [] := by
      intro noRules
      rw [← length_eq_zero_iff, length_append, erased] at noRules
      apply notLast
      simp only [counted, length_nil]
      omega
    refine ⟨⟨?_, ?_, fun _ => notYet, ?_, noneWritten⟩, kept.running, ?_, ?_, kept.recorded⟩
    · simp [noEntities]
    · exact fun queued => absurd noQueue queued
    · exact fun noRules => absurd noRules moreRules
    · simp only [counted, length_append, erased, noEntities, length_nil]
      omega
    · exact fun _ => ⟨noEntities, noQueue⟩

theorem Kept.step (kept : exporter.Kept) (arrival : Arrival) (usable : exporter.Usable arrival) :
    (exporter.step arrival).Kept := by
  cases arrival with
  | rule place answer =>
    rw [EntityExporterBase.step]
    split
    · rename_i isAwaited
      obtain ⟨rule, rfl⟩ := Option.isSome_iff_exists.mp usable
      exact kept.rule isAwaited rule
    · exact kept
  | entity place response =>
    rw [EntityExporterBase.step]
    split
    · rename_i isAwaited
      cases response with
      | info args =>
        cases args with
        | nil => exact usable.elim
        | cons arg args =>
          cases arg with
          | entity ent => exact kept.entity isAwaited usable
          | other => exact usable.elim
      | error => exact usable.elim
      | other => exact usable.elim
    · exact kept

variable (exportTransient preserveIds : Bool) (rootEntityId : String)

theorem kept_started : (started exportTransient preserveIds rootEntityId).Kept := by
  rw [started, start, if_neg (by simp), requestRule]
  refine ⟨⟨by simp, ?_, fun _ => rfl, ?_, ?_⟩, rfl, rfl, fun _ => ⟨rfl, rfl⟩,
    EntityTable.recorded_empty _⟩
  · exact fun queued => absurd rfl queued
  · simp
  · exact fun entities isWritten => absurd isWritten not_mem_nil

/-- Each entity below the roots is written once, as long as every answer leads on. -/
theorem run_exportsOnce
    (arrivals : List Arrival)
    (usable : Admissible step Usable (started exportTransient preserveIds rootEntityId) arrivals) :
    (run step (started exportTransient preserveIds rootEntityId) arrivals).ExportsOnce := by
  have kept : (run step (started exportTransient preserveIds rootEntityId) arrivals).Kept := by
    apply run_invariant Kept
    · exact fun _ arrival kept usable => kept.step arrival usable
    · exact kept_started exportTransient preserveIds rootEntityId
    · exact usable
  exact kept.exportsOnce

/-- Rules, and a world of two entities. -/
def worldArrived : List Arrival :=
  [.rule 0 (some { id := "root" }),
    .entity 0 (.info [.entity { id := "0", parent := "world", contains := ["5", "7"] }])]

/-- Answers come in the other order. -/
def restArrived : List Arrival :=
  [.entity 1 (.info [.entity { id := "7", parent := "thing", loc := "0", contains := ["9"] }]),
    .entity 0 (.info [.entity { id := "5", parent := "thing", loc := "0" }]),
    .entity 0 (.info [.entity { id := "9", parent := "thing", loc := "7" }])]

instance decidableUsable (exporter : EntityExporterBase) :
    ∀ arrival : Arrival, Decidable (exporter.Usable arrival)
  | .rule _ _ => inferInstanceAs (Decidable (_ = _))
  | .entity _ (.info (.entity _ :: _)) =>
    inferInstanceAs (Decidable (_ ∨ (_ = none ∧ (_ → _ ∉ _ ∧ (_ → _)))))
  | .entity _ (.info []) => inferInstanceAs (Decidable False)
  | .entity _ (.info (.other :: _)) => inferInstanceAs (Decidable False)
  | .entity _ .error => inferInstanceAs (Decidable False)
  | .entity _ .other => inferInstanceAs (Decidable False)

theorem run_exportsOnce_world :
    (run step (started false false "0") (worldArrived ++ restArrived)).ExportsOnce ∧
      (run step (started false false "0") (worldArrived ++ restArrived)).exports.map
        ExportedEntity.allIds = [["0", "1", "3", "2"]] := by
  constructor
  · apply run_exportsOnce
    decide +kernel
  · decide +kernel

/-- One is moved into the other between the answers. -/
def movedArrived : List Arrival :=
  [.entity 0 (.info [.entity { id := "5", parent := "thing", loc := "7" }]),
    .entity 0
      (.info [.entity { id := "7", parent := "thing", loc := "0", contains := ["5", "9"] }]),
    .entity 0 (.info [.entity { id := "5", parent := "thing", loc := "7" }]),
    .entity 0 (.info [.entity { id := "9", parent := "thing", loc := "7" }])]

/-- Deleted are waited for, moved are doubled. -/
theorem run_stops_or_repeats :
    ¬(run step (started false false "0")
        (worldArrived ++ [.entity 0 .error, .entity 0 .error])).ExportsOnce ∧
      ¬(run step (started false false "0") (worldArrived ++ movedArrived)).ExportsOnce := by
  constructor
  · intro exportsOnce
    have finishes := exportsOnce.finishes (by decide +kernel) (by decide +kernel)
    exact absurd finishes (by decide +kernel)
  · intro exportsOnce
    have isExported : (run step (started false false "0")
        (worldArrived ++ movedArrived)).exports.map ExportedEntity.allIds =
          [["0", "3", "3", "3", "3"]] := by
      decide +kernel
    have distinct := List.forall_mem_map.mpr exportsOnce.distinct
    rw [isExported] at distinct
    exact absurd (distinct _ mem_cons_self) (by decide)

end EntityExporterBase

end Cyphesis.Tools
