import Cyphesis.Ai.MemMap
import Cyphesis.Foundation.Keyed

/-!
# The cursor of the expiry check

`check` looks at one entity in each call, the one that `m_checkIterator` stands at.
-/

namespace Cyphesis.Ai

open Cyphesis.Foundation List
open Cyphesis.Server (integerId)

namespace MemMap

variable {map before after : MemMap}

/-- The iterator is at the end or in the map. -/
def CursorValid (map : MemMap) : Prop :=
  ∀ key, map.checkIterator = some key → (map.find key).isSome = true

/-- The map and its iterator are as before. -/
structure SameTable (before after : MemMap) : Prop where
  entities : after.entities = before.entities
  checkIterator : after.checkIterator = before.checkIterator

theorem SameTable.refl (map : MemMap) : SameTable map map :=
  ⟨rfl, rfl⟩

theorem SameTable.trans {middle : MemMap} (first : SameTable before middle)
    (second : SameTable middle after) : SameTable before after :=
  ⟨second.entities.trans first.entities, second.checkIterator.trans first.checkIterator⟩

theorem CursorValid.of_same (valid : CursorValid before) (same : SameTable before after) :
    CursorValid after := by
  intro key isCursor
  rw [same.checkIterator] at isCursor
  rw [find, same.entities]
  exact valid key isCursor

theorem sameTable_modify (map : MemMap) (ref : Nat) (change : MemEntity → MemEntity) :
    SameTable map (map.modify ref change) :=
  ⟨rfl, rfl⟩

theorem sameTable_unlink (map : MemMap) (ref : Nat) : SameTable map (map.unlink ref) := by
  unfold unlink
  split
  · exact .refl map
  · exact ⟨rfl, rfl⟩

theorem sameTable_destroy (depth : Nat) (map : MemMap) (ref : Nat) :
    SameTable map (destroy depth map ref) := by
  induction depth generalizing map ref with
  | zero => exact .refl map
  | succ depth ih =>
    have all : ∀ (children : List Nat) (map : MemMap),
        SameTable map (children.foldl (destroy depth) map) := by
      intro children
      induction children with
      | nil => exact fun map => .refl map
      | cons child rest loop => exact fun map => (ih map child).trans (loop _)
    exact (sameTable_unlink map ref).trans (all _ _)

section

variable (map)

theorem sameTable_hang (ref above : Nat) : SameTable map (map.hang ref above) := by
  unfold hang
  cases map.parentOf ref with
  | none => exact ⟨rfl, rfl⟩
  | some old => exact ⟨rfl, rfl⟩

theorem sameTable_giveType (ref : Nat) (name : String) : SameTable map (map.giveType ref name) :=
  ⟨rfl, rfl⟩

theorem sameTable_readType (ref : Nat) (parent : String) :
    SameTable map (map.readType ref parent) := by
  unfold readType
  split
  · exact .refl map
  · split
    · exact sameTable_giveType map ref parent
    · exact ⟨rfl, rfl⟩

end

variable {key : Int}

variable {entities : List (Int × Nat)}

theorem isSome_of_refind {iterator : Option Int}
    (found : refind entities iterator = some key) : (entities.lookup key).isSome = true :=
  (Option.mem_filter_iff.mp found).2

theorem isSome_lookup_of_mem (isKey : key ∈ entities.map Prod.fst) :
    (entities.lookup key).isSome = true := by
  rcases List.mem_map.mp isKey with ⟨entry, isEntry, rfl⟩
  rw [lookup_isSome_iff]
  exact ⟨entry, isEntry, beq_self_eq_true _⟩

theorem firstKey_mem (isFirst : firstKey entities = some key) : key ∈ entities.map Prod.fst :=
  (List.min?_eq_some_iff.mp isFirst).1

theorem nextKey_mem {key next : Int}
    (isNext : nextKey entities key = some next) :
    next ∈ entities.map Prod.fst ∧ key < next := by
  have isMember := (List.min?_eq_some_iff.mp isNext).1
  rw [mem_filter] at isMember
  exact ⟨isMember.1, by simpa using isMember.2⟩

theorem cursorValid_addEntity (map : MemMap) (ref : Nat) : CursorValid (map.addEntity ref) :=
  fun _ => isSome_of_refind

section

variable (valid : CursorValid map)

include valid

theorem CursorValid.getAdd (id : String) : CursorValid (map.getAdd id).1 := by
  unfold MemMap.getAdd
  split
  · exact valid
  · split
    · exact valid
    · split
      · exact valid
      · exact cursorValid_addEntity _ _

theorem CursorValid.addContents (contlist : List String) :
    CursorValid (map.addContents contlist) := by
  unfold MemMap.addContents
  induction contlist generalizing map with
  | nil => exact valid
  | cons child rest ih => exact ih (valid.getAdd child)

variable (ref : Nat)

theorem CursorValid.readLoc (loc : String) : CursorValid (map.readLoc ref loc) := by
  have added := valid.getAdd loc
  unfold MemMap.readLoc
  split
  · exact valid
  · split
    · exact valid
    · split
      · exact valid.of_same ⟨rfl, rfl⟩
      · rename_i isAdded
        rw [isAdded] at added
        exact added.of_same (sameTable_hang _ _ _)

variable (ent : EntityMessage)

theorem CursorValid.readEntity : CursorValid (map.readEntity ref ent) := by
  have located : CursorValid (ent.loc.elim map (map.readLoc ref)) := by
    cases ent.loc with
    | none => exact valid
    | some loc => exact valid.readLoc ref loc
  unfold MemMap.readEntity
  dsimp only
  split
  · exact located
  · apply CursorValid.addContents
    cases ent.parent with
    | none => exact located
    | some parent => exact located.of_same (sameTable_readType _ _ _)

theorem CursorValid.updateEntity : CursorValid (map.updateEntity ref ent) := by
  have read := valid.readEntity ref ent
  unfold MemMap.updateEntity
  dsimp only
  split
  · exact read.of_same ⟨rfl, rfl⟩
  · exact read

theorem CursorValid.newEntity (id : Int) (ent : EntityMessage) :
    CursorValid (map.newEntity id ent) := by
  have allocated : CursorValid (map.allocate id) := valid.of_same ⟨rfl, rfl⟩
  have read := allocated.readEntity map.nextObject ent
  unfold MemMap.newEntity
  dsimp only
  split
  · exact read
  · exact cursorValid_addEntity _ _

theorem CursorValid.updateAdd (time : Rat) : CursorValid (map.updateAdd ent time) := by
  unfold MemMap.updateAdd
  split
  · exact valid
  · split
    · exact valid
    · split
      · exact valid
      · split
        · exact (valid.newEntity _ ent).of_same (sameTable_modify _ _ _)
        · exact (valid.updateEntity _ ent).of_same (sameTable_modify _ _ _)

theorem CursorValid.del (id : String) : CursorValid (map.del id) := by
  unfold MemMap.del
  dsimp only
  split
  · exact valid.of_same ⟨rfl, rfl⟩
  · refine CursorValid.of_same ?_ (sameTable_destroy _ _ _)
    intro key isCursor
    dsimp only at isCursor
    split at isCursor
    · exact isSome_of_refind isCursor
    · exact isSome_lookup_of_mem (firstKey_mem isCursor)

theorem CursorValid.check (time : Rat) : CursorValid (map.check time) := by
  unfold MemMap.check
  split
  · exact fun key isFirst => isSome_lookup_of_mem (firstKey_mem isFirst)
  · rename_i key isCursor
    split
    · exact valid
    · have isNextKey : ∀ next, nextKey map.entities key = some next →
          (map.find next).isSome = true ∧ next ≠ key := by
        intro next isNext
        rcases nextKey_mem isNext with ⟨isMember, later⟩
        exact ⟨isSome_lookup_of_mem isMember, later.ne'⟩
      dsimp only
      split
      · refine CursorValid.of_same ?_ (sameTable_unlink _ _)
        intro next isNext
        rcases isNextKey next isNext with ⟨isFound, different⟩
        rw [find, lookup_filter_ne, if_neg different]
        exact isFound
      · exact fun next isNext => (isNextKey next isNext).1

theorem CursorValid.resolveEntitiesForType (name : String) :
    CursorValid (map.resolveEntitiesForType name) := by
  have typed : ∀ (refs : List Nat) {known : MemMap}, CursorValid known →
      CursorValid (refs.foldl (fun current ref => current.giveType ref name) known) := by
    intro refs
    induction refs with
    | nil => exact fun known => known
    | cons ref rest ih => exact fun known => ih (known.of_same (sameTable_giveType _ _ _))
  have known : CursorValid { map with types := map.types.insert name } := valid.of_same ⟨rfl, rfl⟩
  exact (typed (map.waiting name) known).of_same ⟨rfl, rfl⟩

end

theorem cursorValid_flush_iff (map : MemMap) :
    CursorValid map.flush ↔ map.checkIterator = none := by
  constructor
  · intro valid
    cases isCursor : map.checkIterator with
    | none => rfl
    | some key => exact absurd (valid key isCursor) (by simp [flush, find])
  · intro atEnd key isCursor
    exact absurd (isCursor.symm.trans atEnd) (by simp)

/-- The map is flushed only at the end. -/
def FlushesAtEnd (map : MemMap) : MemEvent → Prop
  | .flush => map.crashed = false → map.checkIterator = none
  | _ => True

theorem cursorValid_step_iff (valid : CursorValid map) (event : MemEvent) :
    CursorValid (map.step event) ↔ map.FlushesAtEnd event := by
  unfold step
  cases hasCrashed : map.crashed with
  | true =>
    simp only [if_true, valid, true_iff]
    cases event with
    | flush => exact fun running => absurd (hasCrashed.symm.trans running) (by decide)
    | _ => trivial
  | false =>
    simp only [Bool.false_eq_true, if_false]
    cases event with
    | update ent time => exact iff_of_true (valid.updateAdd ent time) trivial
    | getAdd id => exact iff_of_true (valid.getAdd id) trivial
    | setVisible id isVisible =>
      refine iff_of_true ?_ trivial
      dsimp only
      split
      · exact valid
      · exact valid.of_same (sameTable_modify _ _ _)
    | del id => exact iff_of_true (valid.del id) trivial
    | check time => exact iff_of_true (valid.check time) trivial
    | resolve name => exact iff_of_true (valid.resolveEntitiesForType name) trivial
    | learn name => exact iff_of_true (valid.of_same ⟨rfl, rfl⟩) trivial
    | flush =>
      rw [cursorValid_flush_iff]
      exact ⟨fun atEnd _ => atEnd, fun atEnd => atEnd hasCrashed⟩

/-- How many calls of `check` come before. -/
def distance (entities : List (Int × Nat)) (iterator : Option Int) (target : Int) : Nat :=
  let keys := entities.map Prod.fst
  match iterator with
  | none => keys.countP (· < target) + 1
  | some key =>
    if key ≤ target then keys.countP fun other => key ≤ other ∧ other < target
    else keys.countP (key ≤ ·) + (keys.countP (· < target) + 1)

/-- Calls of `check`, at these times. -/
def checks (map : MemMap) (times : List Rat) : MemMap :=
  times.foldl check map

/-- One call of `check` more than there are entities, and every one of them has been its turn. -/
def ChecksAll (map : MemMap) : Prop :=
  ∀ times : List Rat, times.length = map.entities.length + 1 → ∀ key ref, map.find key = some ref →
    ∃ count < times.length, (map.checks (times.take count)).checkIterator = some key ∧
      (map.checks (times.take count)).find key = some ref

theorem countP_lt_of_imp {α : Type*} (narrow wide : α → Bool) {items : List α} (item : α)
    (implies : ∀ other ∈ items, narrow other = true → wide other = true) (isItem : item ∈ items)
    (isWide : wide item = true) (isNarrow : narrow item = false) :
    items.countP narrow < items.countP wide := by
  induction items with
  | nil => exact absurd isItem not_mem_nil
  | cons first rest ih =>
    have impliesRest : ∀ other ∈ rest, narrow other = true → wide other = true :=
      fun other isRest => implies other (mem_cons_of_mem first isRest)
    rw [countP_cons, countP_cons]
    rcases List.mem_cons.mp isItem with rfl | isRest
    · have mono := countP_mono_left impliesRest
      simp only [isWide, isNarrow, if_true, Bool.false_eq_true, if_false]
      omega
    · have fewer := ih impliesRest isRest
      have isWider := implies first mem_cons_self
      cases isFirst : narrow first with
      | false =>
        simp only [Bool.false_eq_true, if_false]
        omega
      | true =>
        simp only [isWider isFirst, if_true]
        omega

theorem lookup_mem_keys {ref : Nat}
    (found : entities.lookup key = some ref) : key ∈ entities.map Prod.fst := by
  rcases List.lookup_isSome_iff.mp (found ▸ rfl : (entities.lookup key).isSome = true) with
    ⟨entry, isEntry, same⟩
  rw [beq_iff_eq.mp same]
  exact mem_map_of_mem isEntry

theorem firstKey_le (isKey : key ∈ entities.map Prod.fst) :
    ∃ first, firstKey entities = some first ∧ first ≤ key := by
  cases isFirst : firstKey entities with
  | none =>
    rw [firstKey, min?_eq_none_iff] at isFirst
    rw [isFirst] at isKey
    cases isKey
  | some first => exact ⟨first, rfl, (List.min?_eq_some_iff.mp isFirst).2 key isKey⟩

theorem nextKey_le {key later : Int}
    (isKey : later ∈ entities.map Prod.fst) (isLater : key < later) :
    ∃ next, nextKey entities key = some next ∧ next ≤ later := by
  have isMember : later ∈ (entities.map Prod.fst).filter (key < ·) :=
    List.mem_filter.mpr ⟨isKey, by simpa using isLater⟩
  cases isNext : nextKey entities key with
  | none =>
    rw [nextKey, min?_eq_none_iff] at isNext
    rw [isNext] at isMember
    cases isMember
  | some next => exact ⟨next, rfl, (List.min?_eq_some_iff.mp isNext).2 later isMember⟩

theorem distance_le_length {target : Int}
    (isKey : target ∈ entities.map Prod.fst) (iterator : Option Int) :
    distance entities iterator target ≤ entities.length := by
  have below : (entities.map Prod.fst).countP (· < target) + 1 ≤ entities.length := by
    have fewer := countP_lt_of_imp (fun other => decide (other < target)) (fun _ => true) target
      (fun _ _ _ => rfl) isKey rfl (by simp)
    rw [countP_true, length_map] at fewer
    exact fewer
  cases iterator with
  | none => exact below
  | some key =>
    simp only [distance]
    split
    · exact le_trans countP_le_length (length_map _).le
    · rename_i later
      have apart : (entities.map Prod.fst).countP (key ≤ ·) +
          ((entities.map Prod.fst).countP (· < target) + 1) ≤ entities.length := by
        have partition : (entities.map Prod.fst).length = _ :=
          length_eq_countP_add_countP (key ≤ ·)
        have fewer : (entities.map Prod.fst).countP (· < target) <
            (entities.map Prod.fst).countP fun other => ¬decide (key ≤ other) = true := by
          apply countP_lt_of_imp _ _ target
          · intro other _ isBelow
            simp at isBelow ⊢
            omega
          · exact isKey
          · simpa using later
          · simp
        rw [length_map] at partition
        omega
      exact apart

theorem distance_mono {few many : List (Int × Nat)} (fewer : few.Sublist many)
    (iterator : Option Int) (target : Int) :
    distance few iterator target ≤ distance many iterator target := by
  have keys := fewer.map Prod.fst
  cases iterator with
  | none => exact Nat.succ_le_succ keys.countP_le
  | some key =>
    simp only [distance]
    split
    · exact keys.countP_le
    · exact Nat.add_le_add keys.countP_le (Nat.succ_le_succ keys.countP_le)

theorem distance_firstKey_lt {target : Int}
    (isKey : target ∈ entities.map Prod.fst) :
    distance entities (firstKey entities) target < distance entities none target := by
  rcases firstKey_le isKey with ⟨first, isFirst, isBelow⟩
  rw [isFirst]
  simp only [distance, if_pos isBelow]
  apply Nat.lt_succ_of_le
  apply countP_mono_left
  intro other _ between
  simp at between ⊢
  exact between.2

theorem distance_nextKey_lt {key target : Int}
    (isKey : target ∈ entities.map Prod.fst) (isCursor : key ∈ entities.map Prod.fst)
    (different : key ≠ target) :
    distance entities (nextKey entities key) target < distance entities (some key) target := by
  rcases lt_or_gt_of_ne different with before | after
  · rcases nextKey_le isKey before with ⟨next, isNext, isBelow⟩
    have later := (nextKey_mem isNext).2
    rw [isNext]
    simp only [distance, if_pos isBelow, if_pos before.le]
    apply countP_lt_of_imp _ _ key
    · intro other _ between
      simp at between ⊢
      omega
    · exact isCursor
    · simpa using before
    · simp
      omega
  · have notBelow : ¬key ≤ target := not_le.mpr after
    cases isNext : nextKey entities key with
    | none =>
      have positive : 0 < (entities.map Prod.fst).countP (key ≤ ·) :=
        List.countP_pos_iff.mpr ⟨key, isCursor, by simp⟩
      simp only [distance, if_neg notBelow]
      omega
    | some next =>
      have later := (nextKey_mem isNext).2
      have fewer : (entities.map Prod.fst).countP (next ≤ ·) <
          (entities.map Prod.fst).countP (key ≤ ·) := by
        apply countP_lt_of_imp _ _ key
        · intro other _ isLater
          simp at isLater ⊢
          omega
        · exact isCursor
        · simp
        · simpa using later
      simp only [distance, if_neg notBelow, if_neg (not_le.mpr (after.trans later))]
      omega

section

variable (valid : CursorValid map) {ref : Nat} (found : map.find key = some ref)

include valid found

theorem CursorValid.check_nearer (elsewhere : map.checkIterator ≠ some key) (time : Rat) :
    (map.check time).find key = some ref ∧
      distance (map.check time).entities (map.check time).checkIterator key <
        distance map.entities map.checkIterator key := by
  have isKey := lookup_mem_keys found
  cases isCursor : map.checkIterator with
  | none =>
    have toFirst : map.check time = { map with checkIterator := firstKey map.entities } := by
      rw [MemMap.check, isCursor]
    rw [toFirst]
    exact ⟨found, distance_firstKey_lt isKey⟩
  | some cursor =>
    have different : cursor ≠ key := by
      rintro rfl
      exact elsewhere isCursor
    rcases Option.isSome_iff_exists.mp (valid cursor isCursor) with ⟨other, isOther⟩
    have nearer := distance_nextKey_lt isKey (lookup_mem_keys isOther) different
    rw [MemMap.check, isCursor]
    simp only [isOther]
    split
    · have same := sameTable_unlink
        { map with
          checkIterator := nextKey map.entities cursor
          entities := map.entities.filter (·.1 ≠ cursor) } other
      rw [find, same.entities, same.checkIterator]
      constructor
      · rw [lookup_filter_ne, if_neg different.symm]
        exact found
      · exact lt_of_le_of_lt (distance_mono filter_sublist _ key) nearer
    · exact ⟨found, nearer⟩

theorem CursorValid.checks_reach (times : List Rat)
    (near : distance map.entities map.checkIterator key < times.length) :
    ∃ count < times.length, (map.checks (times.take count)).checkIterator = some key ∧
      (map.checks (times.take count)).find key = some ref := by
  induction times generalizing map with
  | nil => exact absurd near (Nat.not_lt_zero _)
  | cons time rest ih =>
    by_cases here : map.checkIterator = some key
    · exact ⟨0, Nat.succ_pos _, here, found⟩
    · rcases valid.check_nearer found here time with ⟨still, nearer⟩
      have nearRest : distance (map.check time).entities (map.check time).checkIterator key <
          rest.length := lt_of_lt_of_le nearer (Nat.le_of_lt_succ near)
      rcases ih (valid.check time) still nearRest with ⟨count, isWithin, reached, isFound⟩
      exact ⟨count + 1, Nat.succ_lt_succ isWithin, reached, isFound⟩

end

theorem CursorValid.checksAll (valid : CursorValid map) : ChecksAll map := by
  intro times isLong key ref found
  apply valid.checks_reach found
  rw [isLong]
  exact Nat.lt_succ_of_le (distance_le_length (lookup_mem_keys found) _)

/-- The iterator is in order, and meets all. -/
def CursorSound (map : MemMap) : Prop :=
  CursorValid map ∧ ChecksAll map

theorem cursorSound_iff (map : MemMap) : CursorSound map ↔ CursorValid map :=
  ⟨fun sound => sound.1, fun valid => ⟨valid, valid.checksAll⟩⟩

/-- The iterator of `check` is valid after every prefix of a run, just if no flush comes in the
middle of a round. -/
theorem cursorSound_iff_flushesAtEnd (types : List String) (events : List MemEvent) :
    (∀ count, CursorSound (run step (start types) (events.take count))) ↔
      Admissible step FlushesAtEnd (start types) events := by
  have valid : CursorValid (start types) := fun key isCursor => nomatch isCursor
  simp only [cursorSound_iff]
  exact run_take_iff CursorValid (fun map event valid => cursorValid_step_iff valid event) valid
    events

/-- A flush with the iterator at the only entity. -/
theorem flushed_cursor_dangles :
    ¬CursorSound (run step (start [])
      [.update ⟨some "7", none, none, []⟩ 0, .check 1, .flush]) := by
  intro sound
  have dangling := sound.1 7 (by decide)
  exact absurd dangling (by decide)

end MemMap

end Cyphesis.Ai
