import Cyphesis.Foundation.Run
import Mathlib.Logic.Function.Basic
import Std.Data.ExtTreeMap

/-!
# Tables of minds

The AI client finds its minds by their own ids and by those of their entities. Whether an operation
destroys the mind is a part of the event; that happens when its own entity, which has the id it was
made with, is gone.
-/

namespace Cyphesis.Ai

open Cyphesis.Foundation
open Function
open Std (ExtTreeMap LawfulEqCmp)

/-- Each has the key that `key` gives. -/
def KeyedBy (table : ExtTreeMap String Nat compare) (key : Nat → String) (next : Nat) : Prop :=
  ∀ (id : String) (ref : Nat), table[id]? = some ref → ref < next ∧ key ref = id

/-- The mind is in the table. -/
def Listed (table : ExtTreeMap String Nat compare) (ref : Nat) : Prop :=
  ∃ id : String, table[id]? = some ref

section KeyedBy

variable {table : ExtTreeMap String Nat compare} {key : Nat → String} {next : Nat}

section

variable (keyed : KeyedBy table key next)

include keyed

theorem KeyedBy.insertIfNew (newId : String) :
    KeyedBy (table.insertIfNew newId next) (update key next newId) (next + 1) := by
  intro id ref found
  rw [ExtTreeMap.getElem?_insertIfNew] at found
  split at found
  next isNew =>
    obtain rfl := Option.some.inj found
    exact ⟨Nat.lt_succ_self _, by rw [update_self, LawfulEqCmp.eq_of_compare isNew.1]⟩
  next =>
    obtain ⟨used, isId⟩ := keyed id ref found
    exact ⟨Nat.lt_succ_of_lt used, by rw [update_of_ne (Nat.ne_of_lt used), isId]⟩

theorem KeyedBy.erase (erased : String) : KeyedBy (table.erase erased) key next := by
  intro id ref found
  rw [ExtTreeMap.getElem?_erase] at found
  split at found
  · contradiction
  · exact keyed id ref found

theorem listed_erase_iff {ref : Nat}
    (isRef : table[key ref]? = some ref) (other : Nat) :
    Listed (table.erase (key ref)) other ↔ Listed table other ∧ other ≠ ref := by
  constructor
  · rintro ⟨id, found⟩
    rw [ExtTreeMap.getElem?_erase] at found
    split at found
    · contradiction
    next differs =>
      refine ⟨⟨id, found⟩, ?_⟩
      rintro rfl
      exact differs (LawfulEqCmp.compare_eq_iff_eq.mpr (keyed id other found).2)
  · rintro ⟨⟨id, found⟩, isOther⟩
    refine ⟨id, ?_⟩
    rw [ExtTreeMap.getElem?_erase, if_neg, found]
    intro same
    rw [← LawfulEqCmp.eq_of_compare same, isRef] at found
    exact isOther (Option.some.inj found).symm

end

theorem listed_insertIfNew_iff {newId : String} (isNew : newId ∉ table) (ref other : Nat) :
    Listed (table.insertIfNew newId ref) other ↔ other = ref ∨ Listed table other := by
  constructor
  · rintro ⟨id, found⟩
    rw [ExtTreeMap.getElem?_insertIfNew] at found
    split at found
    · exact .inl (Option.some.inj found).symm
    · exact .inr ⟨id, found⟩
  · rintro (rfl | ⟨id, found⟩)
    · exact ⟨newId, by
        rw [ExtTreeMap.getElem?_insertIfNew, if_pos ⟨Std.ReflCmp.compare_self, isNew⟩]⟩
    · refine ⟨id, ?_⟩
      rw [ExtTreeMap.getElem?_insertIfNew, if_neg, found]
      rintro ⟨same, -⟩
      rw [LawfulEqCmp.eq_of_compare same, ExtTreeMap.mem_iff_isSome_getElem?, found] at isNew
      exact isNew rfl

theorem insertIfNew_of_mem {newId : String} (present : newId ∈ table) (ref : Nat) :
    table.insertIfNew newId ref = table := by
  apply ExtTreeMap.ext_getElem?
  intro id
  rw [ExtTreeMap.getElem?_insertIfNew, if_neg (fun isNew => isNew.2 present)]

end KeyedBy

structure PossessionAccount where
  minds : ExtTreeMap String Nat compare := ∅
  entitiesWithMinds : ExtTreeMap String Nat compare := ∅
  mindCount : Int := 0
  idOf : Nat → String := fun _ => ""
  entityIdOf : Nat → String := fun _ => ""
  isDestroyed : Nat → Bool := fun _ => false
  /-- References from here on are free. -/
  nextMind : Nat := 0

/-- What reaches the account of the client. -/
inductive AccountEvent where
  /-- An entity is possessed. -/
  | possessed (mindId entityId : String)
  /-- An operation for others than the account. -/
  | operation (receiver : String) (destroys : Bool)

namespace PossessionAccount

variable (account : PossessionAccount) (mindId entityId : String)

/-- `emplace` keeps what is there. -/
def createMindInstance : PossessionAccount where
  minds := account.minds.insertIfNew mindId account.nextMind
  entitiesWithMinds := account.entitiesWithMinds.insertIfNew entityId account.nextMind
  mindCount := account.mindCount + 1
  idOf := update account.idOf account.nextMind mindId
  entityIdOf := update account.entityIdOf account.nextMind entityId
  isDestroyed := update account.isDestroyed account.nextMind false
  nextMind := account.nextMind + 1

/-- `BaseMind::operation`: the flag stays. -/
def handle (ref : Nat) (destroys : Bool) : PossessionAccount :=
  { account with
    isDestroyed := update account.isDestroyed ref (account.isDestroyed ref || destroys) }

def eraseMind : PossessionAccount :=
  { account with
    minds := account.minds.erase mindId
    entitiesWithMinds := account.entitiesWithMinds.erase entityId
    mindCount := account.mindCount - 1 }

/-- The mind names the table that lacks it. -/
def operation (receiver : String) (destroys : Bool) :
    PossessionAccount :=
  match account.minds[receiver]? with
  | some ref =>
    let handled := account.handle ref destroys
    if handled.isDestroyed ref then handled.eraseMind receiver (handled.entityIdOf ref)
    else handled
  | none =>
    match account.entitiesWithMinds[receiver]? with
    | some ref =>
      let handled := account.handle ref destroys
      if handled.isDestroyed ref then handled.eraseMind (handled.idOf ref) receiver
      else handled
    | none => account

def step : AccountEvent → PossessionAccount
  | .possessed mindId entityId => account.createMindInstance mindId entityId
  | .operation receiver destroys => account.operation receiver destroys

/-- Both tables have the same live minds. -/
structure Agrees (account : PossessionAccount) : Prop where
  same : ∀ ref, Listed account.minds ref ↔ Listed account.entitiesWithMinds ref
  count : account.mindCount = account.minds.size
  alive : ∀ ref, Listed account.minds ref → account.isDestroyed ref = false

/-- A mind is found under its own ids only. -/
structure Keyed (account : PossessionAccount) : Prop where
  minds : KeyedBy account.minds account.idOf account.nextMind
  entities : KeyedBy account.entitiesWithMinds account.entityIdOf account.nextMind

/-- An answer names what is new. -/
def Fresh : AccountEvent → Prop
  | .possessed mindId entityId =>
    mindId ∉ account.minds ∧ entityId ∉ account.entitiesWithMinds
  | .operation _ _ => True

theorem Keyed.step {account : PossessionAccount} (keyed : account.Keyed) (event : AccountEvent) :
    (account.step event).Keyed := by
  cases event with
  | possessed mindId entityId =>
    exact ⟨keyed.minds.insertIfNew mindId, keyed.entities.insertIfNew entityId⟩
  | operation receiver destroys =>
    simp only [PossessionAccount.step, operation]
    split
    next ref _ =>
      split
      · exact ⟨keyed.minds.erase _, keyed.entities.erase _⟩
      · exact ⟨keyed.minds, keyed.entities⟩
    next =>
      split
      next ref _ =>
        split
        · exact ⟨keyed.minds.erase _, keyed.entities.erase _⟩
        · exact ⟨keyed.minds, keyed.entities⟩
      next => exact keyed

section

variable {account} (keyed : account.Keyed) (agrees : account.Agrees) (receiver : String)
  (destroys : Bool)

include keyed agrees

/-- It reaches none, or one in both. -/
theorem operation_eq :
    account.operation receiver destroys = account ∨
      ∃ ref, account.minds[account.idOf ref]? = some ref ∧
        account.entitiesWithMinds[account.entityIdOf ref]? = some ref ∧
        account.operation receiver destroys =
          if destroys then
            (account.handle ref true).eraseMind (account.idOf ref) (account.entityIdOf ref)
          else account.handle ref false := by
  unfold operation
  have flag {ref : Nat} (listed : Listed account.minds ref) :
      (account.handle ref destroys).isDestroyed ref = destroys := by
    simp only [handle, update_self, agrees.alive ref listed, Bool.false_or]
  cases isMind : account.minds[receiver]? with
  | some ref =>
    have listed : Listed account.minds ref := ⟨receiver, isMind⟩
    obtain ⟨entityId, isEntity⟩ := (agrees.same ref).mp listed
    obtain rfl := (keyed.entities entityId ref isEntity).2
    obtain rfl := (keyed.minds receiver ref isMind).2
    refine .inr ⟨ref, isMind, isEntity, ?_⟩
    simp only [flag listed]
    cases destroys <;> rfl
  | none =>
    cases isEntity : account.entitiesWithMinds[receiver]? with
    | none => exact .inl rfl
    | some ref =>
      have listed : Listed account.minds ref := (agrees.same ref).mpr ⟨receiver, isEntity⟩
      obtain ⟨id, isId⟩ := listed
      obtain rfl := (keyed.minds id ref isId).2
      obtain rfl := (keyed.entities receiver ref isEntity).2
      refine .inr ⟨ref, isId, isEntity, ?_⟩
      simp only [flag ⟨_, isId⟩]
      cases destroys <;> rfl

theorem Agrees.operation : (account.operation receiver destroys).Agrees := by
  obtain unchanged | ⟨ref, isMind, isEntity, handled⟩ :=
    operation_eq keyed agrees receiver destroys
  · rw [unchanged]
    exact agrees
  · rw [handled]
    cases destroys with
    | false =>
      refine ⟨agrees.same, agrees.count, fun other listed => ?_⟩
      simp only [Bool.false_eq_true, if_false, handle, Bool.or_false, update_eq_self]
      exact agrees.alive other listed
    | true =>
      have mindsLeft := listed_erase_iff keyed.minds isMind
      refine ⟨fun other => ?_, ?_, fun other listed => ?_⟩
      · refine (mindsLeft other).trans ?_
        rw [agrees.same other]
        exact (listed_erase_iff keyed.entities isEntity other).symm
      · have present : account.idOf ref ∈ account.minds :=
          ExtTreeMap.mem_iff_isSome_getElem?.mpr (by rw [isMind]; rfl)
        have some : 0 < account.minds.size := by
          rw [Nat.pos_iff_ne_zero]
          intro isZero
          rw [ExtTreeMap.eq_empty_iff_size_eq_zero.mpr isZero] at present
          exact ExtTreeMap.not_mem_empty present
        simp only [if_true, eraseMind, handle, ExtTreeMap.size_erase, ExtTreeMap.contains_iff_mem,
          present]
        rw [agrees.count]
        omega
      · obtain ⟨wasListed, isOther⟩ := (mindsLeft other).mp listed
        simp only [if_true, handle, eraseMind, update_of_ne isOther]
        exact agrees.alive other wasListed

end

/-- Tables agree just if answers are fresh. -/
theorem agrees_step_iff (event : AccountEvent)
    (keyed : account.Keyed) (agrees : account.Agrees) :
    (account.step event).Agrees ↔ account.Fresh event := by
  cases event with
  | operation receiver destroys => exact iff_of_true (agrees.operation keyed _ _) trivial
  | possessed mindId entityId =>
    have unused {table : ExtTreeMap String Nat compare} {key : Nat → String}
        (keyed : KeyedBy table key account.nextMind) : ¬ Listed table account.nextMind :=
      fun ⟨id, found⟩ => Nat.lt_irrefl _ (keyed id _ found).1
    constructor
    · intro next
      have isNew : mindId ∉ account.minds := by
        intro present
        have count := next.count
        simp only [step, createMindInstance, insertIfNew_of_mem present, agrees.count] at count
        omega
      refine ⟨isNew, fun present => unused keyed.entities ?_⟩
      have listed := (next.same account.nextMind).mp
        ((listed_insertIfNew_iff isNew _ _).mpr (.inl rfl))
      simpa only [step, createMindInstance, insertIfNew_of_mem present] using listed
    · rintro ⟨newMind, newEntity⟩
      refine ⟨fun ref => ?_, ?_, fun ref listed => ?_⟩
      · simp only [step, createMindInstance]
        rw [listed_insertIfNew_iff newMind, listed_insertIfNew_iff newEntity, agrees.same]
      · simp only [step, createMindInstance, ExtTreeMap.size_insertIfNew, if_neg newMind,
          agrees.count, Int.natCast_succ]
      · simp only [step, createMindInstance] at listed ⊢
        rcases (listed_insertIfNew_iff newMind _ _).mp listed with rfl | listed
        · exact update_self ..
        · rw [update_of_ne]
          · exact agrees.alive ref listed
          · rintro rfl
            exact unused keyed.minds listed

theorem keyed_initial : ({} : PossessionAccount).Keyed :=
  ⟨fun _ _ found => by simp at found, fun _ _ found => by simp at found⟩

theorem agrees_initial : ({} : PossessionAccount).Agrees :=
  ⟨fun _ => by simp [Listed], rfl, fun _ listed => by simp [Listed] at listed⟩

/-- The tables of minds and of their entities agree after every prefix, just if every answer names a
new mind and a new entity. -/
theorem run_tables_agree_iff (events : List AccountEvent) :
    (∀ count, (run step {} (events.take count)).Agrees) ↔ Admissible step Fresh {} events :=
  run_take_iff_of_good Agrees Keyed (fun _ event keyed _ => keyed.step event) agrees_step_iff
    keyed_initial agrees_initial events

/-- Two minds for one entity. -/
theorem possessed_twice : ¬ ∀ events, (run step {} events).Agrees := by
  intro always
  have next := (agrees_step_iff _ (.possessed "8" "3")
    (keyed_initial.step (.possessed "7" "3")) (always [.possessed "7" "3"])).mp
      (always [.possessed "7" "3", .possessed "8" "3"])
  exact next.2 (by decide)

end PossessionAccount

end Cyphesis.Ai
