import Cyphesis.Simulation.Attachments

/-!
# The two records of an attachment

When the property `attached_x` and the `mode_data` agree after every step.
-/

namespace Cyphesis.Simulation

open Cyphesis.Foundation Option
open Cyphesis.Server (integerId)

/-- Mode data of an attached entity. -/
def ModeData.Attaching (data : ModeData) : Prop :=
  ∃ wielder attachment, data = .planted (some wielder) (some attachment)

namespace AttachWorld

variable {world after : AttachWorld} {id wielder : Int}

section Modify

variable (world : AttachWorld) (id : Int) (change : AttachEntity → AttachEntity)

theorem isSome_modify (other : Int) :
    ((world.modify id change).entities other).isSome = (world.entities other).isSome := by
  unfold modify
  dsimp only
  split
  · rename_i same
    rw [same, isSome_map]
  · rfl

theorem modeDataOf_modify_self :
    (world.modify id change).modeDataOf id =
      (world.entities id).map fun entity => (change entity).modeData := by
  unfold modeDataOf modify
  dsimp only
  rw [if_pos rfl, map_map]
  rfl

theorem modeDataOf_modify_of_ne {other : Int} (different : other ≠ id) :
    (world.modify id change).modeDataOf other = world.modeDataOf other := by
  unfold modeDataOf modify
  dsimp only
  rw [if_neg different]

theorem attachedTo_modify (attached : ∀ entity, (change entity).attached = entity.attached)
    (other : Int) (attachment : String) :
    (world.modify id change).attachedTo other attachment = world.attachedTo other attachment := by
  unfold attachedTo modify
  dsimp only
  split
  · rename_i same
    rw [same]
    cases world.entities id with
    | none => rfl
    | some entity => exact congrFun (attached entity) attachment
  · rfl

end Modify

theorem modeDataOf_setAttached (world : AttachWorld) (id : Int) (attachment : String)
    (value : Option Int) (other : Int) :
    (world.setAttached id attachment value).modeDataOf other = world.modeDataOf other := by
  by_cases same : other = id
  · rw [same, setAttached, modeDataOf_modify_self]
    rfl
  · exact modeDataOf_modify_of_ne world id _ same

theorem attachedTo_setAttached (isWielder : (world.entities id).isSome) (attachment : String)
    (value : Option Int) (other : Int) (point : String) :
    (world.setAttached id attachment value).attachedTo other point =
      if other = id ∧ point = attachment then value else world.attachedTo other point := by
  obtain ⟨entity, isEntity⟩ := Option.isSome_iff_exists.mp isWielder
  unfold attachedTo setAttached modify
  dsimp only
  by_cases same : other = id
  · rw [if_pos same, same, isEntity]
    by_cases isPoint : point = attachment
    · rw [if_pos ⟨rfl, isPoint⟩, isPoint]
      exact Function.update_self attachment value entity.attached
    · rw [if_neg fun both => isPoint both.2]
      exact Function.update_of_ne isPoint value entity.attached
  · rw [if_neg same, if_neg fun both => same both.1]

/-- An entity is not attached to anything. -/
def Unattached (world : AttachWorld) (id : Int) : Prop :=
  ∀ wielder attachment, (world.entities wielder).isSome →
    world.modeDataOf id ≠ some (.planted (some wielder) (some attachment))

variable {arrival : Arrival} {place : Int} {destroyed : Int} (domain : Option DomainKind)

theorem plain_settled_null (mode : Mode) (ground : Option Int) :
    ¬(settled domain mode ground .null).Attaching := by
  rintro ⟨wielder, attachment, isAttached⟩
  unfold settled at isAttached
  split at isAttached
  · cases ground with
    | none => cases isAttached
    | some below => cases isAttached
  · cases isAttached

theorem plantOnEntity_cases (data : ModeData) (below : Option Int) :
    data.plantOnEntity below = data ∨ ¬(data.plantOnEntity below).Attaching := by
  -- what is planted anew has no attachment point
  have plain : ¬(below.elim ModeData.null fun on => .planted (some on) none).Attaching := by
    rintro ⟨wielder, attachment, isAttached⟩
    cases below with
    | none => cases isAttached
    | some on => cases isAttached
  have other : (below.elim data fun on => .planted (some on) none) = data ∨
      ¬(below.elim data fun on => .planted (some on) none).Attaching := by
    cases below with
    | none => exact .inl rfl
    | some on => exact .inr plain
  cases data with
  | null => exact other
  | projectile => exact other
  | planted entityId attachment =>
    cases entityId with
    | none => exact .inr plain
    | some on =>
      unfold ModeData.plantOnEntity
      dsimp only
      split
      · exact .inl rfl
      · exact .inr plain

theorem settled_cases (mode : Mode) (ground : Option Int) (data : ModeData) :
    settled domain mode ground data = data ∨ ¬(settled domain mode ground data).Attaching := by
  unfold settled
  split
  · cases ground with
    | none => exact .inl rfl
    | some below => exact plantOnEntity_cases data (some below)
  · exact .inl rfl

theorem received_cases (kind : DomainKind) (owner : Int) (mode : Mode) (arrival : Arrival)
    (data : ModeData) :
    received kind owner mode arrival data = data ∨
      ¬(received kind owner mode arrival data).Attaching := by
  have plain : ¬ModeData.null.Attaching := by
    rintro ⟨wielder, attachment, isAttached⟩
    cases isAttached
  cases kind with
  | physical => exact settled_cases _ mode arrival.ground data
  | void => exact .inr plain
  | inventory =>
    unfold received
    dsimp only
    split
    · exact .inl rfl
    · split
      · exact .inr plain
      · exact .inl rfl
  | stackable =>
    unfold received
    dsimp only
    split
    · exact .inl rfl
    · exact .inr plain
  | container =>
    unfold received
    dsimp only
    split
    · exact .inl rfl
    · exact .inr plain

theorem Unattached.modify {change : AttachEntity → AttachEntity} {other : Int}
    (unattached : world.Unattached other)
    (plain : ∀ entity, world.entities id = some entity →
      (change entity).modeData = entity.modeData ∨ ¬(change entity).modeData.Attaching) :
    (world.modify id change).Unattached other := by
  intro wielder attachment isWielder isAttached
  rw [isSome_modify] at isWielder
  by_cases same : other = id
  · subst same
    rw [modeDataOf_modify_self, map_eq_some_iff] at isAttached
    obtain ⟨entity, isEntity, data⟩ := isAttached
    rcases plain entity isEntity with kept | notAttaching
    · apply unattached wielder attachment isWielder
      unfold modeDataOf
      rw [isEntity, map_some, ← kept, data]
    · exact notAttaching ⟨wielder, attachment, data⟩
  · rw [modeDataOf_modify_of_ne world id change same] at isAttached
    exact unattached wielder attachment isWielder isAttached

section

variable (consistent : world.Consistent)

include consistent

theorem Consistent.modify {change : AttachEntity → AttachEntity} (unattached : world.Unattached id)
    (attached : ∀ entity, (change entity).attached = entity.attached)
    (plain : ∀ entity, world.entities id = some entity →
      (change entity).modeData = entity.modeData ∨ ¬(change entity).modeData.Attaching) :
    (world.modify id change).Consistent := by
  have remains := unattached.modify plain
  intro wielder attachment other isWielder
  rw [attachedTo_modify world id change attached]
  have isWielderBefore := isWielder
  rw [isSome_modify] at isWielderBefore
  rw [consistent wielder attachment other isWielderBefore]
  by_cases same : other = id
  · subst same
    exact iff_of_false (unattached wielder attachment isWielderBefore)
      (remains wielder attachment isWielder)
  · rw [modeDataOf_modify_of_ne world id change same]

/-- A change that attaches an entity nowhere else keeps the records. -/
theorem Consistent.modify_of_iff {change : AttachEntity → AttachEntity}
    (attached : ∀ entity, (change entity).attached = entity.attached)
    (same : ∀ entity wielder attachment, world.entities id = some entity →
      (world.entities wielder).isSome →
      ((change entity).modeData = .planted (some wielder) (some attachment) ↔
        entity.modeData = .planted (some wielder) (some attachment))) :
    (world.modify id change).Consistent := by
  intro wielder attachment other isWielder
  rw [attachedTo_modify world id change attached]
  rw [isSome_modify] at isWielder
  rw [consistent wielder attachment other isWielder]
  by_cases isChanged : other = id
  · subst isChanged
    rw [modeDataOf_modify_self]
    unfold modeDataOf
    cases isEntity : world.entities other with
    | none => rfl
    | some entity =>
      rw [map_some, map_some, Option.some.injEq, Option.some.injEq]
      exact (same entity wielder attachment isEntity isWielder).symm
  · rw [modeDataOf_modify_of_ne world id change isChanged]

theorem Consistent.of_same (isSome : ∀ id, (after.entities id).isSome = (world.entities id).isSome)
    (attached : ∀ id attachment, after.attachedTo id attachment = world.attachedTo id attachment)
    (modeData : ∀ id, after.modeDataOf id = world.modeDataOf id) : after.Consistent := by
  intro wielder attachment id isWielder
  rw [isSome] at isWielder
  rw [attached, modeData]
  exact consistent wielder attachment id isWielder

theorem existing_eq_some_iff (isWielder : (world.entities wielder).isSome) (attachment : String) :
    world.existing wielder attachment = some id ↔
      world.modeDataOf id = some (.planted (some wielder) (some attachment)) := by
  unfold existing
  rw [filter_eq_some_iff, consistent wielder attachment id isWielder]
  constructor
  · exact And.left
  · intro isAttached
    refine ⟨isAttached, ?_⟩
    unfold modeDataOf at isAttached
    obtain ⟨entity, isEntity, -⟩ := Option.map_eq_some_iff.mp isAttached
    rw [isEntity]
    rfl

variable {attachment : String}

/-- Attach an entity, which leaves where it was. -/
theorem Consistent.attach {data : ModeData}
    (isWielder : (world.entities wielder).isSome) (isData : world.modeDataOf id = some data)
    (different : world.existing wielder attachment ≠ some id)
    (isSome : ∀ other, (after.entities other).isSome = (world.entities other).isSome)
    (attached : ∀ other point, after.attachedTo other point =
      if other = wielder ∧ point = attachment then some id
      else if data = .planted (some other) (some point) then none
      else world.attachedTo other point)
    (own : after.modeDataOf id = some (.planted (some wielder) (some attachment)))
    (replaced : ∀ old, world.existing wielder attachment = some old → after.Unattached old)
    (others : ∀ other, other ≠ id → world.existing wielder attachment ≠ some other →
      after.modeDataOf other = world.modeDataOf other) : after.Consistent := by
  intro other point entity isOther
  have isOtherBefore := isOther
  rw [isSome] at isOtherBefore
  rw [attached]
  by_cases isOld : world.existing wielder attachment = some entity
  · -- the entity that was there before is not attached any more
    have notNew : id ≠ entity := by
      rintro rfl
      exact different isOld
    have wasHere := (existing_eq_some_iff consistent isWielder attachment).mp isOld
    have before := consistent other point entity isOtherBefore
    refine iff_of_false ?_ (replaced entity isOld other point isOther)
    split
    · intro same
      exact notNew (Option.some.inj same)
    · rename_i notHere
      split
      · intro isNone
        cases isNone
      · rw [before, wasHere]
        intro same
        cases same
        exact notHere ⟨rfl, rfl⟩
  · by_cases isNew : entity = id
    · subst isNew
      rw [own]
      split
      · rename_i here
        rw [here.1, here.2]
        exact iff_of_true rfl rfl
      · rename_i notHere
        have wrong : ¬some (ModeData.planted (some wielder) (some attachment)) =
            some (.planted (some other) (some point)) := by
          intro same
          cases same
          exact notHere ⟨rfl, rfl⟩
        refine iff_of_false ?_ wrong
        split
        · intro isNone
          cases isNone
        · rename_i notBefore
          rw [consistent other point entity isOtherBefore, isData, Option.some.injEq]
          exact notBefore
    · rw [others entity isNew isOld]
      have before := consistent other point entity isOtherBefore
      split
      · rename_i here
        obtain ⟨rfl, rfl⟩ := here
        refine iff_of_false ?_ ?_
        · intro same
          exact isNew (Option.some.inj same).symm
        · rw [← existing_eq_some_iff consistent isWielder point]
          exact isOld
      · split
        · rename_i left
          rw [left] at isData
          have isLeft := (consistent other point id isOtherBefore).mpr isData
          refine iff_of_false (by simp) ?_
          rw [← before, isLeft]
          intro same
          exact isNew (Option.some.inj same).symm
        · exact before

theorem Consistent.detach (isWielder : (world.entities wielder).isSome)
    (isSome : ∀ other, (after.entities other).isSome = (world.entities other).isSome)
    (attached : ∀ other point, after.attachedTo other point =
      if other = wielder ∧ point = attachment then none else world.attachedTo other point)
    (replaced : ∀ old, world.existing wielder attachment = some old → after.Unattached old)
    (others : ∀ other, world.existing wielder attachment ≠ some other →
      after.modeDataOf other = world.modeDataOf other) : after.Consistent := by
  intro other point entity isOther
  have isOtherBefore := isOther
  rw [isSome] at isOtherBefore
  have before := consistent other point entity isOtherBefore
  rw [attached]
  by_cases isOld : world.existing wielder attachment = some entity
  · have wasHere := (existing_eq_some_iff consistent isWielder attachment).mp isOld
    refine iff_of_false ?_ (replaced entity isOld other point isOther)
    split
    · intro isNone
      cases isNone
    · rename_i notHere
      rw [before, wasHere]
      intro same
      cases same
      exact notHere ⟨rfl, rfl⟩
  · rw [others entity isOld]
    split
    · rename_i here
      obtain ⟨rfl, rfl⟩ := here
      refine iff_of_false (by simp) ?_
      rw [← existing_eq_some_iff consistent isWielder point]
      exact isOld
    · exact before

end

section Reset

variable (world : AttachWorld) (old ground : Option Int)

theorem isSome_resetExisting (other : Int) :
    ((world.resetExisting old ground).entities other).isSome = (world.entities other).isSome := by
  cases old with
  | none => rfl
  | some id => exact isSome_modify world id _ other

theorem attachedTo_resetExisting (other : Int) (attachment : String) :
    (world.resetExisting old ground).attachedTo other attachment =
      world.attachedTo other attachment := by
  cases old with
  | none => rfl
  | some id =>
    apply attachedTo_modify
    intro entity
    rfl

theorem modeDataOf_resetExisting {other : Int} (different : old ≠ some other) :
    (world.resetExisting old ground).modeDataOf other = world.modeDataOf other := by
  cases old with
  | none => rfl
  | some id =>
    apply modeDataOf_modify_of_ne
    rintro rfl
    exact different rfl

theorem unattached_resetExisting {id : Int} (isOld : old = some id) :
    (world.resetExisting old ground).Unattached id := by
  subst isOld
  intro wielder attachment _ isAttached
  unfold resetExisting applyModeData at isAttached
  rw [elim_some, modeDataOf_modify_self, map_eq_some_iff] at isAttached
  obtain ⟨entity, -, data⟩ := isAttached
  exact plain_settled_null _ _ _ ⟨wielder, attachment, data⟩

end Reset

section

variable (world) (wielder) (data : ModeData) (other : Int)

theorem isSome_leaveAttachment :
    ((world.leaveAttachment wielder data).entities other).isSome =
      (world.entities other).isSome := by
  unfold leaveAttachment
  split
  · exact isSome_modify world wielder _ other
  · rfl

theorem modeDataOf_leaveAttachment : (world.leaveAttachment wielder data).modeDataOf other =
      world.modeDataOf other := by
  unfold leaveAttachment
  split
  · exact modeDataOf_setAttached world wielder _ none other
  · rfl

end

theorem attachedTo_leaveAttachment {data : ModeData} (isWielder : (world.entities wielder).isSome)
    (nowhere : plantedElsewhere wielder data = false) (other : Int) (point : String) :
    (world.leaveAttachment wielder data).attachedTo other point =
      if data = .planted (some other) (some point) then none
      else world.attachedTo other point := by
  cases data with
  | null => rfl
  | projectile => rfl
  | planted entityId attachment =>
    have isHere : entityId = some wielder := by
      simpa [plantedElsewhere] using nowhere
    subst isHere
    cases attachment with
    | none =>
      rw [if_neg (by simp)]
      rfl
    | some attachment =>
      unfold leaveAttachment
      dsimp only
      rw [attachedTo_setAttached isWielder]
      by_cases here : other = wielder ∧ point = attachment
      · rw [if_pos here, if_pos]
        rw [here.1, here.2]
      · rw [if_neg here, if_neg]
        intro same
        cases same
        exact here ⟨rfl, rfl⟩

/-- Its id as it is spelled, and no physics. -/
def Attaches (world : AttachWorld) (wielder : Int) (op : Wield) : Prop :=
  ∀ new, world.entities (integerId op.id) = some new → op.id ≠ "" →
    (world.attachedTo wielder op.attachment = some (integerId op.id) →
      op.id = toString (integerId op.id)) ∧
    (new.parent.bind world.domainOf = some .physical → new.mode = .planted →
      ∀ below, op.newGround = some below → below = wielder)

theorem settled_planted {domain : Option DomainKind} {mode : Mode} {ground : Option Int}
    (stands : domain = some .physical → mode = .planted →
      ∀ below, ground = some below → below = wielder) (attachment : Option String) :
    settled domain mode ground (.planted (some wielder) attachment) =
      .planted (some wielder) attachment := by
  unfold settled
  split
  · rename_i placed
    cases isGround : ground with
    | none => rfl
    | some below =>
      rw [stands placed.1 placed.2 below isGround]
      exact if_pos rfl
  · rfl

theorem domainOf_leaveAttachment (world : AttachWorld) (wielder : Int) (data : ModeData) :
    (world.leaveAttachment wielder data).domainOf = world.domainOf := by
  funext other
  unfold leaveAttachment
  split
  · unfold domainOf setAttached modify
    dsimp only
    split
    · rename_i same
      rw [same]
      cases world.entities wielder with
      | none => rfl
      | some entity => rfl
    · rfl
  · rfl

theorem entities_leaveAttachment {new : AttachEntity} (isNew : world.entities id = some new)
    (wielder : Int) (data : ModeData) :
    ∃ same, (world.leaveAttachment wielder data).entities id = some same ∧
      same.parent = new.parent ∧ same.mode = new.mode := by
  unfold leaveAttachment
  split
  · unfold setAttached modify
    dsimp only
    split
    · rename_i isWielder
      rw [← isWielder, isNew]
      exact ⟨_, rfl, rfl, rfl⟩
    · exact ⟨new, isNew, rfl, rfl⟩
  · exact ⟨new, isNew, rfl, rfl⟩

theorem Consistent.wielded {attachment : String} {new : AttachEntity} {newGround : Option Int}
    (consistent : world.Consistent) (isWielder : (world.entities wielder).isSome)
    (isNew : world.entities id = some new)
    (nowhere : plantedElsewhere wielder new.modeData = false)
    (different : world.existing wielder attachment ≠ some id)
    (stands : new.parent.bind world.domainOf = some .physical → new.mode = .planted →
      ∀ below, newGround = some below → below = wielder) (oldGround : Option Int) :
    ((((world.leaveAttachment wielder new.modeData).applyModeData id
      (.planted (some wielder) (some attachment)) newGround).setAttached wielder attachment
        (some id)).resetExisting (world.existing wielder attachment) oldGround).Consistent := by
  have data : world.modeDataOf id = some new.modeData := by
    unfold modeDataOf
    rw [isNew]
    rfl
  have isWielderNow : (((world.leaveAttachment wielder new.modeData).applyModeData id
      (.planted (some wielder) (some attachment)) newGround).entities wielder).isSome := by
    unfold applyModeData
    rw [isSome_modify, isSome_leaveAttachment]
    exact isWielder
  apply consistent.attach isWielder data different
  · intro other
    rw [isSome_resetExisting, setAttached, isSome_modify, applyModeData, isSome_modify,
      isSome_leaveAttachment]
  · intro other point
    rw [attachedTo_resetExisting, attachedTo_setAttached isWielderNow, applyModeData,
      attachedTo_modify, attachedTo_leaveAttachment isWielder nowhere]
    intro entity
    rfl
  · obtain ⟨same, isSame, parent, mode⟩ :=
      entities_leaveAttachment isNew wielder new.modeData
    rw [modeDataOf_resetExisting _ _ _ different, modeDataOf_setAttached, applyModeData,
      modeDataOf_modify_self, isSame, map_some, Option.some.injEq, parent, mode,
      domainOf_leaveAttachment]
    exact settled_planted stands (some attachment)
  · exact fun old isOld => unattached_resetExisting _ _ _ isOld
  · intro other notNew notOld
    rw [modeDataOf_resetExisting _ _ _ notOld, modeDataOf_setAttached, applyModeData,
      modeDataOf_modify_of_ne _ _ _ notNew, modeDataOf_leaveAttachment]

theorem Consistent.operation {op : Wield} (consistent : world.Consistent)
    (attaches : world.Attaches wielder op) : (world.operation wielder op).Consistent := by
  unfold AttachWorld.operation
  split
  · exact consistent
  · rename_i entity isEntity
    have isWielder : (world.entities wielder).isSome := by
      rw [isEntity]
      rfl
    split
    · exact consistent
    · split
      · exact consistent
      · rename_i notThere
        split
        · apply consistent.detach isWielder
          · intro other
            rw [isSome_resetExisting]
            exact isSome_modify world wielder _ other
          · intro other point
            rw [attachedTo_resetExisting, attachedTo_setAttached isWielder]
          · exact fun old isOld => unattached_resetExisting _ _ _ isOld
          · intro other notOld
            rw [modeDataOf_resetExisting _ _ _ notOld, modeDataOf_setAttached]
        · rename_i hasId
          split
          · exact consistent
          · rename_i new isNew
            split
            · exact consistent
            · rename_i accepted
              rw [not_or, Bool.not_eq_true] at accepted
              obtain ⟨spelled, stands⟩ := attaches new isNew hasId
              apply consistent.wielded isWielder isNew accepted.2 _ stands
              intro isThere
              have isAttached := (Option.filter_eq_some_iff.mp isThere).1
              apply notThere
              rw [isThere, any_some, decide_eq_true_eq]
              exact spelled isAttached

/-- What is attached stays so. -/
def Stays (domain : Option DomainKind) (place : Int) (mode : Mode) (arrival : Arrival)
    (wielder : Int) : Prop :=
  match domain with
  | none => True
  | some .physical => mode = .planted → ∀ below, arrival.ground = some below → below = wielder
  | some .void => False
  | some .inventory => arrival.merges = true ∨ place = wielder
  | some .stackable => arrival.merges = true
  | some .container => arrival.merges = true

theorem received_of_stays {kind : DomainKind} {mode : Mode}
    (stays : Stays (some kind) place mode arrival wielder) (attachment : Option String) :
    received kind place mode arrival (.planted (some wielder) attachment) =
      .planted (some wielder) attachment := by
  cases kind with
  | physical => exact settled_planted (fun _ => stays) attachment
  | void => cases stays
  | inventory =>
    rcases stays with merges | rfl
    · exact if_pos merges
    · unfold received
      simp [ModeData.plantedOn]
  | stackable => exact if_pos stays
  | container => exact if_pos stays

/-- A move that leaves it attached. -/
def Carries (world : AttachWorld) (id place : Int) (arrival : Arrival) : Prop :=
  ∀ entity wielder attachment, world.entities id = some entity →
    (world.entities wielder).isSome →
    entity.modeData = .planted (some wielder) (some attachment) →
    Stays (world.domainOf place) place entity.mode arrival wielder

theorem changeContainer_cases (world : AttachWorld) (place : Int) (arrival : Arrival)
    (entity : AttachEntity) :
    ((world.domainOf place).elim entity.modeData fun kind =>
        received kind place entity.mode arrival entity.modeData) = entity.modeData ∨
      ¬((world.domainOf place).elim entity.modeData fun kind =>
        received kind place entity.mode arrival entity.modeData).Attaching := by
  cases world.domainOf place with
  | none => exact .inl rfl
  | some kind => exact received_cases kind place entity.mode arrival entity.modeData

theorem Consistent.changeContainer (consistent : world.Consistent)
    (carries : world.Carries id place arrival) :
    (world.changeContainer id place arrival).Consistent := by
  by_cases unattached : world.Unattached id
  · apply consistent.modify unattached
    · intro entity
      rfl
    · intro entity _
      exact changeContainer_cases world place arrival entity
  · -- what is attached keeps its mode data
    unfold Unattached at unattached
    push Not at unattached
    obtain ⟨wielder, attachment, isWielder, isAttached⟩ := unattached
    obtain ⟨entity, isEntity, data⟩ := Option.map_eq_some_iff.mp isAttached
    have stays := carries entity wielder attachment isEntity isWielder data
    apply consistent.of_same
    · exact isSome_modify world id _
    · apply attachedTo_modify
      intro entity
      rfl
    · intro other
      by_cases same : other = id
      · rw [same, AttachWorld.changeContainer, modeDataOf_modify_self, isAttached, isEntity,
          map_some, Option.some.injEq, data]
        cases isDomain : world.domainOf place with
        | none => rfl
        | some kind =>
          rw [isDomain] at stays
          exact received_of_stays stays (some attachment)
      · exact modeDataOf_modify_of_ne world id _ same

theorem Unattached.changeContainer {other : Int} (unattached : world.Unattached other) :
    (world.changeContainer id place arrival).Unattached other := by
  apply unattached.modify
  intro entity _
  exact changeContainer_cases world place arrival entity

theorem carries_of_unattached (unattached : world.Unattached id) :
    world.Carries id place arrival := by
  intro entity wielder attachment isEntity isWielder data
  exfalso
  apply unattached wielder attachment isWielder
  unfold modeDataOf
  rw [isEntity, map_some, data]

section

variable (consistent : world.Consistent)

include consistent

/-- An entity keeps its attachment when its mode is set. -/
theorem Consistent.setMode {mode : Mode} {ground : Option Int}
    (keeps : ∀ entity wielder attachment, world.entities id = some entity →
      (world.entities wielder).isSome →
      entity.modeData = .planted (some wielder) (some attachment) → mode = .planted ∧
        (entity.parent.bind world.domainOf = some .physical →
          ∀ below, ground = some below → below = wielder)) :
    (world.setMode id mode ground).Consistent := by
  apply consistent.modify_of_iff
  · intro entity
    rfl
  intro entity wielder attachment isEntity isWielder
  dsimp only
  constructor
  · intro isAttached
    rcases settled_cases (entity.parent.bind world.domainOf) mode ground
      (if entity.modeData.getMode ≠ mode ∧ entity.modeData.getMode ≠ .unknown then .null
        else entity.modeData) with kept | notAttaching
    · rw [kept] at isAttached
      split at isAttached
      · cases isAttached
      · exact isAttached
    · exact absurd ⟨wielder, attachment, isAttached⟩ notAttaching
  · intro isAttached
    obtain ⟨rfl, stands⟩ := keeps entity wielder attachment isEntity isWielder isAttached
    have sameMode : ¬(entity.modeData.getMode ≠ .planted ∧
        entity.modeData.getMode ≠ .unknown) := by
      rw [isAttached]
      exact fun different => different.1 rfl
    rw [if_neg sameMode, isAttached]
    exact settled_planted (fun physical _ => stands physical) (some attachment)

/-- New mode data attach an entity just where it is attached. -/
theorem Consistent.setModeData {data : ModeData} {ground : Option Int}
    (same : ∀ wielder attachment, (world.entities wielder).isSome →
      (data = .planted (some wielder) (some attachment) ↔
        world.modeDataOf id = some (.planted (some wielder) (some attachment))))
    (stands : ∀ entity wielder attachment, world.entities id = some entity →
      data = .planted (some wielder) (some attachment) →
      entity.parent.bind world.domainOf = some .physical → entity.mode = .planted →
      ∀ below, ground = some below → below = wielder) :
    (world.applyModeData id data ground).Consistent := by
  apply consistent.modify_of_iff
  · intro entity
    rfl
  intro entity wielder attachment isEntity isWielder
  have sameHere := same wielder attachment isWielder
  unfold modeDataOf at sameHere
  rw [isEntity, map_some, Option.some.injEq] at sameHere
  rw [← sameHere]
  dsimp only
  constructor
  · intro isAttached
    rcases settled_cases (entity.parent.bind world.domainOf) entity.mode ground data with
      kept | notAttaching
    · rw [← kept, isAttached]
    · exact absurd ⟨wielder, attachment, isAttached⟩ notAttaching
  · rintro rfl
    exact settled_planted (stands entity wielder attachment isEntity rfl) (some attachment)

theorem Consistent.replant {below : Option Int}
    (stands : ∀ wielder attachment, (world.entities wielder).isSome →
      world.modeDataOf id = some (.planted (some wielder) (some attachment)) →
      domain = some .physical → below = some wielder) :
    (world.replant id domain below).Consistent := by
  apply consistent.modify_of_iff
  · intro entity
    rfl
  intro entity wielder attachment isEntity isWielder
  dsimp only
  split
  · rename_i physical
    constructor
    · intro isAttached
      rcases plantOnEntity_cases entity.modeData below with kept | notAttaching
      · rw [← kept, isAttached]
      · exact absurd ⟨wielder, attachment, isAttached⟩ notAttaching
    · intro isAttached
      have here : world.modeDataOf id = some (.planted (some wielder) (some attachment)) := by
        unfold modeDataOf
        rw [isEntity, map_some, isAttached]
      rw [stands wielder attachment isWielder here physical, isAttached]
      exact if_pos rfl
  · rfl

end

theorem Unattached.replant {other : Int} {below : Option Int}
    (unattached : world.Unattached other) : (world.replant id domain below).Unattached other := by
  apply unattached.modify
  intro entity _
  dsimp only
  split
  · exact plantOnEntity_cases entity.modeData below
  · exact .inl rfl

theorem Consistent.evict (consistent : world.Consistent) (domain : Option DomainKind)
    (parent : Option Int) (eviction : Eviction) (unattached : world.Unattached eviction.child)
    {children : List Int} (spared : ∀ child ∈ children, world.Unattached child) :
    (evict domain parent children world eviction).Consistent ∧
      ∀ other, world.Unattached other →
        (evict domain parent children world eviction).Unattached other := by
  have plain : ∀ entity : AttachEntity, world.entities eviction.child = some entity →
      settled domain entity.mode eviction.ground .null = entity.modeData ∨
        ¬(settled domain entity.mode eviction.ground .null).Attaching :=
    fun entity _ => .inr (plain_settled_null domain entity.mode eviction.ground)
  have reset : (world.modify eviction.child fun entity =>
      { entity with modeData := settled domain entity.mode eviction.ground .null }).Consistent :=
    consistent.modify unattached (fun _ => rfl) plain
  have remains : ∀ other, world.Unattached other → (world.modify eviction.child fun entity =>
      { entity with
        modeData := settled domain entity.mode eviction.ground .null }).Unattached other :=
    fun other otherUnattached => otherUnattached.modify plain
  unfold AttachWorld.evict
  cases parent with
  | none => exact ⟨reset, remains⟩
  | some place =>
    dsimp only
    split
    · -- what is planted again is unattached
      refine run_invariant_of_mem (fun current : AttachWorld => current.Consistent ∧
        ∀ other, world.Unattached other → current.Unattached other) _ ?_ ⟨?_, ?_⟩
      · intro current child isChild now
        cases eviction.replanted child with
        | none => exact now
        | some below =>
          refine ⟨now.1.replant domain ?_, fun other isOther => ?_⟩
          · intro wielder attachment isWielder isAttached _
            exact absurd isAttached
              (now.2 child (spared child isChild) wielder attachment isWielder)
          · exact (now.2 other isOther).replant domain
      · exact reset.changeContainer (carries_of_unattached (remains _ unattached))
      · intro other otherUnattached
        exact (remains other otherUnattached).changeContainer
    · exact ⟨consistent, fun _ otherUnattached => otherUnattached⟩

/-- Attached only to the destroyed one. -/
def Spared (world : AttachWorld) (destroyed id : Int) : Prop :=
  ∀ wielder attachment, (world.entities wielder).isSome → wielder ≠ destroyed →
    world.modeDataOf id ≠ some (.planted (some wielder) (some attachment))

theorem Consistent.remove (consistent : world.Consistent)
    (spared : world.Spared destroyed destroyed) :
    AttachWorld.Consistent { world with
      entities := fun other => if other = destroyed then none else world.entities other } := by
  intro wielder attachment other isWielder
  unfold attachedTo modeDataOf
  dsimp only at isWielder ⊢
  split at isWielder
  · cases isWielder
  · rename_i notDestroyed
    have before := consistent wielder attachment other isWielder
    rw [if_neg notDestroyed]
    split
    · rename_i isDestroyed
      refine iff_of_false ?_ (by simp)
      intro isAttached
      exact spared wielder attachment isWielder notDestroyed (isDestroyed ▸ before.mp isAttached)
    · exact before

theorem Spared.remove (spared : world.Spared destroyed id) :
    AttachWorld.Unattached { world with
      entities := fun other => if other = destroyed then none else world.entities other } id := by
  intro wielder attachment isWielder isAttached
  unfold modeDataOf at isAttached
  dsimp only at isWielder isAttached
  split at isWielder
  · cases isWielder
  · rename_i notDestroyed
    split at isAttached
    · cases isAttached
    · exact spared wielder attachment isWielder notDestroyed isAttached

theorem Consistent.destroy (consistent : world.Consistent)
    (spared : ∀ other, other = destroyed ∨ other ∈ world.childrenOf destroyed →
      world.Spared destroyed other) (ground : Int → Option Int) (arrival : Int → Arrival)
    (replanted : Int → Int → Option (Option Int)) :
    (world.destroy destroyed ground arrival replanted).Consistent := by
  have removed := consistent.remove (spared destroyed (.inl rfl))
  unfold AttachWorld.destroy
  -- the entities that are still to be moved out are unattached
  refine (run_invariant_of_mem (fun current : AttachWorld => current.Consistent ∧
    ∀ child ∈ world.childrenOf destroyed, current.Unattached child) _ ?_ ⟨removed, ?_⟩).1
  · intro current eviction isEviction now
    obtain ⟨child, isChild, rfl⟩ := List.mem_map.mp isEviction
    obtain ⟨consistentNow, unattached⟩ := now
    obtain ⟨consistentNext, remains⟩ :=
      consistentNow.evict (world.domainOf destroyed) (world.parentOf destroyed)
        ⟨child, ground child, arrival child, replanted child⟩ (unattached child isChild) unattached
    exact ⟨consistentNext, fun other isOther => remains other (unattached other isOther)⟩
  · intro child isChild
    exact (spared child (.inr isChild)).remove

/-- Steps that leave what is attached where it is, unless both records change. -/
def Tidy (world : AttachWorld) : AttachEvent → Prop
  | .wield wielder op => world.Attaches wielder op
  | .setMode id mode ground => ∀ entity wielder attachment, world.entities id = some entity →
      (world.entities wielder).isSome →
      entity.modeData = .planted (some wielder) (some attachment) → mode = .planted ∧
        (entity.parent.bind world.domainOf = some .physical →
          ∀ below, ground = some below → below = wielder)
  | .setModeData id data ground =>
    (∀ wielder attachment, (world.entities wielder).isSome →
      (data = .planted (some wielder) (some attachment) ↔
        world.modeDataOf id = some (.planted (some wielder) (some attachment)))) ∧
    ∀ entity wielder attachment, world.entities id = some entity →
      data = .planted (some wielder) (some attachment) →
      entity.parent.bind world.domainOf = some .physical → entity.mode = .planted →
      ∀ below, ground = some below → below = wielder
  | .move id place arrival => world.canMove id place → world.Carries id place arrival
  | .replant id below => ∀ wielder attachment, (world.entities wielder).isSome →
      world.modeDataOf id = some (.planted (some wielder) (some attachment)) →
      (world.parentOf id).bind world.domainOf = some .physical → below = some wielder
  | .destroy id _ _ _ =>
    ∀ other, other = id ∨ other ∈ world.childrenOf id → world.Spared id other

theorem Consistent.step {event : AttachEvent} (consistent : world.Consistent)
    (tidy : world.Tidy event) : (world.step event).Consistent := by
  cases event with
  | wield wielder op => exact consistent.operation tidy
  | setMode id mode ground => exact consistent.setMode tidy
  | setModeData id data ground => exact consistent.setModeData tidy.1 tidy.2
  | replant id below => exact consistent.replant _ tidy
  | move id place arrival =>
    unfold AttachWorld.step moveOurselves
    dsimp only
    split
    · rename_i moves
      exact consistent.changeContainer (tidy moves)
    · exact consistent
  | destroy id ground arrival replanted =>
    exact consistent.destroy tidy ground arrival replanted

end AttachWorld

end Cyphesis.Simulation
