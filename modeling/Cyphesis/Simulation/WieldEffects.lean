import Cyphesis.Simulation.AttachmentRecords

/-!
# What a Wield operation changes

The handler looks up the entity that the operation names among all entities.
-/

namespace Cyphesis.Simulation

open Cyphesis.Foundation
open Cyphesis.Server (integerId)

namespace AttachWorld

variable {world middle after : AttachWorld} {id wielder : Int}

/-- An entity is as before, up to its mode data. -/
def OnlyModeData (world after : AttachWorld) (id : Int) : Prop :=
  ∃ data : AttachEntity → ModeData, after.entities id =
    (world.entities id).map fun entity => { entity with modeData := data entity }

theorem OnlyModeData.of_eq (same : after.entities id = world.entities id) :
    OnlyModeData world after id := by
  refine ⟨AttachEntity.modeData, ?_⟩
  rw [same]
  cases world.entities id <;> rfl

theorem OnlyModeData.trans (first : OnlyModeData world middle id)
    (second : OnlyModeData middle after id) : OnlyModeData world after id := by
  rcases first with ⟨data, isMiddle⟩
  rcases second with ⟨next, isAfter⟩
  refine ⟨fun entity => next { entity with modeData := data entity }, ?_⟩
  rw [isAfter, isMiddle, Option.map_map]
  rfl

section

variable (world)

theorem entities_modify_of_ne {changed : Int}
    (change : AttachEntity → AttachEntity) (different : id ≠ changed) :
    (world.modify changed change).entities id = world.entities id := by
  rw [modify]
  exact if_neg different

theorem entities_setAttached_of_ne (attachment : String)
    (value : Option Int) (different : id ≠ wielder) :
    (world.setAttached wielder attachment value).entities id = world.entities id :=
  world.entities_modify_of_ne _ different

theorem entities_leaveAttachment_of_ne (data : ModeData)
    (different : id ≠ wielder) :
    (world.leaveAttachment wielder data).entities id = world.entities id := by
  cases data with
  | null => rfl
  | projectile => rfl
  | planted entityId attachment =>
    cases attachment with
    | none => rfl
    | some attachment => exact world.entities_setAttached_of_ne attachment none different

theorem onlyModeData_applyModeData (changed : Int) (data : ModeData)
    (ground : Option Int) : OnlyModeData world (world.applyModeData changed data ground) id := by
  by_cases same : id = changed
  · subst same
    refine ⟨fun entity => settled (entity.parent.bind world.domainOf) entity.mode ground data, ?_⟩
    rw [applyModeData, modify]
    exact if_pos rfl
  · exact .of_eq (world.entities_modify_of_ne _ same)

theorem entities_applyModeData_of_ne {changed : Int} (data : ModeData)
    (ground : Option Int) (different : id ≠ changed) :
    (world.applyModeData changed data ground).entities id = world.entities id :=
  world.entities_modify_of_ne _ different

theorem onlyModeData_resetExisting (old ground : Option Int) :
    OnlyModeData world (world.resetExisting old ground) id := by
  cases old with
  | none => exact .of_eq rfl
  | some changed => exact world.onlyModeData_applyModeData changed .null ground

theorem entities_resetExisting_of_ne {old : Option Int} (ground : Option Int)
    (different : old ≠ some id) :
    (world.resetExisting old ground).entities id = world.entities id := by
  cases old with
  | none => rfl
  | some changed =>
    apply world.entities_applyModeData_of_ne
    rintro rfl
    exact different rfl

end

/-- Is it there, suitable, and not planted elsewhere? -/
def Admits (world : AttachWorld) (wielder : Int) (op : Wield) (id : Int) : Prop :=
  id = integerId op.id ∧ op.isMatch = true ∧
    ∃ entity, world.entities id = some entity ∧ plantedElsewhere wielder entity.modeData = false

/-- A Wield operation changes records of the wielder and the mode data of what it names, and nothing
else. -/
theorem operation_changes (world : AttachWorld) (wielder : Int) (op : Wield) (id : Int) :
    (world.operation wielder op).entities id = world.entities id ∨ id = wielder ∨
      ((world.Admits wielder op id ∨ world.existing wielder op.attachment = some id) ∧
        OnlyModeData world (world.operation wielder op) id) := by
  by_cases self : id = wielder
  · exact .inr (.inl self)
  have detached := world.entities_setAttached_of_ne op.attachment none self
  rw [operation]
  cases world.entities wielder with
  | none => exact .inl rfl
  | some entity =>
    dsimp only
    split
    · exact .inl rfl
    split
    · exact .inl rfl
    split
    · -- Unwielding resets what the attachment refers to.
      by_cases isOld : world.existing wielder op.attachment = some id
      · refine .inr (.inr ⟨.inr isOld, ?_⟩)
        exact (OnlyModeData.of_eq detached).trans (onlyModeData_resetExisting _ _ _)
      · exact .inl ((entities_resetExisting_of_ne _ op.oldGround isOld).trans detached)
    cases isNew : world.entities (integerId op.id) with
    | none => exact .inl rfl
    | some new =>
      dsimp only
      split
      · exact .inl rfl
      rename_i admitted
      rw [not_or, Bool.not_eq_false, Bool.not_eq_true] at admitted
      have left := world.entities_leaveAttachment_of_ne new.modeData self
      have planted := (OnlyModeData.of_eq left).trans
        (onlyModeData_applyModeData _ (integerId op.id)
          (.planted (some wielder) (some op.attachment)) op.newGround)
      have attached := planted.trans (.of_eq (entities_setAttached_of_ne _ op.attachment
        (some (integerId op.id)) self))
      by_cases named : id = integerId op.id
      · subst named
        exact .inr (.inr ⟨.inl ⟨rfl, admitted.1, new, isNew, admitted.2⟩,
          attached.trans (onlyModeData_resetExisting _ _ _)⟩)
      by_cases isOld : world.existing wielder op.attachment = some id
      · exact .inr (.inr ⟨.inr isOld, attached.trans (onlyModeData_resetExisting _ _ _)⟩)
      · refine .inl ((entities_resetExisting_of_ne _ op.oldGround isOld).trans ?_)
        exact ((entities_setAttached_of_ne _ _ _ self).trans
          (entities_applyModeData_of_ne _ _ _ named)).trans left

/-- A knight and a squire, who carries a lance. -/
def tourney : AttachWorld where
  entities
    | 0 => some ⟨none, some .physical, .fixed, .null, [], fun _ => none⟩
    | 1 => some ⟨some 0, some .inventory, .free, .null, ["hand"], fun _ => none⟩
    | 2 => some ⟨some 0, some .inventory, .free, .null, ["hand"], fun _ => none⟩
    | 3 => some ⟨some 2, none, .free, .null, [], fun _ => none⟩
    | _ => none
  ids := [0, 1, 2, 3]

/-- The squire carries the knight's lance. -/
theorem tourney_operation :
    tourney.parentOf 3 = some 2 ∧
      (tourney.operation 1
        ⟨"hand", "3", true, none, none⟩).modeDataOf 3 ≠ tourney.modeDataOf 3 := by
  decide +kernel

end AttachWorld

end Cyphesis.Simulation
