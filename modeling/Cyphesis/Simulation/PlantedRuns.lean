import Cyphesis.Simulation.PlantedOn

/-!
# What is planted on what, along the runs of a physical domain

The two records are kept as long as nobody but the domain writes `mode_data`.
-/

namespace Cyphesis.Simulation

open Cyphesis.Foundation List Option

namespace PlantDomain

variable {domain : PlantDomain} {id below : Int}

theorem mode_plantOnEntity (domain : PlantDomain) (id : Int) (target : Option Int) :
    (domain.plantOnEntity id target).mode = domain.mode := by
  unfold plantOnEntity
  split
  · split
    · rfl
    · rw [mode_replant, mode_detach]
  · exact mode_replant domain id target
  · split
    · rfl
    · exact mode_replant domain id target

theorem Kept.applyTransform (kept : Kept domain) (hasPosition : Bool) (footing : Footing) :
    Kept (domain.applyTransform id hasPosition footing) := by
  unfold PlantDomain.applyTransform
  split
  · rename_i isEntry
    dsimp only
    have planted : Kept (domain.plantOnEntity id ((domain.plantedOn id).filter fun on =>
        decide (on ≠ id ∧ (on = domain.owner ∨ domain.isEntry on = true)))) := by
      apply kept.plantOnEntity isEntry
      intro below isTarget
      obtain ⟨isPlanted, accepted⟩ := Option.filter_eq_some_iff.mp isTarget
      rw [decide_eq_true_eq] at accepted
      exact ⟨accepted.2, fun isBelow => kept.bodied below id isBelow isEntry isPlanted,
        kept.planted id below isEntry isPlanted accepted.2⟩
    split
    · apply planted.calculatePosition
      rw [isEntry_plantOnEntity]
      exact isEntry
    · exact planted
  · exact kept

/-- A mode change that leaves nothing. -/
def Reposes (domain : PlantDomain) (id : Int) (mode : Mode) : Prop :=
  mode ≠ .planted → domain.Unplanted (domain.modeData id) ∧
    ∀ entry, domain.entries id = some entry → entry.mode ≠ mode →
      becomesFree entry.body mode = true → domain.attachedOf id = []

variable {mode : Mode}

section

variable (kept : Kept domain)
  (reposes : domain.isEntry id = true → mode ≠ .planted → domain.Unplanted (domain.modeData id))

include kept reposes

theorem Kept.setModeProperty :
    Kept { domain with mode := Function.update domain.mode id mode } := by
  refine ⟨kept.owner, kept.attached, ?_, kept.bodied⟩
  intro other below isOther isPlanted isMember
  dsimp only
  rw [Function.update_apply]
  split
  · rename_i same
    subst same
    by_contra notPlanted
    exact reposes isOther notPlanted below isMember isPlanted
  · exact kept.planted other below isOther isPlanted isMember

theorem Kept.modeApply (footing : Footing) : Kept (domain.modeApply id mode footing) := by
  have set := kept.setModeProperty reposes
  have null : domain.Unplanted .null := by
    intro below _ isPlanted
    cases isPlanted
  unfold PlantDomain.modeApply
  dsimp only
  split
  · rename_i other
    apply set.setModeData
    · intro isEntry below isMember
      cases isData : domain.modeData id with
      | null => exact null below isMember
      | projectile => exact null below isMember
      | planted entityId attachment =>
        rw [isData] at other
        have repose := reposes isEntry (Ne.symm other.1) below isMember
        rw [isData] at repose
        exact repose
    · exact fun _ => null
  · exact set

end

section

variable (domain) (id)

theorem isEntry_setModeData (data : ModeData)
    (footing : Footing) : (domain.setModeData id data footing).isEntry = domain.isEntry := by
  unfold setModeData
  dsimp only
  split
  · exact isEntry_calculatePosition _ id footing
  · rfl

theorem isEntry_modeApply (mode : Mode) (footing : Footing) :
    (domain.modeApply id mode footing).isEntry = domain.isEntry := by
  unfold modeApply
  dsimp only
  split
  · exact isEntry_setModeData _ id .null footing
  · rfl

theorem attachedOf_modifyEntry
    {change : BulletEntry → BulletEntry}
    (attached : ∀ entry, (change entry).attachedEntities = entry.attachedEntities) :
    (domain.modifyEntry id change).attachedOf = domain.attachedOf := by
  funext place
  have same : ((domain.modifyEntry id change).entries place).elim [] BulletEntry.attachedEntities =
      (domain.entries place).elim [] BulletEntry.attachedEntities := by
    rw [entries_modifyEntry]
    split
    · rename_i isId
      rw [isId]
      cases domain.entries id with
      | none => rfl
      | some entry => exact attached entry
    · rfl
  unfold attachedOf
  rw [same]
  rfl

end

theorem Kept.of_same {after : PlantDomain} (kept : Kept domain)
    (owner : after.owner = domain.owner) (entries : after.isEntry = domain.isEntry)
    (bodies : after.hasBody = domain.hasBody) (attached : after.attachedOf = domain.attachedOf)
    (mode : after.mode = domain.mode) (plantedOn : after.plantedOn = domain.plantedOn) :
    Kept after := by
  constructor
  · rw [owner, entries]
    exact kept.owner
  · unfold Member
    rw [owner, entries, attached, plantedOn]
    exact kept.attached
  · unfold Member
    rw [owner, entries, mode, plantedOn]
    exact kept.planted
  · rw [entries, bodies, plantedOn]
    exact kept.bodied

theorem Kept.setEntryMode (kept : Kept domain) (id : Int) (mode : Mode) :
    Kept (domain.modifyEntry id fun entry => { entry with mode := mode }) := by
  apply kept.of_same
  · rfl
  · exact isEntry_modifyEntry domain id _
  · apply hasBody_modifyEntry
    intro entry
    rfl
  · apply attachedOf_modifyEntry
    intro entry
    rfl
  · rfl
  · rfl

theorem modeData_modeApply (notPlanted : mode ≠ .planted) (footing : Footing)
    (entityId : Option Int) (attachment : Option String) :
    (domain.modeApply id mode footing).modeData id ≠ .planted entityId attachment := by
  unfold modeApply
  dsimp only
  split
  · unfold setModeData
    dsimp only
    have isNull : ({ domain with mode := Function.update domain.mode id mode }.setData id
        .null).modeData id = .null := Function.update_self id _ _
    split
    · unfold calculatePosition
      rw [if_neg]
      · rw [isNull]
        exact fun isPlanted => by cases isPlanted
      · have isMode : ({ domain with mode := Function.update domain.mode id mode }.setData id
            .null).mode id = mode := Function.update_self id _ _
        rw [isMode]
        exact notPlanted
    · rw [isNull]
      exact fun isPlanted => by cases isPlanted
  · rename_i sameMode
    intro isPlanted
    apply sameMode
    have isData : domain.modeData id = .planted entityId attachment := isPlanted
    rw [isData]
    exact ⟨Ne.symm notPlanted, show Mode.planted ≠ Mode.unknown by decide⟩

theorem mode_modeApply (mode : Mode) (footing : Footing) :
    (domain.modeApply id mode footing).mode = Function.update domain.mode id mode := by
  unfold modeApply
  dsimp only
  split
  · unfold setModeData
    dsimp only
    split
    · unfold calculatePosition
      split
      · rw [mode_plantOnEntity]
        rfl
      · rfl
    · rfl
  · rfl

theorem attachedOf_modeApply (notPlanted : mode ≠ .planted) (footing : Footing) :
    (domain.modeApply id mode footing).attachedOf = domain.attachedOf := by
  have isMode : ({ domain with mode := Function.update domain.mode id mode }.setData id
      .null).mode id = mode := Function.update_self id _ _
  unfold modeApply
  dsimp only
  split
  · unfold setModeData
    dsimp only
    split
    · unfold calculatePosition
      rw [if_neg (by rw [isMode]; exact notPlanted)]
      rfl
    · rfl
  · rfl

theorem plantOnEntity_none_of_not_planted
    (notPlanted : ∀ entityId attachment, domain.modeData id ≠ .planted entityId attachment) :
    domain.plantOnEntity id none = domain := by
  unfold plantOnEntity
  split
  · rename_i on attachment isData
    exact absurd isData (notPlanted (some on) attachment)
  · rename_i attachment isData
    exact absurd isData (notPlanted none attachment)
  · rfl

theorem Kept.setMode (kept : Kept domain)
    (reposes : domain.isEntry id = true → domain.Reposes id mode)
    (footing : Int → Footing × Footing) (depth : Nat) :
    Kept (setMode footing mode (depth + 1) domain id) := by
  have applied := kept.modeApply (fun isEntry other => (reposes isEntry other).1) (footing id).1
  unfold PlantDomain.setMode
  dsimp only
  split
  · exact applied
  · rename_i entry isEntry
    have wasEntry : domain.isEntry id = true := by
      unfold PlantDomain.isEntry
      rw [isEntry]
      rfl
    split
    · exact applied
    · rename_i changes
      rw [not_or] at changes
      have placed : Kept ((domain.modeApply id mode (footing id).1).calculatePosition id
          (footing id).2) := by
        apply applied.calculatePosition
        rw [isEntry_modeApply]
        exact wasEntry
      apply Kept.setEntryMode
      split
      · rename_i free
        have notPlanted : mode ≠ .planted := by
          unfold becomesFree at free
          rw [decide_eq_true_eq] at free
          exact free.2.1
        have alone := (reposes wasEntry notPlanted).2 entry isEntry (Ne.symm changes.2) free
        have stays : (domain.modeApply id mode (footing id).1).calculatePosition id
            (footing id).2 = domain.modeApply id mode (footing id).1 := by
          unfold PlantDomain.calculatePosition
          rw [if_neg]
          rw [mode_modeApply, Function.update_self]
          exact notPlanted
        rw [stays, plantOnEntity_none_of_not_planted (modeData_modeApply notPlanted _),
          attachedOf_modeApply notPlanted, alone]
        exact applied
      · exact placed

variable (contacts : Int → List Int)

/-- The steps after which both records agree. -/
def Orderly (domain : PlantDomain) : PlantEvent → Prop
  | .add id _ _ => id ≠ domain.owner → domain.isEntry id = false → domain.Arrives id
  | .setMode id mode _ => domain.isEntry id = true → domain.Reposes id mode
  | .setModeData id data _ =>
    domain.isEntry id = true → domain.Unplanted (domain.modeData id) ∧ domain.Unplanted data
  | _ => True

theorem Kept.step {event : PlantEvent} (kept : Kept domain) (orderly : domain.Orderly event) :
    Kept (domain.step event) := by
  cases event with
  | add id body footing => exact kept.addEntity orderly footing
  | remove id footing => exact kept.removeEntity footing
  | transform id hasPosition footing => exact kept.applyTransform hasPosition footing
  | setMode id mode footing => exact kept.setMode orderly footing _
  | setModeData id data footing =>
    exact kept.setModeData (fun isEntry => (orderly isEntry).1)
      (fun isEntry => (orderly isEntry).2) footing

theorem Kept.start (owner : Int) (mode : Int → Mode) (modeData : Int → ModeData) :
    Kept (start owner mode modeData) := by
  constructor
  · rfl
  · intro below _ id
    refine iff_of_false ?_ ?_
    · unfold attachedOf
      split
      · exact not_mem_nil
      · exact not_mem_nil
    · rintro ⟨isEntry, -⟩
      cases isEntry
  · intro id below isEntry
    cases isEntry
  · intro below id isEntry
    cases isEntry

/-- Add an entity, below which another is found. -/
def arrives (id : Int) (sweep : Option Int) : PlantEvent :=
  .add id (.rigid false) ⟨true, sweep⟩

end PlantDomain

end Cyphesis.Simulation
