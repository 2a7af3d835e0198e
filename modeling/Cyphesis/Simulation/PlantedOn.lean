import Cyphesis.Simulation.PlantedEntities

/-!
# The two records of what is planted on what

`plantOnEntity` compares only with `mode_data`.
-/

namespace Cyphesis.Simulation

open Cyphesis.Foundation Option

namespace PlantDomain

variable {domain : PlantDomain} {id below : Int}

section Frame

variable (domain : PlantDomain) (id : Int)

variable (change : BulletEntry → BulletEntry)

theorem entries_modifyEntry (other : Int) :
    (domain.modifyEntry id change).entries other =
      if other = id then (domain.entries id).map change else domain.entries other :=
  Function.update_apply domain.entries id _ other

theorem isEntry_modifyEntry : (domain.modifyEntry id change).isEntry = domain.isEntry := by
  funext other
  unfold isEntry
  rw [entries_modifyEntry]
  split
  · rename_i same
    rw [same, isSome_map]
  · rfl

theorem hasBody_modifyEntry {change : BulletEntry → BulletEntry}
    (body : ∀ entry, (change entry).body = entry.body) :
    (domain.modifyEntry id change).hasBody = domain.hasBody := by
  funext other
  unfold hasBody
  rw [entries_modifyEntry]
  split
  · rename_i same
    rw [same]
    cases domain.entries id with
    | none => rfl
    | some entry =>
      rw [map_some, any_some, any_some, body]
  · rfl

theorem isEntry_attach (below : Int) : (domain.attach below id).isEntry = domain.isEntry := by
  unfold attach
  split
  · rfl
  · exact isEntry_modifyEntry domain below _

theorem hasBody_attach (below : Int) : (domain.attach below id).hasBody = domain.hasBody := by
  unfold attach
  split
  · rfl
  · exact hasBody_modifyEntry domain below fun _ => rfl

theorem owner_attach (below : Int) : (domain.attach below id).owner = domain.owner := by
  unfold attach
  split
  · rfl
  · rfl

theorem modeData_attach (below : Int) : (domain.attach below id).modeData = domain.modeData := by
  unfold attach
  split
  · rfl
  · rfl

theorem mode_attach (below : Int) : (domain.attach below id).mode = domain.mode := by
  unfold attach
  split
  · rfl
  · rfl

theorem isEntry_detach (below : Int) : (domain.detach below id).isEntry = domain.isEntry := by
  unfold detach
  split
  · rfl
  · exact isEntry_modifyEntry domain below _

theorem hasBody_detach (below : Int) : (domain.detach below id).hasBody = domain.hasBody := by
  unfold detach
  split
  · rfl
  · exact hasBody_modifyEntry domain below fun _ => rfl

theorem owner_detach (below : Int) : (domain.detach below id).owner = domain.owner := by
  unfold detach
  split
  · rfl
  · rfl

theorem modeData_detach (below : Int) : (domain.detach below id).modeData = domain.modeData := by
  unfold detach
  split
  · rfl
  · rfl

theorem mode_detach (below : Int) : (domain.detach below id).mode = domain.mode := by
  unfold detach
  split
  · rfl
  · rfl

theorem plantedOn_setData_self (data : ModeData) :
    (domain.setData id data).plantedOn id = data.plantedOn := by
  unfold plantedOn setData
  dsimp only
  rw [Function.update_self]

theorem plantedOn_setData_of_ne (data : ModeData) {other : Int} (different : other ≠ id) :
    (domain.setData id data).plantedOn other = domain.plantedOn other := by
  unfold plantedOn setData
  dsimp only
  rw [Function.update_of_ne different]

end Frame

theorem mem_attachedOf_detach (other place : Int) :
    other ∈ (domain.detach below id).attachedOf place ↔
      other ∈ domain.attachedOf place ∧ ¬(place = below ∧ other = id) := by
  unfold attachedOf
  rw [owner_detach]
  unfold detach
  by_cases isGround : below = domain.owner
  · rw [if_pos isGround]
    by_cases isOwner : place = domain.owner
    · simp [isOwner, isGround]
    · simp [isOwner, isGround]
  · rw [if_neg isGround]
    by_cases isOwner : place = domain.owner
    · have different : domain.owner ≠ below := Ne.symm isGround
      simp [isOwner, modifyEntry, different]
    · rw [if_neg isOwner, if_neg isOwner, entries_modifyEntry]
      by_cases isBelow : place = below
      · rw [if_pos isBelow, isBelow]
        cases domain.entries below with
        | none => simp
        | some entry => simp
      · rw [if_neg isBelow]
        simp [isBelow]

theorem mem_attachedOf_attach (member : domain.Member below) (other place : Int) :
    other ∈ (domain.attach below id).attachedOf place ↔
      other ∈ domain.attachedOf place ∨ place = below ∧ other = id := by
  unfold attachedOf
  rw [owner_attach]
  unfold attach
  by_cases isGround : below = domain.owner
  · rw [if_pos isGround]
    by_cases isOwner : place = domain.owner
    · simp [isOwner, isGround, or_comm]
    · simp [isOwner, isGround]
  · have isEntry := member.resolve_left isGround
    obtain ⟨entry, isBelow⟩ := Option.isSome_iff_exists.mp isEntry
    rw [if_neg isGround]
    by_cases isOwner : place = domain.owner
    · have different : domain.owner ≠ below := Ne.symm isGround
      simp [isOwner, modifyEntry, different]
    · rw [if_neg isOwner, if_neg isOwner, entries_modifyEntry]
      by_cases isPlace : place = below
      · rw [if_pos isPlace, isPlace, isBelow]
        simp [or_comm]
      · rw [if_neg isPlace]
        simp [isPlace]

section Replant

variable (domain : PlantDomain) (id : Int) (target : Option Int)

theorem owner_replant : (domain.replant id target).owner = domain.owner := by
  cases target with
  | none => rfl
  | some below => exact owner_attach domain id below

theorem isEntry_replant : (domain.replant id target).isEntry = domain.isEntry := by
  cases target with
  | none => rfl
  | some below => exact isEntry_attach domain id below

theorem hasBody_replant : (domain.replant id target).hasBody = domain.hasBody := by
  cases target with
  | none => rfl
  | some below => exact hasBody_attach domain id below

theorem mode_replant : (domain.replant id target).mode = domain.mode := by
  cases target with
  | none => rfl
  | some below => exact mode_attach domain id below

theorem plantedOn_replant_self : (domain.replant id target).plantedOn id = target := by
  cases target with
  | none => exact plantedOn_setData_self domain id .null
  | some below => exact plantedOn_setData_self (domain.attach below id) id _

theorem plantedOn_replant_of_ne {other : Int} (different : other ≠ id) :
    (domain.replant id target).plantedOn other = domain.plantedOn other := by
  cases target with
  | none => exact plantedOn_setData_of_ne domain id _ different
  | some below =>
    unfold replant
    dsimp only
    rw [plantedOn_setData_of_ne _ _ _ different, plantedOn, modeData_attach]
    rfl

end Replant

theorem mem_attachedOf_replant {target : Option Int}
    (member : ∀ below, target = some below → domain.Member below) (other place : Int) :
    other ∈ (domain.replant id target).attachedOf place ↔
      other ∈ domain.attachedOf place ∨ target = some place ∧ other = id := by
  cases target with
  | none =>
    constructor
    · exact .inl
    · rintro (isAttached | ⟨isNone, -⟩)
      · exact isAttached
      · cases isNone
  | some below =>
    rw [Option.some.injEq, eq_comm (a := below)]
    exact mem_attachedOf_attach (member below rfl) other place

structure Kept (domain : PlantDomain) : Prop where
  owner : domain.isEntry domain.owner = false
  attached : ∀ below, domain.Member below → ∀ id, id ∈ domain.attachedOf below ↔
    domain.isEntry id = true ∧ domain.plantedOn id = some below
  planted : ∀ id below, domain.isEntry id = true → domain.plantedOn id = some below →
    domain.Member below → domain.mode id = .planted
  bodied : ∀ below id, domain.isEntry below = true → domain.isEntry id = true →
    domain.plantedOn id = some below → domain.hasBody below = true

/-- What an entity may be planted on. -/
def Supports (domain : PlantDomain) (id below : Int) : Prop :=
  domain.Member below ∧ (domain.isEntry below = true → domain.hasBody below = true) ∧
    domain.mode id = .planted

section

variable (kept : Kept domain) (isEntry : domain.isEntry id = true)

include kept isEntry

theorem Kept.replanted {after : PlantDomain} (owner : after.owner = domain.owner)
    (entries : after.isEntry = domain.isEntry) (bodies : after.hasBody = domain.hasBody)
    (mode : after.mode = domain.mode)
    (supports : ∀ below, after.plantedOn id = some below → domain.Member below →
      domain.Supports id below)
    (others : ∀ other, other ≠ id → after.plantedOn other = domain.plantedOn other)
    (attached : ∀ other place, domain.Member place → (other ∈ after.attachedOf place ↔
      if other = id then after.plantedOn id = some place
      else other ∈ domain.attachedOf place)) : Kept after := by
  have member : ∀ place, after.Member place ↔ domain.Member place := by
    intro place
    unfold Member
    rw [owner, entries]
  constructor
  · rw [owner, entries]
    exact kept.owner
  · intro place isMember other
    rw [member] at isMember
    rw [attached other place isMember, entries]
    split
    · rename_i same
      rw [same, isEntry]
      exact (and_iff_right rfl).symm
    · rename_i different
      rw [others other different]
      exact kept.attached place isMember other
  · intro other place isOther isPlanted isMember
    rw [entries] at isOther
    rw [member] at isMember
    rw [mode]
    by_cases same : other = id
    · subst same
      exact (supports place isPlanted isMember).2.2
    · rw [others other same] at isPlanted
      exact kept.planted other place isOther isPlanted isMember
  · intro place other isPlace isOther isPlanted
    rw [entries] at isPlace isOther
    rw [bodies]
    by_cases same : other = id
    · subst same
      exact (supports place isPlanted (.inr isPlace)).2.1 isPlace
    · rw [others other same] at isPlanted
      exact kept.bodied place other isPlace isOther isPlanted

variable {target : Option Int}

theorem Kept.replant {middle : PlantDomain}
    (owner : middle.owner = domain.owner) (entries : middle.isEntry = domain.isEntry)
    (bodies : middle.hasBody = domain.hasBody) (mode : middle.mode = domain.mode)
    (supports : ∀ below, target = some below → domain.Supports id below)
    (others : ∀ other, middle.plantedOn other = domain.plantedOn other)
    (attached : ∀ other place, domain.Member place → (other ∈ middle.attachedOf place ↔
      other ∈ domain.attachedOf place ∧ other ≠ id)) : Kept (middle.replant id target) := by
  have member : ∀ below, target = some below → middle.Member below := by
    intro below isTarget
    unfold Member
    rw [owner, entries]
    exact (supports below isTarget).1
  apply kept.replanted isEntry
  · rw [owner_replant, owner]
  · rw [isEntry_replant, entries]
  · rw [hasBody_replant, bodies]
  · rw [mode_replant, mode]
  · intro below isPlanted _
    rw [plantedOn_replant_self] at isPlanted
    exact supports below isPlanted
  · intro other different
    rw [plantedOn_replant_of_ne _ _ _ different, others]
  · intro other place isMember
    rw [mem_attachedOf_replant member, attached other place isMember, plantedOn_replant_self]
    split
    · rename_i same
      simp [same]
    · rename_i different
      simp [different]

theorem Kept.plantOnEntity
    (supports : ∀ below, target = some below → domain.Supports id below) :
    Kept (domain.plantOnEntity id target) := by
  have unplanted : domain.plantedOn id = none → Kept (domain.replant id target) := by
    intro isNone
    apply kept.replant isEntry rfl rfl rfl rfl supports (fun _ => rfl)
    intro other place isMember
    refine (and_iff_left_of_imp ?_).symm
    rintro isAttached rfl
    rw [kept.attached place isMember, isNone] at isAttached
    cases isAttached.2
  unfold PlantDomain.plantOnEntity
  split
  · rename_i on attachment isData
    have isPlanted : domain.plantedOn id = some on := by
      unfold plantedOn
      rw [isData]
      rfl
    split
    · exact kept
    · apply kept.replant isEntry
      · exact owner_detach domain id on
      · exact isEntry_detach domain id on
      · exact hasBody_detach domain id on
      · exact mode_detach domain id on
      · exact supports
      · intro other
        unfold plantedOn
        rw [modeData_detach]
      · intro other place isMember
        rw [mem_attachedOf_detach]
        apply and_congr_right
        intro isAttached
        rw [not_and]
        constructor
        · rintro apart rfl
          rw [kept.attached place isMember, isPlanted] at isAttached
          exact apart (Option.some.inj isAttached.2).symm rfl
        · intro different _
          exact different
  · rename_i isData
    apply unplanted
    unfold plantedOn
    rw [isData]
    rfl
  · rename_i notPlanted _
    split
    · exact kept
    · apply unplanted
      unfold plantedOn
      cases isData : domain.modeData id with
      | null => rfl
      | projectile => rfl
      | planted entityId attachment =>
        cases entityId with
        | none => rfl
        | some on => exact absurd isData (notPlanted on attachment)

end

theorem isEntry_of_hasBody (hasBody : domain.hasBody below = true) :
    domain.isEntry below = true := by
  unfold PlantDomain.hasBody at hasBody
  unfold isEntry
  cases isEntry : domain.entries below with
  | none =>
    rw [isEntry] at hasBody
    cases hasBody
  | some entry => rfl

theorem supports_owner (kept : Kept domain) (mode : domain.mode id = .planted) :
    domain.Supports id domain.owner := by
  refine ⟨.inl rfl, ?_, mode⟩
  rw [kept.owner]
  intro isTrue
  cases isTrue

theorem supports_of_hasBody (hasBody : domain.hasBody below = true)
    (mode : domain.mode id = .planted) : domain.Supports id below :=
  ⟨.inr (isEntry_of_hasBody hasBody), fun _ => hasBody, mode⟩

section

variable (kept : Kept domain) (mode : domain.mode id = .planted) (footing : Footing)

include kept mode

theorem supports_foundBelow : domain.Supports id (domain.foundBelow id footing) := by
  unfold foundBelow
  cases isFound : footing.sweep.filter fun below => below ≠ id ∧ domain.hasBody below with
  | none => exact supports_owner kept mode
  | some below =>
    have accepted := (Option.filter_eq_some_iff.mp isFound).2
    rw [decide_eq_true_eq] at accepted
    exact supports_of_hasBody accepted.2 mode

theorem supports_standsOn : domain.Supports id (domain.standsOn id footing) := by
  have found := supports_foundBelow kept mode footing
  have ground := supports_owner kept mode
  unfold standsOn
  split
  · split
    · exact found
    · split
      · exact found
      · split
        · exact ground
        · split
          · rename_i touches
            exact supports_of_hasBody touches.1 mode
          · exact found
  · exact ground

end

theorem Kept.calculatePosition (kept : Kept domain) (isEntry : domain.isEntry id = true)
    (footing : Footing) : Kept (domain.calculatePosition id footing) := by
  unfold PlantDomain.calculatePosition
  split
  · rename_i mode
    apply kept.plantOnEntity isEntry
    intro below isTarget
    cases isTarget
    exact supports_standsOn kept mode footing
  · exact kept

/-- Not planted on a member of the domain. -/
def Unplanted (domain : PlantDomain) (data : ModeData) : Prop :=
  ∀ below, domain.Member below → data.plantedOn ≠ some below

section

variable {data : ModeData} (kept : Kept domain)
  (before : domain.isEntry id = true → domain.Unplanted (domain.modeData id))
  (unplanted : domain.isEntry id = true → domain.Unplanted data)

include kept before unplanted

theorem Kept.setData : Kept (domain.setData id data) := by
  cases isEntry : domain.isEntry id with
  | true =>
    apply kept.replanted isEntry
    · rfl
    · rfl
    · rfl
    · rfl
    · intro below isPlanted isMember
      rw [plantedOn_setData_self] at isPlanted
      exact absurd isPlanted (unplanted isEntry below isMember)
    · intro other different
      exact plantedOn_setData_of_ne domain id data different
    · intro other place isMember
      rw [plantedOn_setData_self]
      have same : other ∈ (domain.setData id data).attachedOf place ↔
          other ∈ domain.attachedOf place := Iff.rfl
      rw [same]
      split
      · rename_i isId
        rw [isId, kept.attached place isMember]
        exact iff_of_false (fun isPlanted => before isEntry place isMember isPlanted.2)
          (unplanted isEntry place isMember)
      · exact Iff.rfl
  | false =>
    have others : ∀ other, domain.isEntry other = true → other ≠ id := by
      rintro other isOther rfl
      rw [isEntry] at isOther
      cases isOther
    constructor
    · exact kept.owner
    · intro place isMember other
      apply (kept.attached place isMember other).trans
      apply and_congr_right
      intro isOther
      rw [plantedOn_setData_of_ne _ _ _ (others other isOther)]
    · intro other place isOther isPlanted isMember
      rw [plantedOn_setData_of_ne _ _ _ (others other isOther)] at isPlanted
      exact kept.planted other place isOther isPlanted isMember
    · intro place other isPlace isOther isPlanted
      rw [plantedOn_setData_of_ne _ _ _ (others other isOther)] at isPlanted
      exact kept.bodied place other isPlace isOther isPlanted

theorem Kept.setModeData (footing : Footing) : Kept (domain.setModeData id data footing) := by
  have set := kept.setData before unplanted
  unfold PlantDomain.setModeData
  dsimp only
  split
  · rename_i isEntry
    exact set.calculatePosition isEntry footing
  · exact set

end

/-- The entity that arrives stands on nothing in the domain. -/
def Arrives (domain : PlantDomain) (id : Int) : Prop :=
  domain.Unplanted (domain.modeData id) ∧ domain.plantedOn id ≠ some id ∧
    ∀ other, domain.isEntry other = true → domain.plantedOn other ≠ some id

variable {after : PlantDomain}

theorem Kept.enter (kept : Kept domain) (notOwner : id ≠ domain.owner)
    (absent : domain.isEntry id = false) (arrives : domain.Arrives id)
    (owner : after.owner = domain.owner) (mode : after.mode = domain.mode)
    (plantedOn : after.plantedOn = domain.plantedOn)
    (isEntry : ∀ other, other ≠ id → after.isEntry other = domain.isEntry other)
    (hasBody : ∀ other, other ≠ id → after.hasBody other = domain.hasBody other)
    (attachedOf : after.attachedOf = domain.attachedOf) : Kept after := by
  obtain ⟨unplanted, notSelf, unnamed⟩ := arrives
  have notAttached : ∀ other, other ∉ domain.attachedOf id := by
    intro other isAttached
    unfold PlantDomain.attachedOf at isAttached
    unfold PlantDomain.isEntry at absent
    rw [if_neg notOwner] at isAttached
    cases isNone : domain.entries id with
    | none =>
      rw [isNone] at isAttached
      cases isAttached
    | some entry =>
      rw [isNone] at absent
      cases absent
  have member : ∀ place, place ≠ id → after.Member place → domain.Member place := by
    intro place different isMember
    unfold Member at isMember ⊢
    rw [owner, isEntry place different] at isMember
    exact isMember
  -- nothing that is in the domain now is said to stand on the new entity, and it stands on nothing
  have unnamedNow : ∀ other, after.isEntry other = true → domain.plantedOn other ≠ some id := by
    intro other isOther
    by_cases same : other = id
    · rw [same]
      exact notSelf
    · rw [isEntry other same] at isOther
      exact unnamed other isOther
  have unplantedNow : ∀ place, after.Member place → domain.plantedOn id ≠ some place := by
    intro place isMember
    by_cases same : place = id
    · rw [same]
      exact notSelf
    · exact unplanted place (member place same isMember)
  constructor
  · rw [owner, isEntry _ notOwner.symm]
    exact kept.owner
  · intro place isMember other
    rw [attachedOf, plantedOn]
    by_cases isNew : place = id
    · subst isNew
      exact iff_of_false (notAttached other) fun isPlanted =>
        unnamedNow other isPlanted.1 isPlanted.2
    · rw [kept.attached place (member place isNew isMember)]
      by_cases same : other = id
      · subst same
        exact iff_of_false (fun isPlanted => unplantedNow place isMember isPlanted.2)
          fun isPlanted => unplantedNow place isMember isPlanted.2
      · rw [isEntry other same]
  · intro other place isOther isPlanted isMember
    rw [plantedOn] at isPlanted
    rw [mode]
    have notNew : other ≠ id := by
      rintro rfl
      exact unplantedNow place isMember isPlanted
    have notBelow : place ≠ id := by
      rintro rfl
      exact unnamedNow other isOther isPlanted
    rw [isEntry other notNew] at isOther
    exact kept.planted other place isOther isPlanted (member place notBelow isMember)
  · intro place other isPlace isOther isPlanted
    rw [plantedOn] at isPlanted
    have notNew : other ≠ id := by
      rintro rfl
      exact unplantedNow place (.inr isPlace) isPlanted
    have notBelow : place ≠ id := by
      rintro rfl
      exact unnamedNow other isOther isPlanted
    rw [isEntry other notNew] at isOther
    rw [isEntry place notBelow] at isPlace
    rw [hasBody place notBelow]
    exact kept.bodied place other isPlace isOther isPlanted

theorem Kept.addEntity {body : Body} (kept : Kept domain)
    (arrives : id ≠ domain.owner → domain.isEntry id = false → domain.Arrives id)
    (footing : Footing) : Kept (domain.addEntity id body footing) := by
  unfold PlantDomain.addEntity
  split
  · exact kept
  · rename_i isNew
    rw [not_or, Bool.not_eq_true] at isNew
    obtain ⟨notOwner, absent⟩ := isNew
    have isNone : domain.entries id = none := by
      unfold isEntry at absent
      exact Option.not_isSome_iff_eq_none.mp (by simp [absent])
    dsimp only
    have entered : Kept { domain with
        ids := id :: domain.ids
        entries := Function.update domain.entries id (some ⟨body, domain.mode id, []⟩) } := by
      apply kept.enter notOwner absent (arrives notOwner absent)
      · rfl
      · rfl
      · rfl
      · intro other different
        unfold isEntry
        dsimp only
        rw [Function.update_of_ne different]
      · intro other different
        unfold hasBody
        dsimp only
        rw [Function.update_of_ne different]
      · funext place
        unfold attachedOf
        dsimp only
        rw [Function.update_apply]
        split
        · rfl
        · split
          · rename_i same
            rw [same, isNone]
            rfl
          · rfl
    split
    · exact entered
    · apply entered.calculatePosition
      unfold isEntry
      dsimp only
      rw [Function.update_self]
      rfl

theorem Kept.leave (kept : Kept domain) (isEntry : domain.isEntry id = true)
    (owner : after.owner = domain.owner) (mode : after.mode = domain.mode)
    (plantedOn : after.plantedOn = domain.plantedOn)
    (entries : ∀ other, after.isEntry other = (domain.isEntry other && decide (other ≠ id)))
    (hasBody : ∀ other, other ≠ id → after.hasBody other = domain.hasBody other)
    (attached : ∀ other place, domain.Member place → place ≠ id →
      (other ∈ after.attachedOf place ↔ other ∈ domain.attachedOf place ∧ other ≠ id)) :
    Kept after := by
  have isEntryNow : ∀ other, after.isEntry other = true ↔
      domain.isEntry other = true ∧ other ≠ id := by
    intro other
    rw [entries, Bool.and_eq_true, decide_eq_true_eq]
  have member : ∀ place, after.Member place → domain.Member place ∧ place ≠ id := by
    rintro place (isOwner | isPlace)
    · rw [owner] at isOwner
      refine ⟨.inl isOwner, ?_⟩
      rintro rfl
      rw [isOwner, kept.owner] at isEntry
      cases isEntry
    · rw [isEntryNow] at isPlace
      exact ⟨.inr isPlace.1, isPlace.2⟩
  constructor
  · rw [owner, entries, kept.owner]
    rfl
  · intro place isMember other
    obtain ⟨wasMember, notGone⟩ := member place isMember
    rw [attached other place wasMember notGone, kept.attached place wasMember, isEntryNow,
      plantedOn]
    exact and_right_comm
  · intro other place isOther isPlanted isMember
    rw [plantedOn] at isPlanted
    rw [mode]
    exact kept.planted other place ((isEntryNow other).mp isOther).1 isPlanted
      (member place isMember).1
  · intro place other isPlace isOther isPlanted
    rw [plantedOn] at isPlanted
    rw [isEntryNow] at isPlace isOther
    rw [hasBody place isPlace.2]
    exact kept.bodied place other isPlace.1 isOther.1 isPlanted

theorem isEntry_plantOnEntity (domain : PlantDomain) (id : Int) (target : Option Int) :
    (domain.plantOnEntity id target).isEntry = domain.isEntry := by
  unfold plantOnEntity
  split
  · split
    · rfl
    · rw [isEntry_replant, isEntry_detach]
  · exact isEntry_replant domain id target
  · split
    · rfl
    · exact isEntry_replant domain id target

theorem isEntry_calculatePosition (domain : PlantDomain) (id : Int) (footing : Footing) :
    (domain.calculatePosition id footing).isEntry = domain.isEntry := by
  unfold calculatePosition
  split
  · exact isEntry_plantOnEntity domain id _
  · rfl

theorem Kept.placeAll (kept : Kept domain) {ids : List Int}
    (isEntry : ∀ id ∈ ids, domain.isEntry id = true) (footing : Int → Footing) :
    Kept (ids.foldl (fun current id => current.calculatePosition id (footing id)) domain) := by
  refine (run_invariant_of_mem (fun current : PlantDomain =>
    Kept current ∧ current.isEntry = domain.isEntry) ids ?_ ⟨kept, rfl⟩).1
  intro current id isListed now
  obtain ⟨keptNow, same⟩ := now
  constructor
  · apply keptNow.calculatePosition
    rw [same]
    exact isEntry id isListed
  · rw [isEntry_calculatePosition, same]

theorem Kept.detached (kept : Kept domain) (other place : Int) (isMember : domain.Member place) :
    other ∈ ((domain.plantedOn id).elim domain fun on => domain.detach on id).attachedOf place ↔
      other ∈ domain.attachedOf place ∧ other ≠ id := by
  cases isPlanted : domain.plantedOn id with
  | none =>
    rw [elim_none]
    refine (and_iff_left_of_imp ?_).symm
    rintro isAttached rfl
    rw [kept.attached place isMember, isPlanted] at isAttached
    cases isAttached.2
  | some on =>
    rw [elim_some, mem_attachedOf_detach]
    apply and_congr_right
    intro isAttached
    constructor
    · rintro apart rfl
      rw [kept.attached place isMember, isPlanted] at isAttached
      exact apart ⟨(Option.some.inj isAttached.2).symm, rfl⟩
    · rintro different ⟨-, same⟩
      exact different same

theorem Kept.removeEntity (kept : Kept domain) (footing : Int → Footing) :
    Kept (domain.removeEntity id footing) := by
  unfold PlantDomain.removeEntity
  split
  · rename_i isEntry
    have leaves : ∀ other place, domain.Member place →
        (other ∈ ((domain.plantedOn id).elim domain fun on =>
          domain.detach on id).attachedOf place ↔
          other ∈ domain.attachedOf place ∧ other ≠ id) := kept.detached
    have entries : ((domain.plantedOn id).elim domain fun on => domain.detach on id).isEntry =
        domain.isEntry := by
      cases domain.plantedOn id with
      | none => rfl
      | some on => exact isEntry_detach domain id on
    have bodies : ((domain.plantedOn id).elim domain fun on => domain.detach on id).hasBody =
        domain.hasBody := by
      cases domain.plantedOn id with
      | none => rfl
      | some on => exact hasBody_detach domain id on
    have rest : ((domain.plantedOn id).elim domain fun on => domain.detach on id).owner =
          domain.owner ∧
        ((domain.plantedOn id).elim domain fun on => domain.detach on id).mode = domain.mode ∧
        ((domain.plantedOn id).elim domain fun on => domain.detach on id).modeData =
          domain.modeData := by
      cases domain.plantedOn id with
      | none => exact ⟨rfl, rfl, rfl⟩
      | some on =>
        exact ⟨owner_detach domain id on, mode_detach domain id on, modeData_detach domain id on⟩
    dsimp only
    generalize ((domain.plantedOn id).elim domain fun on => domain.detach on id) = detached
      at leaves entries bodies rest ⊢
    obtain ⟨owner, mode, modeData⟩ := rest
    have erased : ∀ other, PlantDomain.isEntry { detached with
        ids := domain.ids.filter (· ≠ id)
        entries := Function.update detached.entries id none } other =
        (domain.isEntry other && decide (other ≠ id)) := by
      intro other
      rw [← entries]
      unfold PlantDomain.isEntry
      dsimp only
      rw [Function.update_apply]
      split
      · rename_i same
        simp [same]
      · rename_i different
        simp [different]
    apply Kept.placeAll
    · apply kept.leave isEntry
      · exact owner
      · exact mode
      · unfold plantedOn
        rw [← modeData]
      · exact erased
      · intro other different
        rw [← bodies]
        unfold hasBody
        dsimp only
        rw [Function.update_of_ne different]
      · intro other place isMember different
        rw [← leaves other place isMember]
        unfold attachedOf
        dsimp only
        rw [Function.update_of_ne different]
    · intro attached isAttached
      rw [leaves attached id (.inr isEntry), kept.attached id (.inr isEntry)] at isAttached
      rw [erased, isAttached.1.1, Bool.true_and, decide_eq_true_eq]
      exact isAttached.2
  · exact kept

end PlantDomain

end Cyphesis.Simulation
