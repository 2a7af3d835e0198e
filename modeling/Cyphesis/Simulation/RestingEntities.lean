import Mathlib.Algebra.Group.Basic
import Mathlib.Algebra.Group.Int.Defs
import Mathlib.Algebra.Group.PUnit
import Mathlib.Data.Fin.VecNotation
import Mathlib.Data.Fintype.Card

/-!
# Moving what rests on an entity

An entry that is transformed takes along what is planted on it and what rests on it.  What the
physics library finds is a parameter and may change at any time, and so is what is attached;
visibility and impulses are left out.  The recursion has a bound on its depth.

The position is written first and compared with the old one afterwards, with a tolerance, so an
entry that stays within it is not noted as transformed and can be come to again.
-/

namespace Cyphesis.Simulation

variable {ι V Q : Type}

/-- Invalid values are absent.  `applied` is history: the entries a transform was applied to, each
with whether that was a change. -/
structure TransformState (ι V Q : Type) where
  position : ι → Option V
  orientation : ι → Option Q
  transformedEntities : Finset ι
  applied : List (ι × Bool)

/-- What a transform depends on besides. -/
structure RestingDomain (ι V Q : Type) where
  hasCollisionObject : ι → Bool
  attachedEntities : TransformState ι V Q → ι → List ι
  /-- The entries that rest on one, by contacts. -/
  contacts : TransformState ι V Q → ι → List ι
  /-- `Quaternion::isEqualTo`, with a tolerance. -/
  isEqualTo : Q → Option Q → Bool
  /-- `Point::isEqualTo`, with a tolerance. -/
  samePosition : Option V → Option V → Bool
  rotate : Q → V → V
  /-- `calculatePositionForEntity` -/
  calculatePosition : TransformState ι V Q → ι → V → V

namespace TransformState

/-- A changed entry is marked, and nothing was applied to it after the change. -/
structure Sound (state : TransformState ι V Q) : Prop where
  once : state.applied.Pairwise fun earlier later => earlier.1 = later.1 → earlier.2 = false
  marked : ∀ entry, (entry, true) ∈ state.applied → entry ∈ state.transformedEntities

/-- What no transform is applied to stays. -/
structure Leads (before after : TransformState ι V Q) : Prop where
  transformed : before.transformedEntities ⊆ after.transformedEntities
  applied : before.applied ⊆ after.applied
  kept : ∀ entry, (∀ changed, (entry, changed) ∉ after.applied) →
    after.position entry = before.position entry ∧
    after.orientation entry = before.orientation entry

theorem Leads.trans {first second third : TransformState ι V Q} (leads : Leads first second)
    (next : Leads second third) : Leads first third where
  transformed _ marked := next.transformed (leads.transformed marked)
  applied _ moved := next.applied (leads.applied moved)
  kept entry stays := by
    have later := next.kept entry stays
    have earlier := leads.kept entry fun changed moved => stays changed (next.applied moved)
    exact ⟨later.1.trans earlier.1, later.2.trans earlier.2⟩

/-- Applying to an entry that is not yet changed keeps the order. -/
theorem Sound.note [DecidableEq ι] {state : TransformState ι V Q} (sound : state.Sound) {entry : ι}
    (fresh : (entry, true) ∉ state.applied) (changed : Bool) (positions : ι → Option V)
    (orientations : ι → Option Q) :
    Sound ⟨positions, orientations,
      if changed then insert entry state.transformedEntities else state.transformedEntities,
      state.applied ++ [(entry, changed)]⟩ where
  once := by
    refine List.pairwise_append.mpr ⟨sound.once, List.pairwise_singleton _ _, ?_⟩
    rintro ⟨other, isChanged⟩ isEarlier later isLater same
    rw [List.mem_singleton.mp isLater] at same
    subst same
    cases isChanged with
    | false => rfl
    | true => exact absurd isEarlier fresh
  marked other isNoted := by
    rcases List.mem_append.mp isNoted with before | isEntry
    · have isMarked := sound.marked other before
      split
      · exact Finset.mem_insert_of_mem isMarked
      · exact isMarked
    · cases List.mem_singleton.mp isEntry
      exact Finset.mem_insert_self ..

theorem Leads.note [DecidableEq ι] (state : TransformState ι V Q) (entry : ι) (changed : Bool)
    (position : Option V) (orientation : Option Q) :
    Leads state ⟨Function.update state.position entry position,
      Function.update state.orientation entry orientation,
      if changed then insert entry state.transformedEntities else state.transformedEntities,
      state.applied ++ [(entry, changed)]⟩ where
  transformed := by
    dsimp only
    split
    · exact Finset.subset_insert ..
    · exact Finset.Subset.refl _
  applied := List.subset_append_left ..
  kept other stays := by
    have different : other ≠ entry := by
      rintro rfl
      exact stays changed (by simp)
    exact ⟨Function.update_of_ne different .., Function.update_of_ne different ..⟩

end TransformState

variable [DecidableEq ι] [Group Q]

namespace RestingDomain

variable (domain : RestingDomain ι V Q)

variable (state : TransformState ι V Q)

/-- Turn in `applyTransformInternal`. -/
def turn (entry : ι) (orientation : Option Q) : TransformState ι V Q × Q × Bool :=
  match orientation with
  | none => (state, 1, false)
  | some turned =>
    if domain.isEqualTo turned (state.orientation entry) then (state, 1, false)
    else
      ({ state with orientation := Function.update state.orientation entry (some turned) },
        match state.orientation entry with
        | some old => turned * old⁻¹
        | none => turned, true)

def applyNewPositionForEntity (entry : ι) (pos : Option V)
    (calculatePosition : Bool) : TransformState ι V Q :=
  match pos with
  | none => state
  | some pos =>
    let newPos := if calculatePosition then domain.calculatePosition state entry pos else pos
    { state with position := Function.update state.position entry (some newPos) }

variable [AddGroup V]

/-- `applyTransformInternal` with `transformRestingEntities`. -/
def applyTransformInternal : Nat → ι → Option Q → Option V → Bool → TransformState ι V Q →
    Option (TransformState ι V Q)
  | 0, _, _, _, _, _ => none
  | depth + 1, entry, orientation, pos, calculatePosition, state =>
    let oldPos := state.position entry
    let (turned, rotationChange, hadTurn) := domain.turn state entry orientation
    let moved := domain.applyNewPositionForEntity turned entry pos calculatePosition
    let hadChange := hadTurn || pos.isSome && !domain.samePosition oldPos (moved.position entry)
    let marked :=
      { moved with
        transformedEntities :=
          if hadChange then insert entry moved.transformedEntities else moved.transformedEntities
        applied := moved.applied ++ [(entry, hadChange)] }
    if hadChange then
      if domain.hasCollisionObject entry then
        ((domain.attachedEntities marked entry).union (domain.contacts marked entry)).foldlM
          (fun current restingEntry =>
            if restingEntry ∈ current.transformedEntities then some current
            else
              let posTransform := (marked.position entry).bind fun new => oldPos.map (new - ·)
              let relativePos := (current.position restingEntry).bind fun restingPos =>
                (current.position entry).bind fun entryPos =>
                  posTransform.map fun change => restingPos - (entryPos - change)
              applyTransformInternal depth restingEntry
                ((current.orientation restingEntry).map (· * rotationChange))
                ((current.position entry).bind fun entryPos =>
                  relativePos.map fun relative => entryPos + domain.rotate rotationChange relative)
                false current)
          marked
      else some marked
    else some marked

end RestingDomain

namespace RestingDomain

open TransformState

variable (domain : RestingDomain ι V Q)

variable (state : TransformState ι V Q) (entry : ι)

theorem turn_eq (orientation : Option Q) :
    ∃ value, (domain.turn state entry orientation).1 =
      { state with orientation := Function.update state.orientation entry value } := by
  unfold turn
  cases orientation with
  | none => exact ⟨state.orientation entry, by simp⟩
  | some turned =>
    dsimp only
    split
    · exact ⟨state.orientation entry, by simp⟩
    · exact ⟨some turned, rfl⟩

omit [Group Q] in
theorem applyNewPositionForEntity_eq (pos : Option V)
    (calculatePosition : Bool) :
    ∃ value, domain.applyNewPositionForEntity state entry pos calculatePosition =
      { state with position := Function.update state.position entry value } := by
  cases pos with
  | none => exact ⟨state.position entry, by simp [applyNewPositionForEntity]⟩
  | some pos => exact ⟨_, rfl⟩

/-- It ends if turns do, and keep that. -/
theorem foldlM_ends {α σ : Type} {turn : σ → α → Option σ} {good : σ → Prop} (inv : σ → Prop)
    (ends : ∀ state item, inv state → ∃ next, turn state item = some next ∧ inv next)
    (enough : ∀ final, inv final → good final) (items : List α) (state : σ) (start : inv state) :
    ∃ final, items.foldlM turn state = some final ∧ good final := by
  induction items generalizing state with
  | nil => exact ⟨state, rfl, enough state start⟩
  | cons item rest ih =>
    obtain ⟨next, isNext, kept⟩ := ends state item start
    rw [List.foldlM_cons, isNext]
    exact ih next kept

variable [AddGroup V] [Fintype ι]

/-- It ends above the number of entries to come to.  Every nested call is for an entry that is not
marked yet, and its caller is. -/
theorem applyTransformInternal_ends (depth : Nat) (entry : ι) (orientation : Option Q)
    (pos : Option V) (calculatePosition : Bool) (state : TransformState ι V Q)
    (enough : (insert entry state.transformedEntities)ᶜ.card < depth) (sound : state.Sound)
    (fresh : (entry, true) ∉ state.applied) :
    ∃ final, domain.applyTransformInternal depth entry orientation pos calculatePosition state =
      some final ∧ final.Sound ∧ Leads state final := by
  induction depth generalizing entry orientation pos calculatePosition state with
  | zero => exact absurd enough (Nat.not_lt_zero _)
  | succ depth ih =>
    rw [applyTransformInternal]
    obtain ⟨newOrientation, isTurned⟩ := turn_eq domain state entry orientation
    generalize domain.turn state entry orientation = result at isTurned ⊢
    obtain ⟨turned, rotationChange, hadTurn⟩ := result
    dsimp only at isTurned ⊢
    subst isTurned
    obtain ⟨newPosition, isMoved⟩ := applyNewPositionForEntity_eq domain
      { state with orientation := Function.update state.orientation entry newOrientation }
      entry pos calculatePosition
    rw [isMoved]
    dsimp only
    generalize (hadTurn || _) = hadChange
    have noted := sound.note fresh hadChange (Function.update state.position entry newPosition)
      (Function.update state.orientation entry newOrientation)
    have leads := Leads.note state entry hadChange newPosition newOrientation
    generalize isMarked : TransformState.mk _ _ _ _ = marked at noted leads ⊢
    split
    next changed =>
      have transformed : marked.transformedEntities = insert entry state.transformedEntities := by
        rw [← isMarked]
        exact if_pos changed
      split
      · refine foldlM_ends (fun current => current.Sound ∧ Leads marked current) ?_ ?_ _ marked
          ⟨noted, fun _ marked => marked, fun _ moved => moved, fun _ _ => ⟨rfl, rfl⟩⟩
        · rintro current restingEntry ⟨currentSound, onwards⟩
          split
          · exact ⟨current, rfl, currentSound, onwards⟩
          next unmarked =>
            have fewer : (insert restingEntry current.transformedEntities)ᶜ ⊂
                (insert entry state.transformedEntities)ᶜ := by
              rw [Finset.compl_ssubset_compl, ← transformed]
              exact Finset.ssubset_of_subset_of_ssubset onwards.transformed
                (Finset.ssubset_insert unmarked)
            obtain ⟨next, isNext, nextSound, further⟩ := ih restingEntry
              ((current.orientation restingEntry).map (· * rotationChange)) _ false current
              ((Finset.card_lt_card fewer).trans_le (Nat.lt_succ_iff.mp enough)) currentSound
              fun moved => unmarked (currentSound.marked _ moved)
            exact ⟨next, isNext, nextSound, onwards.trans further⟩
        · rintro final ⟨finalSound, onwards⟩
          exact ⟨finalSound, leads.trans onwards⟩
      · exact ⟨marked, rfl, noted, leads⟩
    · exact ⟨marked, rfl, noted, leads⟩

/-- It ends; nothing is applied to an entry any more once it was changed, so that each is changed
once at most; and what nothing was applied to is where it was. -/
theorem applyTransformInternal_once (domain : RestingDomain ι V Q) (entry : ι)
    (orientation : Option Q) (pos : Option V) (calculatePosition : Bool)
    (positions : ι → Option V) (orientations : ι → Option Q) (transformedEntities : Finset ι) :
    ∃ final, domain.applyTransformInternal (Fintype.card ι + 1) entry orientation pos
        calculatePosition ⟨positions, orientations, transformedEntities, []⟩ = some final ∧
      (final.applied.Pairwise fun earlier later => earlier.1 = later.1 → earlier.2 = false) ∧
      ∀ other, (∀ changed, (other, changed) ∉ final.applied) →
        final.position other = positions other ∧ final.orientation other = orientations other := by
  obtain ⟨final, ended, sound, leads⟩ := applyTransformInternal_ends domain
    (Fintype.card ι + 1) entry orientation pos calculatePosition
    ⟨positions, orientations, transformedEntities, []⟩
    (Nat.lt_succ_of_le (Finset.card_le_univ _)) ⟨List.Pairwise.nil, by simp⟩ List.not_mem_nil
  exact ⟨final, ended, sound.once, leads.kept⟩

/-- Entry 2 rests on 0 and 1, and 1 rests on 0.  The tolerance grows with the coordinates. -/
def pile : RestingDomain (Fin 3) ℤ Unit where
  hasCollisionObject _ := true
  attachedEntities _ _ := []
  contacts _ entry := if entry = 0 then [1, 2] else if entry = 1 then [2] else []
  isEqualTo _ _ := true
  samePosition first second :=
    match first, second with
    | some first, some second => (first - second).natAbs ≤ min first.natAbs second.natAbs / 8
    | _, _ => first == second
  rotate _ relative := relative
  calculatePosition _ _ pos := pos

/-- Entry 0 is moved by one.  Entry 2 stays within the tolerance and is moved along twice. -/
theorem repositioned_twice :
    (pile.applyTransformInternal 4 0 none (some 1) false
        ⟨![some 0, some 4, some 10], fun _ => some (), ∅, []⟩).map
        (fun final => (final.applied, final.position 2)) =
      some ([(0, true), (1, true), (2, false), (2, false)], some 12) := by
  decide

end RestingDomain

end Cyphesis.Simulation
