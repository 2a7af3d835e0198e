import Cyphesis.Simulation.PhysicalSight
import Cyphesis.Foundation.Keyed

/-!
# The relation of observers and what they observe

The sets of the entries record one relation from both sides, and only perceptive entities observe.
-/

namespace Cyphesis.Simulation

open Cyphesis.Foundation
open Function

namespace SightDomain

variable {domain after : SightDomain} {gap wider : EntryRef → EntryRef → Prop}
  {entry observer observed other : EntryRef}

/-- Observers and observed entries agree, and name entries that are there. -/
structure Agrees (domain : SightDomain) : Prop where
  agree : ∀ observer ∈ domain.live, ∀ observed ∈ domain.live,
    (observed ∈ domain.observedByThis observer ↔ observer ∈ domain.observingThis observed)
  observed_live : ∀ observer ∈ domain.live, ∀ observed ∈ domain.observedByThis observer,
    observed ∈ domain.live
  observing_live : ∀ observed ∈ domain.live, ∀ observer ∈ domain.observingThis observed,
    observer ∈ domain.live
  blind : ∀ observer ∈ domain.live, domain.perceptive observer = false →
    domain.observedByThis observer = []

/-- Kept by all, up to a gap. -/
structure Kept (gap : EntryRef → EntryRef → Prop) (domain : SightDomain) : Prop where
  keys : (domain.entries.map Prod.fst).Nodup
  refs : domain.live.Nodup
  home : containing ∈ domain.live
  homeView : domain.viewSphere containing = none
  bounded : ∀ entry ∈ domain.live, entry < domain.next
  viewing : ∀ entry, (domain.viewSphere entry).isSome →
    entry ∈ domain.live ∧ domain.perceptive entry = true
  visible : ∀ entry, (domain.visibilitySphere entry).isSome → entry ∈ domain.live
  agree : ∀ observer observed, ¬ gap observer observed →
    (observed ∈ domain.observedByThis observer ↔ observer ∈ domain.observingThis observed)
  observed : ∀ observer, ∀ observed ∈ domain.observedByThis observer,
    observer ∈ domain.live ∧ observed ∈ domain.live ∧ domain.perceptive observer = true
  observing : ∀ observed, ∀ observer ∈ domain.observingThis observed,
    observer ∈ domain.live ∧ observed ∈ domain.live
  waiting : ∀ entry, ∀ change ∈ domain.observedByThisChanges entry,
    (domain.viewSphere entry).isSome ∧ change.1 < domain.next
  awaited : ∀ entry, ∀ change ∈ domain.observingThisChanges entry,
    entry ∈ domain.live ∧ change.1 < domain.next ∧
      (change.1 ∈ domain.live → (domain.viewSphere change.1).isSome)

/-- Invariant without a gap. -/
abbrev Whole (domain : SightDomain) : Prop :=
  Kept (fun _ _ => False) domain

theorem Kept.agrees (kept : Whole domain) : domain.Agrees where
  agree observer _ observed _ := kept.agree observer observed id
  observed_live observer _ observed sees := (kept.observed observer observed sees).2.1
  observing_live observed _ observer seen := (kept.observing observed observer seen).1
  blind observer _ imperceptive := by
    apply List.eq_nil_iff_forall_not_mem.mpr
    intro observed sees
    have perceives := (kept.observed observer observed sees).2.2
    rw [imperceptive] at perceives
    contradiction

variable {x y : EntryRef}

theorem mem_insertObserved :
    y ∈ (domain.insertObserved observer observed).observedByThis x ↔
      x = observer ∧ y = observed ∨ y ∈ domain.observedByThis x := by
  by_cases same : x = observer
  · subst same
    simp [insertObserved]
  · simp [insertObserved, same]

theorem mem_insertObserving :
    x ∈ (domain.insertObserving observed observer).observingThis y ↔
      x = observer ∧ y = observed ∨ x ∈ domain.observingThis y := by
  by_cases same : y = observed
  · subst same
    simp [insertObserving]
  · simp [insertObserving, same]

theorem mem_eraseObserved :
    y ∈ (domain.eraseObserved observer observed).observedByThis x ↔
      y ∈ domain.observedByThis x ∧ ¬ (x = observer ∧ y = observed) := by
  by_cases same : x = observer
  · subst same
    simp [eraseObserved]
  · simp [eraseObserved, same]

theorem mem_eraseObserving :
    x ∈ (domain.eraseObserving observed observer).observingThis y ↔
      x ∈ domain.observingThis y ∧ ¬ (x = observer ∧ y = observed) := by
  by_cases same : y = observed
  · subst same
    simp [eraseObserving]
  · simp [eraseObserving, same]

section

variable (kept : Kept gap domain)

include kept

theorem Kept.of_sets
    (same : after = { domain with
      observedByThis := after.observedByThis, observingThis := after.observingThis })
    (agree : ∀ observer observed, ¬ wider observer observed →
      (observed ∈ after.observedByThis observer ↔ observer ∈ after.observingThis observed))
    (sees : ∀ observer, ∀ observed ∈ after.observedByThis observer,
      observer ∈ domain.live ∧ observed ∈ domain.live ∧ domain.perceptive observer = true)
    (seen : ∀ observed, ∀ observer ∈ after.observingThis observed,
      observer ∈ domain.live ∧ observed ∈ domain.live) :
    Kept wider after := by
  rw [same]
  exact
    { keys := kept.keys
      refs := kept.refs
      home := kept.home
      homeView := kept.homeView
      bounded := kept.bounded
      viewing := kept.viewing
      visible := kept.visible
      agree := agree
      observed := sees
      observing := seen
      waiting := kept.waiting
      awaited := kept.awaited }

theorem Kept.observe
    (closes : ∀ x y, gap x y → wider x y ∨ x = observer ∧ y = observed)
    (observerLive : observer ∈ domain.live) (observedLive : observed ∈ domain.live)
    (perceives : domain.perceptive observer = true) :
    Kept wider ((domain.insertObserving observed observer).insertObserved observer observed) := by
  apply kept.of_sets rfl
  · intro x y closed
    by_cases pair : x = observer ∧ y = observed
    · exact iff_of_true (mem_insertObserved.mpr (Or.inl pair))
        (mem_insertObserving.mpr (Or.inl pair))
    · have agreed := kept.agree x y fun open' => (closes x y open').elim closed pair
      exact (mem_insertObserved.trans (or_congr Iff.rfl agreed)).trans mem_insertObserving.symm
  · intro x y sees
    rcases mem_insertObserved.mp sees with ⟨rfl, rfl⟩ | sees
    · exact ⟨observerLive, observedLive, perceives⟩
    · exact kept.observed x y sees
  · intro y x seen
    rcases mem_insertObserving.mp seen with ⟨rfl, rfl⟩ | seen
    · exact ⟨observerLive, observedLive⟩
    · exact kept.observing y x seen

theorem Kept.unobserve :
    Kept gap ((domain.eraseObserving observed observer).eraseObserved observer observed) := by
  apply kept.of_sets rfl
  · intro x y closed
    have agreed := kept.agree x y closed
    exact (mem_eraseObserved.trans (and_congr agreed Iff.rfl)).trans mem_eraseObserving.symm
  · intro x y sees
    exact kept.observed x y (mem_eraseObserved.mp sees).1
  · intro y x seen
    exact kept.observing y x (mem_eraseObserving.mp seen).1

theorem Kept.insertObserving
    (opens : ∀ x y, gap x y ∨ x = observer ∧ y = observed → wider x y)
    (observerLive : observer ∈ domain.live) (observedLive : observed ∈ domain.live) :
    Kept wider (domain.insertObserving observed observer) := by
  apply kept.of_sets rfl
  · intro x y closed
    have narrow : ¬ gap x y := fun open' => closed (opens x y (Or.inl open'))
    have pair : ¬ (x = observer ∧ y = observed) := fun same => closed (opens x y (Or.inr same))
    have agreed := kept.agree x y narrow
    exact agreed.trans ((mem_insertObserving.trans (or_iff_right pair)).symm)
  · exact kept.observed
  · intro y x seen
    rcases mem_insertObserving.mp seen with ⟨rfl, rfl⟩ | seen
    · exact ⟨observerLive, observedLive⟩
    · exact kept.observing y x seen

end

/-- Only the changes differ. -/
structure Follows (domain after : SightDomain) : Prop where
  entries : after.entries = domain.entries
  perceptive : after.perceptive = domain.perceptive
  viewSphere : after.viewSphere = domain.viewSphere
  visibilitySphere : after.visibilitySphere = domain.visibilitySphere
  waiting : ∀ entry, ∀ change ∈ after.observedByThisChanges entry,
    change ∈ domain.observedByThisChanges entry ∨ change.1 ∈ domain.live
  awaited : ∀ entry, ∀ change ∈ after.observingThisChanges entry,
    change ∈ domain.observingThisChanges entry ∨ change.1 ∈ domain.live

theorem Follows.live (follows : Follows domain after) : after.live = domain.live := by
  simp [SightDomain.live, follows.entries]

theorem Follows.of_same (entries : after.entries = domain.entries)
    (perceptive : after.perceptive = domain.perceptive)
    (viewSphere : after.viewSphere = domain.viewSphere)
    (visibilitySphere : after.visibilitySphere = domain.visibilitySphere)
    (waiting : ∀ entry, after.observedByThisChanges entry ⊆ domain.observedByThisChanges entry)
    (awaited : ∀ entry, after.observingThisChanges entry ⊆ domain.observingThisChanges entry) :
    Follows domain after where
  entries := entries
  perceptive := perceptive
  viewSphere := viewSphere
  visibilitySphere := visibilitySphere
  waiting entry _ isChange := Or.inl (waiting entry isChange)
  awaited entry _ isChange := Or.inl (awaited entry isChange)

theorem Follows.refl (domain : SightDomain) : Follows domain domain :=
  .of_same rfl rfl rfl rfl (fun _ => List.Subset.refl _) fun _ => List.Subset.refl _

theorem Follows.trans {middle : SightDomain} (first : Follows domain middle)
    (second : Follows middle after) : Follows domain after where
  entries := second.entries.trans first.entries
  perceptive := second.perceptive.trans first.perceptive
  viewSphere := second.viewSphere.trans first.viewSphere
  visibilitySphere := second.visibilitySphere.trans first.visibilitySphere
  waiting entry change isChange := by
    rcases second.waiting entry change isChange with isMiddle | live
    · exact first.waiting entry change isMiddle
    · exact Or.inr (first.live ▸ live)
  awaited entry change isChange := by
    rcases second.awaited entry change isChange with isMiddle | live
    · exact first.awaited entry change isMiddle
    · exact Or.inr (first.live ▸ live)

section

variable {change new : EntryRef × VisibilityChange} {at' : EntryRef}

theorem mem_pushObserved :
    change ∈ (domain.pushObserved entry new).observedByThisChanges at' ↔
      change ∈ domain.observedByThisChanges at' ∨ at' = entry ∧ change = new := by
  by_cases same : at' = entry
  · subst same
    simp [pushObserved]
  · simp [pushObserved, same]

theorem mem_pushObserving :
    change ∈ (domain.pushObserving entry new).observingThisChanges at' ↔
      change ∈ domain.observingThisChanges at' ∨ at' = entry ∧ change = new := by
  by_cases same : at' = entry
  · subst same
    simp [pushObserving]
  · simp [pushObserving, same]

end

variable {change : EntryRef × VisibilityChange}

theorem Kept.pushObserved (kept : Kept gap domain)
    (views : (domain.viewSphere entry).isSome) (live : change.1 ∈ domain.live) :
    Kept gap (domain.pushObserved entry change) ∧
      Follows domain (domain.pushObserved entry change) := by
  constructor
  · refine { kept with waiting := ?_ }
    intro at' other isOther
    rcases mem_pushObserved.mp isOther with isOld | ⟨rfl, rfl⟩
    · exact kept.waiting at' other isOld
    · exact ⟨views, kept.bounded _ live⟩
  · refine { Follows.refl domain with waiting := ?_ }
    intro at' other isOther
    rcases mem_pushObserved.mp isOther with isOld | ⟨rfl, rfl⟩
    · exact Or.inl isOld
    · exact Or.inr live

theorem Kept.pushObserving (kept : Kept gap domain)
    (isLive : entry ∈ domain.live) (views : (domain.viewSphere change.1).isSome) :
    Kept gap (domain.pushObserving entry change) ∧
      Follows domain (domain.pushObserving entry change) := by
  have live := (kept.viewing change.1 views).1
  constructor
  · refine { kept with awaited := ?_ }
    intro at' other isOther
    rcases mem_pushObserving.mp isOther with isOld | ⟨rfl, rfl⟩
    · exact kept.awaited at' other isOld
    · exact ⟨isLive, kept.bounded _ live, fun _ => views⟩
  · refine { Follows.refl domain with awaited := ?_ }
    intro at' other isOther
    rcases mem_pushObserving.mp isOther with isOld | ⟨rfl, rfl⟩
    · exact Or.inl isOld
    · exact Or.inr live

theorem collides_view_view (left right : ViewSphere) :
    left.proxy.collides right.proxy = false := by
  rcases left with ⟨_ | _⟩ <;> rcases right with ⟨_ | _⟩ <;> decide

theorem collides_visibility_visibility (left right : VisibilitySphere) :
    left.proxy.collides right.proxy = false := by
  rcases left with ⟨_ | _⟩ <;> rcases right with ⟨_ | _⟩ <;> decide

theorem overlapped_cases (moved : EntryRef) (movedProxy : Proxy) (isViewSphere : Bool)
    (domain : SightDomain) (overlap : Overlap) :
    overlapped moved movedProxy isViewSphere domain overlap = domain ∨
      ∃ otherProxy, domain.proxy overlap.other overlap.sphere = some otherProxy ∧
        movedProxy.collides otherProxy = true ∧
        overlapped moved movedProxy isViewSphere domain overlap =
          if isViewSphere then domain.pushObserved moved (overlap.other, overlap.change)
          else domain.pushObserving moved (overlap.other, overlap.change) := by
  cases found : domain.proxy overlap.other overlap.sphere with
  | none => exact Or.inl (by simp [overlapped, found])
  | some otherProxy =>
    by_cases reports : movedProxy.collides otherProxy ∧ moved ≠ overlap.other
    · exact Or.inr ⟨otherProxy, rfl, reports.1, by simp [overlapped, found, reports]⟩
    · exact Or.inl (by simp only [overlapped, found, if_neg reports])

theorem Kept.overlapped_view {sphere : ViewSphere} (kept : Kept gap domain)
    (views : (domain.viewSphere entry).isSome) (overlap : Overlap) :
    Kept gap (overlapped entry sphere.proxy true domain overlap) ∧
      Follows domain (overlapped entry sphere.proxy true domain overlap) := by
  rcases overlapped_cases entry sphere.proxy true domain overlap with
    same | ⟨otherProxy, found, collides, same⟩
  · rw [same]
    exact ⟨kept, Follows.refl domain⟩
  · rw [same]
    apply kept.pushObserved views
    cases kind : overlap.sphere with
    | view =>
      -- two views are filtered out
      obtain ⟨viewSphere, -, rfl⟩ := Option.map_eq_some_iff.mp (kind ▸ found)
      rw [collides_view_view] at collides
      contradiction
    | visibility =>
      obtain ⟨visibilitySphere, isSphere, -⟩ := Option.map_eq_some_iff.mp (kind ▸ found)
      exact kept.visible overlap.other (by simp [isSphere])

variable {sphere : VisibilitySphere}

theorem Kept.overlapped_visibility (kept : Kept gap domain)
    (isLive : entry ∈ domain.live) (overlap : Overlap) :
    Kept gap (overlapped entry sphere.proxy false domain overlap) ∧
      Follows domain (overlapped entry sphere.proxy false domain overlap) := by
  rcases overlapped_cases entry sphere.proxy false domain overlap with
    same | ⟨otherProxy, found, collides, same⟩
  · rw [same]
    exact ⟨kept, Follows.refl domain⟩
  · rw [same]
    apply kept.pushObserving isLive
    cases kind : overlap.sphere with
    | view =>
      obtain ⟨viewSphere, isSphere, -⟩ := Option.map_eq_some_iff.mp (kind ▸ found)
      simp [isSphere]
    | visibility =>
      obtain ⟨visibilitySphere, -, rfl⟩ := Option.map_eq_some_iff.mp (kind ▸ found)
      rw [collides_visibility_visibility] at collides
      contradiction

theorem Kept.report_view {sphere : ViewSphere} (kept : Kept gap domain)
    (views : (domain.viewSphere entry).isSome) (overlaps : List Overlap) :
    Kept gap (domain.report entry sphere.proxy true overlaps) ∧
      Follows domain (domain.report entry sphere.proxy true overlaps) := by
  apply run_invariant_of_step (fun after => Kept gap after ∧ Follows domain after)
  · rintro middle overlap ⟨keptMiddle, follows⟩
    have viewsMiddle : (middle.viewSphere entry).isSome := by rwa [follows.viewSphere]
    obtain ⟨keptNext, followsNext⟩ :=
      @Kept.overlapped_view middle gap entry sphere keptMiddle viewsMiddle overlap
    exact ⟨keptNext, follows.trans followsNext⟩
  · exact ⟨kept, Follows.refl domain⟩

theorem Kept.report_visibility (kept : Kept gap domain)
    (isLive : entry ∈ domain.live) (overlaps : List Overlap) :
    Kept gap (domain.report entry sphere.proxy false overlaps) ∧
      Follows domain (domain.report entry sphere.proxy false overlaps) := by
  apply run_invariant_of_step (fun after => Kept gap after ∧ Follows domain after)
  · rintro middle overlap ⟨keptMiddle, follows⟩
    have isLiveMiddle : entry ∈ middle.live := by rwa [follows.live]
    obtain ⟨keptNext, followsNext⟩ :=
      @Kept.overlapped_visibility middle gap entry sphere keptMiddle isLiveMiddle overlap
    exact ⟨keptNext, follows.trans followsNext⟩
  · exact ⟨kept, Follows.refl domain⟩

section

variable (domain) (entry) (change)

theorem follows_observerChange : Follows domain (observerChange entry domain change) := by
  rcases change with ⟨other, _ | _⟩ <;> exact { Follows.refl domain with }

theorem follows_observedChange : Follows domain (observedChange entry domain change) := by
  rcases change with ⟨other, _ | _⟩ <;> exact { Follows.refl domain with }

end

theorem Kept.observerChange (kept : Kept gap domain)
    (views : (domain.viewSphere entry).isSome) (live : change.1 ∈ domain.live) :
    Kept gap (observerChange entry domain change) := by
  obtain ⟨isLive, perceives⟩ := kept.viewing entry views
  rcases change with ⟨other, _ | _⟩
  · exact kept.observe (fun _ _ isGap => Or.inl isGap) isLive live perceives
  · exact kept.unobserve

theorem Kept.observedChange (kept : Kept gap domain)
    (isLive : entry ∈ domain.live) (views : (domain.viewSphere change.1).isSome) :
    Kept gap (observedChange entry domain change) := by
  obtain ⟨live, perceives⟩ := kept.viewing change.1 views
  rcases change with ⟨other, _ | _⟩
  · exact kept.observe (fun _ _ isGap => Or.inl isGap) live isLive perceives
  · exact kept.unobserve

variable {changes : List (EntryRef × VisibilityChange)}

theorem Kept.observerChanges
    (kept : Kept gap domain) (views : (domain.viewSphere entry).isSome)
    (live : ∀ change ∈ changes, change.1 ∈ domain.live) :
    Kept gap (changes.foldl (SightDomain.observerChange entry) domain) ∧
      Follows domain (changes.foldl (SightDomain.observerChange entry) domain) := by
  apply run_invariant_of_mem (fun after => Kept gap after ∧ Follows domain after)
  · rintro middle change isChange ⟨keptMiddle, follows⟩
    refine ⟨keptMiddle.observerChange ?_ ?_, follows.trans (follows_observerChange _ _ _)⟩
    · rwa [follows.viewSphere]
    · rw [follows.live]
      exact live change isChange
  · exact ⟨kept, Follows.refl domain⟩

theorem Kept.observedChanges
    (kept : Kept gap domain) (isLive : entry ∈ domain.live)
    (views : ∀ change ∈ changes, (domain.viewSphere change.1).isSome) :
    Kept gap (changes.foldl (SightDomain.observedChange entry) domain) ∧
      Follows domain (changes.foldl (SightDomain.observedChange entry) domain) := by
  apply run_invariant_of_mem (fun after => Kept gap after ∧ Follows domain after)
  · rintro middle change isChange ⟨keptMiddle, follows⟩
    refine ⟨keptMiddle.observedChange ?_ ?_, follows.trans (follows_observedChange _ _ _)⟩
    · rwa [follows.live]
    · rw [follows.viewSphere]
      exact views change isChange
  · exact ⟨kept, Follows.refl domain⟩

theorem mem_update_nil {α β : Type} [DecidableEq α] {lists : α → List β} {key at' : α} {value : β}
    (isValue : value ∈ update lists key [] at') : value ∈ lists at' := by
  by_cases same : at' = key
  · subst same
    simp at isValue
  · rwa [update_of_ne same] at isValue

theorem Kept.finishObserver (kept : Kept gap domain) (entry : EntryRef) (ops : List SightOp) :
    let updated := domain.send ops
    Kept gap { updated with
      observedByThisChanges := update updated.observedByThisChanges entry [] } := by
  refine { kept with waiting := ?_ }
  intro at' change isChange
  exact kept.waiting at' change (mem_update_nil isChange)

theorem Kept.finishObserved (kept : Kept gap domain) (entry : EntryRef) (ops : List SightOp) :
    let updated := domain.send ops
    Kept gap { updated with
      observingThisChanges := update updated.observingThisChanges entry [] } := by
  refine { kept with awaited := ?_ }
  intro at' change isChange
  exact kept.awaited at' change (mem_update_nil isChange)

/-- They name others that are there. -/
structure Current (domain : SightDomain) (entry : EntryRef) : Prop where
  waiting : ∀ change ∈ domain.observedByThisChanges entry, change.1 ∈ domain.live
  awaited : ∀ change ∈ domain.observingThisChanges entry, change.1 ∈ domain.live

theorem Follows.current (follows : Follows domain after) (current : domain.Current entry) :
    after.Current entry where
  waiting change isChange := by
    rw [follows.live]
    exact (follows.waiting entry change isChange).elim (current.waiting change) id
  awaited change isChange := by
    rw [follows.live]
    exact (follows.awaited entry change isChange).elim (current.awaited change) id

section

variable (kept : Kept gap domain)

include kept

theorem Kept.updateObserverEntry
    (live : ∀ change ∈ domain.observedByThisChanges entry, change.1 ∈ domain.live)
    (overlaps : List Overlap) :
    Kept gap (domain.updateObserverEntry entry overlaps) ∧
      Follows domain (domain.updateObserverEntry entry overlaps) := by
  cases isSphere : domain.viewSphere entry with
  | none =>
    simp only [SightDomain.updateObserverEntry, isSphere]
    exact ⟨kept, Follows.refl domain⟩
  | some sphere =>
    simp only [SightDomain.updateObserverEntry, isSphere]
    have views : (domain.viewSphere entry).isSome := by simp [isSphere]
    obtain ⟨keptReported, reported⟩ := @Kept.report_view _ _ _ sphere kept views overlaps
    obtain ⟨keptUpdated, updated⟩ := keptReported.observerChanges
      (by rwa [reported.viewSphere]) (fun change isChange => by
        rw [reported.live]
        exact (reported.waiting entry change isChange).elim (live change) id)
    refine ⟨keptUpdated.finishObserver entry _, (reported.trans updated).trans ?_⟩
    exact .of_same rfl rfl rfl rfl (fun _ _ isChange => mem_update_nil isChange)
      fun _ => List.Subset.refl _

theorem Kept.updateObservedEntry
    (live : ∀ change ∈ domain.observingThisChanges entry, change.1 ∈ domain.live)
    (overlaps : List Overlap) (generateOps : Bool) :
    Kept gap (domain.updateObservedEntry entry overlaps generateOps) ∧
      Follows domain (domain.updateObservedEntry entry overlaps generateOps) := by
  cases isSphere : domain.visibilitySphere entry with
  | none =>
    simp only [SightDomain.updateObservedEntry, isSphere]
    exact ⟨kept, Follows.refl domain⟩
  | some sphere =>
    simp only [SightDomain.updateObservedEntry, isSphere]
    have isLive := kept.visible entry (by simp [isSphere])
    obtain ⟨keptReported, reported⟩ := @Kept.report_visibility _ _ _ sphere kept isLive overlaps
    have views : ∀ change ∈ (domain.report entry sphere.proxy false overlaps).observingThisChanges
        entry, ((domain.report entry sphere.proxy false overlaps).viewSphere change.1).isSome := by
      intro change isChange
      apply (keptReported.awaited entry change isChange).2.2
      rw [reported.live]
      exact (reported.awaited entry change isChange).elim (live change) id
    obtain ⟨keptUpdated, updated⟩ := keptReported.observedChanges (by rwa [reported.live]) views
    refine ⟨keptUpdated.finishObserved entry _, (reported.trans updated).trans ?_⟩
    exact .of_same rfl rfl rfl rfl (fun _ => List.Subset.refl _)
      fun _ _ isChange => mem_update_nil isChange

theorem Kept.updateDirty (current : domain.Current entry)
    (overlaps : EntryRef → SphereKind → List Overlap) :
    Kept gap (updateDirty overlaps domain entry) ∧
      Follows domain (updateDirty overlaps domain entry) := by
  obtain ⟨keptObserved, observed⟩ :=
    kept.updateObservedEntry current.awaited (overlaps entry .visibility) true
  obtain ⟨keptUpdated, updated⟩ :=
    keptObserved.updateObserverEntry (observed.current current).waiting (overlaps entry .view)
  exact ⟨{ keptUpdated with }, { observed.trans updated with }⟩

theorem Kept.updateVisibilityOfDirtyEntities
    (current : ∀ entry ∈ domain.dirty, domain.Current entry)
    (overlaps : EntryRef → SphereKind → List Overlap) :
    Kept gap (domain.updateVisibilityOfDirtyEntities overlaps) ∧
      Follows domain (domain.updateVisibilityOfDirtyEntities overlaps) := by
  have updated : Kept gap (domain.dirty.foldl (SightDomain.updateDirty overlaps) domain) ∧
      Follows domain (domain.dirty.foldl (SightDomain.updateDirty overlaps) domain) := by
    apply run_invariant_of_mem (fun after => Kept gap after ∧ Follows domain after)
    · rintro middle entry isDirty ⟨keptMiddle, follows⟩
      obtain ⟨keptNext, next⟩ :=
        keptMiddle.updateDirty (follows.current (current entry isDirty)) overlaps
      exact ⟨keptNext, follows.trans next⟩
    · exact ⟨kept, Follows.refl domain⟩
  exact ⟨{ updated.1 with }, { updated.2 with }⟩

end

end SightDomain

end Cyphesis.Simulation
