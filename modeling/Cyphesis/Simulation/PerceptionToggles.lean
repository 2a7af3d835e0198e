import Cyphesis.Simulation.ObservationRuns

/-!
# Becoming perceptive in a physical domain

An entity that becomes perceptive gets the sphere of its view from `toggleChildPerception`, one that
is perceptive when it comes from `addEntity`.
-/

namespace Cyphesis.Simulation

open Cyphesis.Foundation List Option

namespace SightDomain

variable {domain after : SightDomain} {fresh wider : EntryRef → Prop} {entry : EntryRef}

/-- No change that waits is about its own entry. -/
structure Tidy (fresh : EntryRef → Prop) (domain : SightDomain) : Prop where
  next_pos : 0 < domain.next
  home : domain.visibilitySphere containing = none
  viewing : ∀ entry, entry ≠ containing → (domain.viewSphere entry).isSome = true →
    domain.perceptive entry = true
  waiting : ∀ entry, ∀ change ∈ domain.observedByThisChanges entry,
    change.1 ≠ entry ∧ (¬ fresh entry → change.1 ≠ containing)
  awaited : ∀ entry, ∀ change ∈ domain.observingThisChanges entry, change.1 ≠ entry

theorem Tidy.mono (tidy : Tidy fresh domain) (imp : ∀ entry, fresh entry → wider entry) :
    Tidy wider domain where
  next_pos := tidy.next_pos
  home := tidy.home
  viewing := tidy.viewing
  waiting entry change isChange :=
    ⟨(tidy.waiting entry change isChange).1, fun notWider =>
      (tidy.waiting entry change isChange).2 fun isFresh => notWider (imp entry isFresh)⟩
  awaited := tidy.awaited

theorem tidy_initial (owner : Int) (perceptive : Bool) :
    Tidy (fun _ => False) (initial owner perceptive) where
  next_pos := Nat.one_pos
  home := rfl
  viewing entry _ views := by simp [initial] at views
  waiting entry change isChange := by simp [initial] at isChange
  awaited entry change isChange := by simp [initial] at isChange

/-- Only sets, queue and what is sent change. -/
structure Quiet (domain after : SightDomain) : Prop where
  entries : after.entries = domain.entries
  next : after.next = domain.next
  perceptive : after.perceptive = domain.perceptive
  viewSphere : after.viewSphere = domain.viewSphere
  visibilitySphere : after.visibilitySphere = domain.visibilitySphere
  waiting : ∀ entry, after.observedByThisChanges entry ⊆ domain.observedByThisChanges entry
  awaited : ∀ entry, after.observingThisChanges entry ⊆ domain.observingThisChanges entry

theorem Quiet.of_sets (same : after = { domain with
      observedByThis := after.observedByThis, observingThis := after.observingThis,
      markedForVisibilityRecalculation := after.markedForVisibilityRecalculation,
      visibilityRecalculateQueue := after.visibilityRecalculateQueue, sent := after.sent }) :
    Quiet domain after := by
  rw [same]
  exact ⟨rfl, rfl, rfl, rfl, rfl, fun _ => List.Subset.refl _, fun _ => List.Subset.refl _⟩

theorem Quiet.refl (domain : SightDomain) : Quiet domain domain :=
  .of_sets rfl

theorem Quiet.trans {middle : SightDomain} (first : Quiet domain middle)
    (second : Quiet middle after) : Quiet domain after where
  entries := second.entries.trans first.entries
  next := second.next.trans first.next
  perceptive := second.perceptive.trans first.perceptive
  viewSphere := second.viewSphere.trans first.viewSphere
  visibilitySphere := second.visibilitySphere.trans first.visibilitySphere
  waiting entry := List.Subset.trans (second.waiting entry) (first.waiting entry)
  awaited entry := List.Subset.trans (second.awaited entry) (first.awaited entry)

theorem Quiet.tidy (quiet : Quiet domain after) (tidy : Tidy fresh domain) : Tidy fresh after where
  next_pos := quiet.next ▸ tidy.next_pos
  home := quiet.visibilitySphere ▸ tidy.home
  viewing entry inside views := by
    rw [quiet.perceptive]
    rw [quiet.viewSphere] at views
    exact tidy.viewing entry inside views
  waiting entry _ isChange := tidy.waiting entry _ (quiet.waiting entry isChange)
  awaited entry _ isChange := tidy.awaited entry _ (quiet.awaited entry isChange)

theorem quiet_observerChange (entry : EntryRef) (domain : SightDomain)
    (change : EntryRef × VisibilityChange) :
    Quiet domain (observerChange entry domain change) := by
  rcases change with ⟨other, _ | _⟩
  · exact .of_sets rfl
  · exact .of_sets rfl

theorem quiet_observedChange (entry : EntryRef) (domain : SightDomain)
    (change : EntryRef × VisibilityChange) :
    Quiet domain (observedChange entry domain change) := by
  rcases change with ⟨other, _ | _⟩
  · exact .of_sets rfl
  · exact .of_sets rfl

theorem quiet_observerChanges (entry : EntryRef) (domain : SightDomain)
    (changes : List (EntryRef × VisibilityChange)) :
    Quiet domain (changes.foldl (observerChange entry) domain) :=
  run_invariant_of_step (Quiet domain)
    (fun middle change quiet => quiet.trans (quiet_observerChange entry middle change))
    (.refl domain) changes

theorem quiet_observedChanges (entry : EntryRef) (domain : SightDomain)
    (changes : List (EntryRef × VisibilityChange)) :
    Quiet domain (changes.foldl (observedChange entry) domain) :=
  run_invariant_of_step (Quiet domain)
    (fun middle change quiet => quiet.trans (quiet_observedChange entry middle change))
    (.refl domain) changes

theorem quiet_observeItself (domain : SightDomain) (entry : EntryRef) :
    Quiet domain (domain.observeItself entry) :=
  .of_sets rfl

theorem quiet_addToContaining (domain : SightDomain) (entry : EntryRef) :
    Quiet domain (domain.addToContaining entry) := by
  unfold addToContaining
  split
  · exact .of_sets rfl
  · exact .refl domain

theorem quiet_forget (domain : SightDomain) (entry : EntryRef) :
    Quiet domain (domain.forget entry) := by
  unfold forget
  have observers : Quiet domain ((domain.observingThis entry).foldl
      (fun domain observer => domain.eraseObserved observer entry) domain) :=
    run_invariant_of_step (Quiet domain)
      (fun _ _ quiet => quiet.trans (.of_sets rfl)) (.refl domain) _
  exact run_invariant_of_step (Quiet domain)
    (fun _ _ quiet => quiet.trans (.of_sets rfl)) observers _

theorem quiet_unmark (domain : SightDomain) (entry : EntryRef) :
    Quiet domain (domain.unmark entry) := by
  unfold unmark
  split
  · exact .of_sets rfl
  · exact .refl domain

theorem quiet_mark (domain : SightDomain) (entry : EntryRef) :
    Quiet domain (domain.mark entry) := by
  unfold mark
  split
  · exact .refl domain
  · exact .of_sets rfl

theorem quiet_removeFromContaining (domain : SightDomain) (entry : EntryRef) :
    Quiet domain (domain.removeFromContaining entry) := by
  simp only [removeFromContaining]
  split
  · exact .of_sets rfl
  · exact .of_sets rfl

/-- A report adds changes of others. -/
structure Reported (moved : EntryRef) (domain after : SightDomain) : Prop where
  same : after = { domain with
    observedByThisChanges := after.observedByThisChanges
    observingThisChanges := after.observingThisChanges }
  waiting : ∃ new, after.observedByThisChanges =
      Function.update domain.observedByThisChanges moved
        (domain.observedByThisChanges moved ++ new) ∧
    ∀ change ∈ new, change.1 ≠ moved ∧ change.1 ≠ containing
  awaited : ∀ entry, ∀ change ∈ after.observingThisChanges entry,
    change ∈ domain.observingThisChanges entry ∨ change.1 ≠ entry

theorem Reported.refl (moved : EntryRef) (domain : SightDomain) : Reported moved domain domain where
  same := rfl
  waiting := ⟨[], by simp, by simp⟩
  awaited _ _ isChange := .inl isChange

variable {moved : EntryRef}

theorem Reported.trans {middle : SightDomain} (first : Reported moved domain middle)
    (second : Reported moved middle after) :
    Reported moved domain after where
  same := by
    rw [second.same, first.same]
  waiting := by
    rcases first.waiting with ⟨early, isEarly, aboutEarly⟩
    rcases second.waiting with ⟨late, isLate, aboutLate⟩
    refine ⟨early ++ late, ?_, ?_⟩
    · rw [isLate, isEarly]
      simp
    · intro change isChange
      rcases List.mem_append.mp isChange with inEarly | inLate
      · exact aboutEarly change inEarly
      · exact aboutLate change inLate
  awaited entry change isChange := by
    rcases second.awaited entry change isChange with earlier | other
    · exact first.awaited entry change earlier
    · exact .inr other

theorem Reported.tidy (reported : Reported moved domain after) (tidy : Tidy fresh domain) :
    Tidy fresh after := by
  rcases reported.waiting with ⟨new, isNew, about⟩
  constructor
  · rw [reported.same]
    exact tidy.next_pos
  · rw [reported.same]
    exact tidy.home
  · rw [reported.same]
    exact tidy.viewing
  · intro entry change isChange
    rw [isNew] at isChange
    by_cases isMoved : entry = moved
    · subst isMoved
      rw [Function.update_self] at isChange
      rcases List.mem_append.mp isChange with inOld | inNew
      · exact tidy.waiting entry change inOld
      · exact ⟨(about change inNew).1, fun _ => (about change inNew).2⟩
    · rw [Function.update_of_ne isMoved] at isChange
      exact tidy.waiting entry change isChange
  · intro entry change isChange
    rcases reported.awaited entry change isChange with earlier | other
    · exact tidy.awaited entry change earlier
    · exact other

variable {change : EntryRef × VisibilityChange}

theorem reported_pushObserved (other : change.1 ≠ moved)
    (notHome : change.1 ≠ containing) :
    Reported moved domain (domain.pushObserved moved change) where
  same := rfl
  waiting := by
    refine ⟨[change], rfl, ?_⟩
    intro new isNew
    obtain rfl := List.mem_singleton.mp isNew
    exact ⟨other, notHome⟩
  awaited _ _ isChange := .inl isChange

theorem reported_pushObserving (other : change.1 ≠ moved) :
    Reported moved domain (domain.pushObserving moved change) where
  same := rfl
  waiting := ⟨[], by simp [pushObserving], by simp⟩
  awaited entry new isNew := by
    rcases mem_pushObserving.mp isNew with earlier | ⟨rfl, rfl⟩
    · exact .inl earlier
    · exact .inr other

theorem reported_overlapped {movedProxy : Proxy} {isViewSphere : Bool}
    (home : domain.visibilitySphere containing = none)
    (ofView : isViewSphere = true → ∃ sphere : ViewSphere, movedProxy = sphere.proxy)
    (overlap : Overlap) :
    Reported moved domain (overlapped moved movedProxy isViewSphere domain overlap) := by
  unfold overlapped
  split
  · exact .refl moved domain
  next otherProxy isProxy =>
    split
    · next meets =>
        have other : overlap.other ≠ moved := Ne.symm meets.2
        cases isViewSphere with
        | false => exact reported_pushObserving other
        | true =>
          have notHome : overlap.other ≠ containing := by
            intro isHome
            rcases ofView rfl with ⟨sphere, rfl⟩
            rw [isHome] at isProxy
            cases isKind : overlap.sphere with
            | view =>
              rw [isKind] at isProxy
              rcases Option.map_eq_some_iff.mp isProxy with ⟨otherSphere, -, rfl⟩
              simp [collides_view_view] at meets
            | visibility =>
              rw [isKind] at isProxy
              simp [proxy, home] at isProxy
          exact reported_pushObserved other notHome
    · exact .refl moved domain

theorem reported_report (moved : EntryRef) (movedProxy : Proxy) (isViewSphere : Bool)
    (home : domain.visibilitySphere containing = none)
    (ofView : isViewSphere = true → ∃ sphere : ViewSphere, movedProxy = sphere.proxy)
    (overlaps : List Overlap) :
    Reported moved domain (domain.report moved movedProxy isViewSphere overlaps) := by
  apply run_invariant_of_step (Reported moved domain)
  · intro middle overlap reported
    have homeMiddle : middle.visibilitySphere containing = none := by
      rw [reported.same]
      exact home
    exact reported.trans (reported_overlapped homeMiddle ofView overlap)
  · exact .refl moved domain

section

variable {x y : EntryRef} {changes : List (EntryRef × VisibilityChange)}

theorem mem_observerChanges
    (other : ∀ change ∈ changes, ¬ (x = entry ∧ y = change.1)) :
    y ∈ (changes.foldl (observerChange entry) domain).observedByThis x ↔
      y ∈ domain.observedByThis x := by
  induction changes generalizing domain with
  | nil => rfl
  | cons change rest ih =>
    have apart := other change mem_cons_self
    rw [foldl_cons, ih fun later isLater => other later (mem_cons_of_mem _ isLater)]
    rcases change with ⟨observed, _ | _⟩
    · exact mem_insertObserved.trans (or_iff_right apart)
    · exact mem_eraseObserved.trans (and_iff_left apart)

theorem mem_observedChanges
    (other : ∀ change ∈ changes, ¬ (x = change.1 ∧ y = entry)) :
    y ∈ (changes.foldl (observedChange entry) domain).observedByThis x ↔
      y ∈ domain.observedByThis x := by
  induction changes generalizing domain with
  | nil => rfl
  | cons change rest ih =>
    have apart := other change mem_cons_self
    rw [foldl_cons, ih fun later isLater => other later (mem_cons_of_mem _ isLater)]
    rcases change with ⟨observer, _ | _⟩
    · exact mem_insertObserved.trans (or_iff_right apart)
    · exact mem_eraseObserved.trans (and_iff_left apart)

end

theorem tidy_updateObserverEntry (tidy : Tidy fresh domain) (entry : EntryRef)
    (overlaps : List Overlap)
    (settles : ∀ other, fresh other →
      wider other ∨ other = entry ∧ (domain.viewSphere entry).isSome = true) :
    Tidy wider (domain.updateObserverEntry entry overlaps) := by
  unfold updateObserverEntry
  cases views : domain.viewSphere entry with
  | none =>
    apply tidy.mono
    intro other isFresh
    rcases settles other isFresh with isWider | ⟨-, isSome⟩
    · exact isWider
    · simp [views] at isSome
  | some sphere =>
    have reported : Tidy fresh (domain.report entry sphere.proxy true overlaps) :=
      (reported_report entry _ true tidy.home (fun _ => ⟨sphere, rfl⟩) overlaps).tidy tidy
    have updated := (quiet_observerChanges entry _
      ((domain.report entry sphere.proxy true overlaps).observedByThisChanges entry)).tidy reported
    constructor
    · exact updated.next_pos
    · exact updated.home
    · exact updated.viewing
    · intro other change isChange
      by_cases isEntry : other = entry
      · subst isEntry
        simp at isChange
      · simp only [Function.update_of_ne isEntry] at isChange
        refine ⟨(updated.waiting other change isChange).1, fun notWider => ?_⟩
        apply (updated.waiting other change isChange).2
        intro isFresh
        rcases settles other isFresh with isWider | ⟨isEntry', -⟩
        · exact notWider isWider
        · exact isEntry isEntry'
    · exact updated.awaited

/-- An entry and itself, or the domain's entity. -/
def Near (observer observed : EntryRef) : Prop :=
  observed = observer ∨ observed = containing

/-- The views of the entity and of the entity of the domain are kept. -/
structure Steady (domain after : SightDomain) : Prop where
  tidy : Tidy (fun _ => False) after
  entries : after.entries = domain.entries
  viewSphere : after.viewSphere = domain.viewSphere
  mem_iff : ∀ {observer observed}, Near observer observed →
    (observed ∈ after.observedByThis observer ↔ observed ∈ domain.observedByThis observer)

theorem Steady.refl (tidy : Tidy (fun _ => False) domain) : Steady domain domain :=
  ⟨tidy, rfl, rfl, fun _ => Iff.rfl⟩

theorem Steady.trans {middle : SightDomain} (first : Steady domain middle)
    (second : Steady middle after) : Steady domain after where
  tidy := second.tidy
  entries := second.entries.trans first.entries
  viewSphere := second.viewSphere.trans first.viewSphere
  mem_iff near := (second.mem_iff near).trans (first.mem_iff near)

section

variable (tidy : Tidy (fun _ => False) domain)

include tidy

theorem steady_updateObserverEntry (entry : EntryRef)
    (overlaps : List Overlap) : Steady domain (domain.updateObserverEntry entry overlaps) := by
  have after : Tidy (fun _ => False) (domain.updateObserverEntry entry overlaps) :=
    tidy_updateObserverEntry tidy entry overlaps fun _ isFresh => .inl isFresh
  revert after
  unfold updateObserverEntry
  cases views : domain.viewSphere entry with
  | none => exact fun _ => .refl tidy
  | some sphere =>
    intro after
    have report := reported_report entry sphere.proxy true tidy.home
      (fun _ => ⟨sphere, rfl⟩) overlaps
    have reported := report.tidy tidy
    have quiet := quiet_observerChanges entry (domain.report entry sphere.proxy true overlaps)
      ((domain.report entry sphere.proxy true overlaps).observedByThisChanges entry)
    refine ⟨after, ?_, ?_, ?_⟩
    · exact quiet.entries.trans (by rw [report.same])
    · exact quiet.viewSphere.trans (by rw [report.same])
    · intro observer observed near
      refine (mem_observerChanges ?_).trans (by rw [report.same])
      rintro change isChange ⟨rfl, rfl⟩
      have apart := reported.waiting observer change isChange
      rcases near with isSelf | isHome
      · exact apart.1 isSelf
      · exact apart.2 id isHome

theorem steady_updateObservedEntry (entry : EntryRef)
    (overlaps : List Overlap) (generateOps : Bool) :
    Steady domain (domain.updateObservedEntry entry overlaps generateOps) := by
  unfold updateObservedEntry
  cases seen : domain.visibilitySphere entry with
  | none => exact .refl tidy
  | some sphere =>
    have report := reported_report entry sphere.proxy false tidy.home
      (fun isView => by cases isView) overlaps
    have reported := report.tidy tidy
    have quiet := quiet_observedChanges entry (domain.report entry sphere.proxy false overlaps)
      ((domain.report entry sphere.proxy false overlaps).observingThisChanges entry)
    have updated := quiet.tidy reported
    refine ⟨⟨updated.next_pos, updated.home, updated.viewing, updated.waiting, ?_⟩, ?_, ?_, ?_⟩
    · intro other change isChange
      exact updated.awaited other change (mem_update_nil isChange)
    · exact quiet.entries.trans (by rw [report.same])
    · exact quiet.viewSphere.trans (by rw [report.same])
    · intro observer observed near
      refine (mem_observedChanges ?_).trans (by rw [report.same])
      rintro change isChange ⟨rfl, rfl⟩
      rcases near with isSelf | isHome
      · exact reported.awaited observed change isChange isSelf.symm
      · simp [isHome, tidy.home] at seen

theorem steady_updateDirty (entry : EntryRef)
    (overlaps : EntryRef → SphereKind → List Overlap) :
    Steady domain (updateDirty overlaps domain entry) := by
  have observed := steady_updateObservedEntry tidy entry (overlaps entry .visibility) true
  have updated := observed.trans
    (steady_updateObserverEntry observed.tidy entry (overlaps entry .view))
  exact { updated with tidy := (Quiet.of_sets rfl).tidy updated.tidy }

theorem steady_updateVisibility
    (overlaps : EntryRef → SphereKind → List Overlap) :
    Steady domain (domain.updateVisibilityOfDirtyEntities overlaps) := by
  have updated : Steady domain (domain.dirty.foldl (updateDirty overlaps) domain) :=
    run_invariant_of_step (Steady domain)
      (fun middle entry steady => steady.trans (steady_updateDirty steady.tidy entry overlaps))
      (.refl tidy) _
  exact { updated with tidy := (Quiet.of_sets rfl).tidy updated.tidy }

theorem steady_run_updates
    (updates : List (EntryRef → SphereKind → List Overlap)) :
    Steady domain (run step domain (updates.map .updateVisibility)) := by
  apply run_invariant_of_mem (Steady domain)
  · intro middle event isEvent steady
    rcases List.mem_map.mp isEvent with ⟨overlaps, -, rfl⟩
    exact steady.trans (steady_updateVisibility steady.tidy overlaps)
  · exact .refl tidy

end

/-! ## Steps -/

theorem tidy_setViewSphere (tidy : Tidy fresh domain) (entry : EntryRef)
    (sphere : Option ViewSphere)
    (perceives : sphere.isSome = true → entry ≠ containing → domain.perceptive entry = true) :
    Tidy fresh (domain.setViewSphere entry sphere) := by
  refine { tidy with viewing := ?_ }
  intro other inside views
  by_cases same : other = entry
  · subst same
    simp only [setViewSphere, Function.update_self] at views
    exact perceives views inside
  · simp only [setViewSphere, Function.update_of_ne same] at views
    exact tidy.viewing other inside views

theorem tidy_newEntry (tidy : Tidy (fun _ => False) domain) (added : AddedEntity) :
    Tidy (fun _ => False) (domain.newEntry added) := by
  have notHome : containing ≠ domain.next := Nat.ne_of_lt tidy.next_pos
  constructor
  · exact Nat.succ_pos domain.next
  · simp only [newEntry, Function.update_of_ne notHome]
    exact tidy.home
  · intro entry inside views
    by_cases isNew : entry = domain.next
    · simp [newEntry, isNew] at views
    · simp only [newEntry, Function.update_of_ne isNew] at views ⊢
      exact tidy.viewing entry inside views
  · intro entry change isChange
    exact tidy.waiting entry change (mem_update_nil isChange)
  · intro entry change isChange
    exact tidy.awaited entry change (mem_update_nil isChange)

theorem tidy_addView (tidy : Tidy (fun _ => False) domain) (inside : entry ≠ containing)
    (perceives : domain.perceptive entry = true) (admin : Bool) (overlaps : List Overlap) :
    Tidy (· = entry) (domain.addView entry admin overlaps) := by
  have viewing : Tidy (fun _ => False) (domain.setViewSphere entry (some ⟨admin⟩)) :=
    tidy_setViewSphere tidy entry _ fun _ _ => perceives
  have pushed : Tidy (· = entry)
      ((domain.setViewSphere entry (some ⟨admin⟩)).pushObserved entry (containing, .add)) := by
    refine ⟨viewing.next_pos, viewing.home, viewing.viewing, ?_, viewing.awaited⟩
    intro other change isChange
    rcases mem_pushObserved.mp isChange with earlier | ⟨rfl, rfl⟩
    · have apart := viewing.waiting other change earlier
      exact ⟨apart.1, fun _ => apart.2 id⟩
    · exact ⟨inside.symm, fun notFresh => absurd rfl notFresh⟩
  have reported := (reported_report entry (ViewSphere.mk admin).proxy true pushed.home
    (fun _ => ⟨_, rfl⟩) overlaps).tidy pushed
  exact (Quiet.of_sets rfl).tidy reported

section

variable (home : domain.visibilitySphere containing = none)

include home

theorem observes_containing {sphere : ViewSphere}
    (views : domain.viewSphere entry = some sphere)
    {earlier later : List (EntryRef × VisibilityChange)}
    (changes : domain.observedByThisChanges entry = earlier ++ (containing, .add) :: later)
    (others : ∀ change ∈ later, change.1 ≠ containing) (overlaps : List Overlap) :
    containing ∈ (domain.updateObserverEntry entry overlaps).observedByThis entry := by
  have report := reported_report entry sphere.proxy true home (fun _ => ⟨sphere, rfl⟩) overlaps
  rcases report.waiting with ⟨new, isNew, aboutNew⟩
  have reportedChanges : (domain.report entry sphere.proxy true overlaps).observedByThisChanges
      entry = earlier ++ (containing, .add) :: (later ++ new) := by
    rw [isNew, Function.update_self, changes]
    simp
  simp only [updateObserverEntry, views, reportedChanges, foldl_append, foldl_cons]
  rw [← foldl_append]
  apply (mem_observerChanges ?_).mpr
  · exact mem_insertObserved.mpr (.inl ⟨rfl, rfl⟩)
  · rintro change isChange ⟨-, isHome⟩
    rcases List.mem_append.mp isChange with inLater | inNew
    · exact others change inLater isHome.symm
    · exact (aboutNew change inNew).2 isHome.symm

theorem addView_waiting (admin : Bool)
    (overlaps : List Overlap) :
    (domain.addView entry admin overlaps).viewSphere entry = some ⟨admin⟩ ∧
      (domain.addView entry admin overlaps).entries = domain.entries ∧
      ∃ later, (domain.addView entry admin overlaps).observedByThisChanges entry =
          domain.observedByThisChanges entry ++ (containing, .add) :: later ∧
        ∀ change ∈ later, change.1 ≠ containing := by
  have reported := reported_report entry (ViewSphere.mk admin).proxy true
    (show ((domain.setViewSphere entry (some ⟨admin⟩)).pushObserved entry
      (containing, .add)).visibilitySphere containing = none from home)
    (fun _ => ⟨_, rfl⟩) overlaps
  rcases reported.waiting with ⟨new, isNew, aboutNew⟩
  refine ⟨?_, ?_, new, ?_, fun change isChange => (aboutNew change isChange).2⟩
  · change (report _ entry _ true overlaps).viewSphere entry = _
    rw [reported.same]
    simp [pushObserved, setViewSphere]
  · change (report _ entry _ true overlaps).entries = _
    rw [reported.same]
    rfl
  · change (report _ entry _ true overlaps).observedByThisChanges entry = _
    rw [isNew]
    simp [pushObserved, setViewSphere]

theorem entries_updateObserverEntry
    (entry : EntryRef) (overlaps : List Overlap) :
    (domain.updateObserverEntry entry overlaps).entries = domain.entries := by
  unfold updateObserverEntry
  cases domain.viewSphere entry with
  | none => rfl
  | some sphere =>
    have report := reported_report entry sphere.proxy true home (fun _ => ⟨sphere, rfl⟩) overlaps
    have quiet := quiet_observerChanges entry (domain.report entry sphere.proxy true overlaps)
      ((domain.report entry sphere.proxy true overlaps).observedByThisChanges entry)
    exact quiet.entries.trans (by rw [report.same])

end

theorem observedByThisChanges_addToContaining (entry : EntryRef) :
    (domain.addToContaining entry).observedByThisChanges = domain.observedByThisChanges := by
  unfold addToContaining
  split
  · rfl
  · rfl

section

variable (tidy : Tidy (fun _ => False) domain)

include tidy

theorem steady_added (inside : entry ≠ containing)
    (perceives : domain.perceptive entry = true) (admin : Bool)
    (viewAdded viewUpdated visibilityUpdated : List Overlap) :
    let viewing := (domain.addView entry admin viewAdded).addToContaining entry
    let after := (viewing.updateObserverEntry entry viewUpdated).updateObservedEntry entry
      visibilityUpdated false
    Tidy (fun _ => False) after ∧ after.entries = domain.entries ∧
      containing ∈ after.observedByThis entry := by
  intro viewing after
  rcases @addView_waiting domain entry tidy.home admin viewAdded with
    ⟨views, entries, later, changes, others⟩
  have quiet := quiet_addToContaining (domain.addView entry admin viewAdded) entry
  have isTidy : Tidy (· = entry) viewing :=
    quiet.tidy (tidy_addView tidy inside perceives admin viewAdded)
  have viewsToo : viewing.viewSphere entry = some ⟨admin⟩ := by rw [quiet.viewSphere, views]
  have updated : Tidy (fun _ => False) (viewing.updateObserverEntry entry viewUpdated) := by
    apply tidy_updateObserverEntry isTidy
    rintro other rfl
    exact .inr ⟨rfl, by simp [viewsToo]⟩
  have steady := steady_updateObservedEntry updated entry visibilityUpdated false
  have waiting : viewing.observedByThisChanges entry =
      domain.observedByThisChanges entry ++ (containing, .add) :: later :=
    (congrFun (observedByThisChanges_addToContaining entry) entry).trans changes
  have observes : containing ∈
      (viewing.updateObserverEntry entry viewUpdated).observedByThis entry :=
    observes_containing isTidy.home viewsToo waiting others viewUpdated
  refine ⟨steady.tidy, ?_, (steady.mem_iff (.inr rfl)).mpr observes⟩
  rw [steady.entries, entries_updateObserverEntry isTidy.home, quiet.entries, entries]

theorem tidy_addEntity (added : AddedEntity) :
    Tidy (fun _ => False) (domain.addEntity added) ∧
      (added.hasPosition = true → added.perceptive = true →
        (domain.addEntity added).find added.id = some domain.next ∧
          containing ∈ (domain.addEntity added).observedByThis domain.next) := by
  have inside : domain.next ≠ containing := Nat.ne_of_gt tidy.next_pos
  have report := reported_report domain.next (VisibilitySphere.mk added.hidden).proxy false
    (tidy_newEntry tidy added).home (fun isView => by cases isView) added.visibilityAdded
  have created := report.tidy (tidy_newEntry tidy added)
  unfold addEntity
  cases added.hasPosition with
  | false => exact ⟨tidy, by rintro ⟨⟩⟩
  | true =>
  cases isPerceptive : added.perceptive with
  | false =>
    have inContaining := (quiet_addToContaining _ domain.next).tidy created
    have observing := steady_updateObserverEntry inContaining domain.next added.viewUpdated
    have observed := steady_updateObservedEntry observing.tidy domain.next
      added.visibilityUpdated false
    exact ⟨observed.tidy, by rintro - ⟨⟩⟩
  | true =>
    have perceives : ((domain.newEntry added).report domain.next
        (VisibilitySphere.mk added.hidden).proxy false added.visibilityAdded).perceptive
          domain.next = true := by
      rw [report.same]
      simp [newEntry, isPerceptive]
    rcases steady_added created inside perceives added.admin added.viewAdded added.viewUpdated
      added.visibilityUpdated with ⟨isTidy, entries, observes⟩
    refine ⟨isTidy, fun _ _ => ⟨?_, observes⟩⟩
    have isFirst := entries.trans (show _ = (added.id, domain.next) :: domain.entries by
      rw [report.same]
      rfl)
    simp only [if_true, find, isFirst, lookup_cons_self]

theorem tidy_removeEntity (id : Int) : Tidy (fun _ => False) (domain.removeEntity id) := by
  unfold removeEntity
  cases domain.find id with
  | none => exact tidy
  | some entry =>
    have quiet := ((quiet_forget domain entry).trans (quiet_unmark _ entry)).trans
      (quiet_removeFromContaining _ entry)
    have left := quiet.tidy tidy
    refine ⟨left.next_pos, ?_, ?_, ?_, ?_⟩
    · by_cases isEntry : containing = entry
      · simp [destroy, isEntry]
      · simp only [destroy, Function.update_of_ne isEntry]
        exact left.home
    · intro other inside views
      by_cases isEntry : other = entry
      · simp [destroy, isEntry] at views
      · simp only [destroy, Function.update_of_ne isEntry] at views
        exact left.viewing other inside views
    · intro other change isChange
      exact left.waiting other change (mem_update_nil isChange)
    · intro other change isChange
      exact left.awaited other change (mem_update_nil isChange)

theorem tidy_applyPerception (entry : EntryRef) :
    Tidy (fun _ => False) (domain.applyPerception entry true) := by
  refine { tidy with viewing := ?_ }
  intro other inside views
  by_cases same : other = entry
  · simp [applyPerception, same]
  · simp only [applyPerception, Function.update_of_ne same]
    exact tidy.viewing other inside views

end

/-- It is given a view in the domain. -/
def givenView (domain : SightDomain) (entry : EntryRef) (admin : Bool) (overlaps : List Overlap) :
    SightDomain :=
  (((domain.insertObserving containing entry).report entry (ViewSphere.mk admin).proxy false
    overlaps).setViewSphere entry (some ⟨admin⟩)).observeItself entry

theorem toggleOn_eq (perceives : domain.perceptive entry = true) (admin : Bool)
    (viewAdded viewUpdated : List Overlap) :
    domain.toggleChildPerception entry admin viewAdded viewUpdated =
      if (domain.viewSphere entry).isNone = true then
        (domain.givenView entry admin viewAdded).updateObserverEntry entry viewUpdated
      else domain := by
  rw [toggleChildPerception, perceives]
  rfl

section

variable (tidy : Tidy (fun _ => False) domain)

include tidy

theorem tidy_givenView
    (perceives : domain.perceptive entry = true) (admin : Bool) (overlaps : List Overlap) :
    Tidy (fun _ => False) (domain.givenView entry admin overlaps) := by
  have inContaining : Tidy (fun _ => False) (domain.insertObserving containing entry) :=
    (Quiet.of_sets rfl).tidy tidy
  have reported := reported_report entry (ViewSphere.mk admin).proxy false inContaining.home
    (fun isView => by cases isView) overlaps
  have viewing := tidy_setViewSphere (reported.tidy inContaining) entry (some ⟨admin⟩) (by
    intro _ _
    rw [reported.same]
    exact perceives)
  exact (quiet_observeItself _ entry).tidy viewing

theorem givenView_spec (inside : entry ≠ containing)
    (admin : Bool) (overlaps : List Overlap) :
    (domain.givenView entry admin overlaps).entries = domain.entries ∧
      ((domain.givenView entry admin overlaps).viewSphere entry).isSome = true ∧
      entry ∈ (domain.givenView entry admin overlaps).observedByThis entry ∧
      (containing ∈ (domain.givenView entry admin overlaps).observedByThis entry ↔
        containing ∈ domain.observedByThis entry) := by
  have inContaining : Tidy (fun _ => False) (domain.insertObserving containing entry) :=
    (Quiet.of_sets rfl).tidy tidy
  have reported := reported_report entry (ViewSphere.mk admin).proxy false inContaining.home
    (fun isView => by cases isView) overlaps
  refine ⟨?_, ?_, ?_, ?_⟩
  · change (report _ entry _ false overlaps).entries = _
    rw [reported.same]
    rfl
  · simp [givenView, observeItself, setViewSphere, SightDomain.insertObserving, insertObserved]
  · exact mem_insertObserved.mpr (.inl ⟨rfl, rfl⟩)
  · have apart : ¬ (entry = entry ∧ containing = entry) := fun same => inside same.2.symm
    refine (mem_insertObserved.trans (or_iff_right apart)).trans ?_
    change containing ∈ (report _ entry _ false overlaps).observedByThis entry ↔ _
    rw [reported.same]
    exact Iff.rfl

theorem tidy_toggleOn
    (perceives : domain.perceptive entry = true) (admin : Bool)
    (viewAdded viewUpdated : List Overlap) :
    Tidy (fun _ => False) (domain.toggleChildPerception entry admin viewAdded viewUpdated) := by
  rw [toggleOn_eq perceives]
  split
  · exact (steady_updateObserverEntry (tidy_givenView tidy perceives admin viewAdded) entry
      viewUpdated).tidy
  · exact tidy

end

section

variable (admin : Bool) (viewAdded viewUpdated : List Overlap)

theorem toggleOff_eq :
    (domain.applyPerception entry false).toggleChildPerception entry admin viewAdded viewUpdated =
      if (domain.viewSphere entry).isSome = true then
        ((domain.applyPerception entry false).setViewSphere entry none).eraseObserving containing
          entry
      else domain.applyPerception entry false := by
  have blind : (domain.applyPerception entry false).perceptive entry = false := by
    simp [applyPerception]
  rw [toggleChildPerception, blind]
  rfl

theorem toggleOff_observedByThis :
    ((domain.applyPerception entry false).toggleChildPerception entry admin viewAdded
      viewUpdated).observedByThis = domain.observedByThis := by
  rw [toggleOff_eq]
  by_cases views : (domain.viewSphere entry).isSome = true
  · rw [if_pos views]
    rfl
  · rw [if_neg views]
    rfl

end

section

variable (tidy : Tidy (fun _ => False) domain)

include tidy

theorem tidy_toggleOff (entry : EntryRef) (admin : Bool)
    (viewAdded viewUpdated : List Overlap) :
    Tidy (fun _ => False) ((domain.applyPerception entry false).toggleChildPerception entry admin
      viewAdded viewUpdated) := by
  rw [toggleOff_eq]
  by_cases views : (domain.viewSphere entry).isSome = true
  · rw [if_pos views]
    refine { tidy with viewing := ?_ }
    intro other inside otherViews
    by_cases same : other = entry
    · subst same
      simp [SightDomain.eraseObserving, setViewSphere] at otherViews
    · simp only [SightDomain.eraseObserving, setViewSphere, applyPerception,
        Function.update_of_ne same] at otherViews ⊢
      exact tidy.viewing other inside otherViews
  · rw [if_neg views]
    refine { tidy with viewing := ?_ }
    intro other inside otherViews
    by_cases same : other = entry
    · subst same
      exact absurd otherViews views
    · simp only [applyPerception, Function.update_of_ne same]
      exact tidy.viewing other inside otherViews

theorem tidy_move (entry : EntryRef) (admin : Bool)
    (overlaps : MoveOverlaps) :
    Tidy (fun _ => False) (domain.applyNewPositionForEntity entry admin overlaps) := by
  have view : Tidy (fun _ => False) (domain.moveView entry overlaps.view) := by
    unfold moveView
    split
    · exact tidy
    · next sphere _ =>
        exact (reported_report entry sphere.proxy true tidy.home (fun _ => ⟨sphere, rfl⟩)
          overlaps.view).tidy tidy
  have visibility : Tidy (fun _ => False)
      ((domain.moveView entry overlaps.view).moveVisibility entry overlaps.visibility) := by
    unfold moveVisibility
    split
    · exact view
    · next sphere _ =>
        exact (reported_report entry sphere.proxy false view.home (fun isView => by cases isView)
          overlaps.visibility).tidy view
  unfold applyNewPositionForEntity
  cases admin with
  | false => exact (quiet_mark _ entry).tidy visibility
  | true =>
    exact (quiet_mark _ entry).tidy
      (steady_updateObserverEntry visibility entry overlaps.viewUpdated).tidy

theorem tidy_step (event : SightEvent) : Tidy (fun _ => False) (domain.step event) := by
  cases event with
  | addEntity added => exact (tidy_addEntity tidy added).1
  | removeEntity id => exact tidy_removeEntity tidy id
  | perception id perceptive admin viewAdded viewUpdated =>
    simp only [step]
    cases domain.find id with
    | none => exact tidy
    | some entry =>
      cases perceptive with
      | true =>
        exact tidy_toggleOn (tidy_applyPerception tidy entry)
          (by simp [applyPerception]) admin viewAdded viewUpdated
      | false => exact tidy_toggleOff tidy entry admin viewAdded viewUpdated
  | ownPerception perceptive =>
    refine { tidy with viewing := ?_ }
    intro other inside views
    simp only [step, applyPerception, Function.update_of_ne inside]
    exact tidy.viewing other inside views
  | move id admin overlaps =>
    simp only [step]
    cases domain.find id with
    | none => exact tidy
    | some entry => exact tidy_move tidy entry admin overlaps
  | mark id =>
    simp only [step]
    cases domain.find id with
    | none => exact tidy
    | some entry => exact (quiet_mark domain entry).tidy tidy
  | updateVisibility overlaps => exact (steady_updateVisibility tidy overlaps).tidy

end

theorem tidy_run (owner : Int) (perceptive : Bool) (events : List SightEvent) :
    Tidy (fun _ => False) (run step (initial owner perceptive) events) :=
  run_invariant_of_step (Tidy fun _ => False) (fun _ event tidy => tidy_step tidy event)
    (tidy_initial owner perceptive) events

/-- No entry waits for itself to be seen, and only perceptive entries have a view. -/
theorem run_noneAwaitsItself (owner : Int) (perceptive : Bool) (events : List SightEvent) :
    let final := run step (initial owner perceptive) events
    ∀ entry, (∀ change ∈ final.observedByThisChanges entry ++ final.observingThisChanges entry,
        change.1 ≠ entry) ∧
      (entry ≠ containing → (final.viewSphere entry).isSome = true →
        final.perceptive entry = true) := by
  have tidy := tidy_run owner perceptive events
  intro final entry
  refine ⟨fun change isChange => ?_, tidy.viewing entry⟩
  rcases mem_append.mp isChange with waits | awaited
  · exact (tidy.waiting entry change waits).1
  · exact tidy.awaited entry change awaited

/-- Entry of an entity, or of the domain's. -/
def entryOf (domain : SightDomain) : Option Int → Option EntryRef
  | none => some containing
  | some id => domain.find id

/-- Who observes whom. -/
def Observes (domain : SightDomain) (observer observed : Option Int) : Prop :=
  ∃ seer ∈ domain.entryOf observer, ∃ seen ∈ domain.entryOf observed,
    seen ∈ domain.observedByThis seer

/-- What updates after a change find. -/
structure Toggle where
  admin : Bool
  viewAdded : List Overlap
  viewUpdated : List Overlap
  updates : List (EntryRef → SphereKind → List Overlap)

/-- Perception, and visibility updates. -/
def toggled (domain : SightDomain) (id : Int) (perceptive : Bool) (toggle : Toggle) : SightDomain :=
  run step domain (.perception id perceptive toggle.admin toggle.viewAdded toggle.viewUpdated ::
    toggle.updates.map .updateVisibility)

/-- Removed, added again, and updated. -/
def readded (domain : SightDomain) (added : AddedEntity)
    (updates : List (EntryRef → SphereKind → List Overlap)) : SightDomain :=
  run step domain (.removeEntity added.id :: .addEntity added :: updates.map .updateVisibility)

/-- The same as to be added perceptive. -/
def LikeAdded (domain : SightDomain) (toggle : Toggle) (added : AddedEntity)
    (updates : List (EntryRef → SphereKind → List Overlap)) : Prop :=
  ∀ observer observed, (domain.toggled added.id true toggle).Observes observer observed ↔
    (domain.readded added updates).Observes observer observed

/-- Ceasing to be perceptive, it observes nothing. -/
def LeavesNothing (domain : SightDomain) (id : Int) (on off : Toggle) : Prop :=
  ∀ observed, ¬ ((domain.toggled id true on).toggled id false off).Observes (some id) observed

theorem Steady.find (steady : Steady domain after) (id : Int) : after.find id = domain.find id := by
  rw [SightDomain.find, SightDomain.find, steady.entries]

section

variable (tidy : Tidy (fun _ => False) domain) {id : Int} (found : domain.find id = some entry)

include tidy found

theorem toggledOn_spec (inside : entry ≠ containing)
    (blind : domain.perceptive entry = false) (on : Toggle) :
    Tidy (fun _ => False) (domain.toggled id true on) ∧
      (domain.toggled id true on).find id = some entry ∧
      entry ∈ (domain.toggled id true on).observedByThis entry ∧
      (containing ∈ (domain.toggled id true on).observedByThis entry ↔
        containing ∈ domain.observedByThis entry) := by
  have noView : ((domain.applyPerception entry true).viewSphere entry).isNone = true := by
    change (domain.viewSphere entry).isNone = true
    by_contra views
    have perceives := tidy.viewing entry inside (by simpa [isSome_iff_ne_none] using views)
    simp [blind] at perceives
  have applied := tidy_applyPerception tidy entry
  have perceives : (domain.applyPerception entry true).perceptive entry = true := by
    simp [applyPerception]
  have given := tidy_givenView applied perceives on.admin on.viewAdded
  rcases givenView_spec applied inside on.admin on.viewAdded with
    ⟨entries, -, itself, observesHome⟩
  have updated := steady_updateObserverEntry given entry on.viewUpdated
  have steady := updated.trans (steady_run_updates updated.tidy on.updates)
  have isToggled : domain.toggled id true on =
      run step (((domain.applyPerception entry true).givenView entry on.admin
        on.viewAdded).updateObserverEntry entry on.viewUpdated)
          (on.updates.map .updateVisibility) := by
    rw [toggled, run_cons]
    simp only [step, found, elim_some]
    rw [toggleOn_eq perceives, if_pos noView]
  rw [isToggled]
  refine ⟨steady.tidy, ?_, (steady.mem_iff (.inl rfl)).mpr itself,
    (steady.mem_iff (.inr rfl)).trans observesHome⟩
  rw [steady.find, SightDomain.find, entries]
  exact found

theorem toggledOff_spec (itself : entry ∈ domain.observedByThis entry)
    (off : Toggle) :
    (domain.toggled id false off).find id = some entry ∧
      entry ∈ (domain.toggled id false off).observedByThis entry := by
  have toggledOff := tidy_toggleOff tidy entry off.admin off.viewAdded off.viewUpdated
  have steady := steady_run_updates toggledOff off.updates
  have isToggled : domain.toggled id false off =
      run step ((domain.applyPerception entry false).toggleChildPerception entry off.admin
        off.viewAdded off.viewUpdated) (off.updates.map .updateVisibility) := by
    rw [toggled, run_cons]
    simp only [step, found, elim_some]
  rw [isToggled]
  constructor
  · have entries : ((domain.applyPerception entry false).toggleChildPerception entry off.admin
        off.viewAdded off.viewUpdated).entries = domain.entries := by
      rw [toggleOff_eq]
      split
      · rfl
      · rfl
    rw [steady.find, SightDomain.find, entries]
    exact found
  · rw [steady.mem_iff (.inl rfl), toggleOff_observedByThis]
    exact itself

end

theorem readded_spec (tidy : Tidy (fun _ => False) domain) {added : AddedEntity}
    (hasPosition : added.hasPosition = true) (perceives : added.perceptive = true)
    (updates : List (EntryRef → SphereKind → List Overlap)) :
    (domain.readded added updates).Observes (some added.id) none := by
  have removed := tidy_removeEntity tidy added.id
  rcases tidy_addEntity removed added with ⟨isTidy, observes⟩
  rcases observes hasPosition perceives with ⟨found, observesHome⟩
  have steady := steady_run_updates isTidy updates
  refine ⟨_, ?_, containing, rfl, (steady.mem_iff (.inr rfl)).mpr observesHome⟩
  exact (steady.find added.id).trans found

/-- After it has become perceptive and ceased to be so, an entity never observes just what it
should. -/
theorem run_toggled (owner : Int) (ownPerceptive : Bool) (events : List SightEvent)
    {added : AddedEntity} {entry : EntryRef}
    (found : (run step (initial owner ownPerceptive) events).find added.id = some entry)
    (inside : entry ≠ containing)
    (blind : (run step (initial owner ownPerceptive) events).perceptive entry = false)
    (hasPosition : added.hasPosition = true) (perceives : added.perceptive = true)
    (on off : Toggle) (updates : List (EntryRef → SphereKind → List Overlap)) :
    (containing ∉ (run step (initial owner ownPerceptive) events).observedByThis entry →
      ¬ (run step (initial owner ownPerceptive) events).LikeAdded on added updates) ∧
    ¬ (run step (initial owner ownPerceptive) events).LeavesNothing added.id on off := by
  have tidy := tidy_run owner ownPerceptive events
  rcases toggledOn_spec tidy found inside blind on with ⟨onTidy, onFound, itself, observesHome⟩
  constructor
  · intro unseen likeAdded
    have observes := readded_spec tidy hasPosition perceives updates
    rcases (likeAdded _ _).mpr observes with ⟨seer, isSeer, seen, isSeen, sees⟩
    obtain rfl := Option.some.inj (onFound.symm.trans isSeer)
    obtain rfl := Option.some.inj isSeen
    exact unseen (observesHome.mp sees)
  · intro leavesNothing
    rcases toggledOff_spec onTidy onFound itself off with ⟨offFound, stillItself⟩
    exact leavesNothing (some added.id) ⟨entry, offFound, entry, offFound, stillItself⟩

/-- The broad phase finds nothing. -/
def Toggle.alone : Toggle :=
  { admin := false, viewAdded := [], viewUpdated := [], updates := [] }

/-- It is added without, and becomes perceptive. -/
theorem toggled_alone :
    (containing ∉ (run step (initial 1 false) [.addEntity (.alone 2 false)]).observedByThis 1 →
      ¬ (run step (initial 1 false) [.addEntity (.alone 2 false)]).LikeAdded .alone
        (.alone 2 true) []) ∧
    ¬ (run step (initial 1 false) [.addEntity (.alone 2 false)]).LeavesNothing 2 .alone .alone :=
  @run_toggled 1 false [.addEntity (.alone 2 false)] (.alone 2 true) 1 rfl (by decide) rfl rfl rfl
    .alone .alone []

/-- It would observe the domain's entity. -/
theorem toggled_not_like_added :
    ¬ ((run step (initial 1 false) [.addEntity (.alone 2 false)]).LikeAdded .alone
        (.alone 2 true) [] ∧
      (run step (initial 1 false) [.addEntity (.alone 2 false)]).LeavesNothing 2 .alone .alone) ∧
    ((run step (initial 1 false) [.addEntity (.alone 2 false)]).readded (.alone 2 true)
      []).observedByThis 2 = [0, 2] ∧
    ((run step (initial 1 false) [.addEntity (.alone 2 false)]).toggled 2 true
      .alone).observedByThis 1 = [1] ∧
    (((run step (initial 1 false) [.addEntity (.alone 2 false)]).toggled 2 true .alone).toggled 2
      false .alone).observedByThis 1 = [1] := by
  refine ⟨?_, by decide +kernel, by decide +kernel, by decide +kernel⟩
  rintro ⟨-, leavesNothing⟩
  exact leavesNothing (some 2) ⟨1, by decide +kernel, 1, by decide +kernel, by decide +kernel⟩

end SightDomain

end Cyphesis.Simulation
