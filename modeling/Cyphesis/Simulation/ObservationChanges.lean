import Cyphesis.Simulation.ObservationRelation

/-!
# Observers when entities are added and removed

A new entry closes the gap towards the domain's own entity with the first change that it handles.
-/

namespace Cyphesis.Simulation

open Cyphesis.Foundation List
open Function

namespace SightDomain

variable {domain after : SightDomain} {gap wider : EntryRef → EntryRef → Prop}
  {entry observer observed other : EntryRef}

variable {id : Int}

theorem find_eq_none (absent : domain.find id = none) : id ∉ domain.entries.map Prod.fst := by
  intro isKey
  obtain ⟨⟨key, entry⟩, isEntry, rfl⟩ := List.mem_map.mp isKey
  have different := List.lookup_eq_none_iff.mp absent (key, entry) isEntry
  simp at different

theorem mem_live_of_find (found : domain.find id = some entry) : (id, entry) ∈ domain.entries := by
  obtain ⟨before, later, split, -⟩ := List.lookup_eq_some_iff.mp found
  rw [split]
  simp

theorem Kept.newEntry (kept : Whole domain) {added : AddedEntity}
    (absent : domain.find added.id = none) : Whole (domain.newEntry added) := by
  have fresh : domain.next ∉ domain.live := fun isLive =>
    Nat.lt_irrefl _ (kept.bounded _ isLive)
  have old : ∀ {at' : EntryRef}, at' ∈ domain.live → at' ≠ domain.next := by
    rintro at' isLive rfl
    exact fresh isLive
  constructor
  case keys => exact List.nodup_cons.mpr ⟨find_eq_none absent, kept.keys⟩
  case refs => exact List.nodup_cons.mpr ⟨fresh, kept.refs⟩
  case home => exact mem_cons_of_mem _ kept.home
  case homeView =>
    simp only [SightDomain.newEntry, update_of_ne (old kept.home)]
    exact kept.homeView
  case bounded =>
    intro at' isLive
    rcases List.mem_cons.mp isLive with rfl | isLive
    · exact Nat.lt_succ_self _
    · exact Nat.lt_succ_of_lt (kept.bounded at' isLive)
  case viewing =>
    intro at' views
    by_cases same : at' = domain.next
    · simp [SightDomain.newEntry, same] at views
    · simp only [SightDomain.newEntry, update_of_ne same] at views ⊢
      obtain ⟨isLive, perceives⟩ := kept.viewing at' views
      exact ⟨mem_cons_of_mem _ isLive, perceives⟩
  case visible =>
    intro at' isVisible
    by_cases same : at' = domain.next
    · rw [same]
      exact mem_cons_self
    · simp only [SightDomain.newEntry, update_of_ne same] at isVisible
      exact mem_cons_of_mem _ (kept.visible at' isVisible)
  case agree =>
    intro x y _
    have agreed := kept.agree x y id
    by_cases first : x = domain.next
    · by_cases second : y = domain.next
      · simp [SightDomain.newEntry, first, second]
      · simp only [SightDomain.newEntry, first, update_self, update_of_ne second]
        refine iff_of_false not_mem_nil fun seen => fresh (kept.observing y _ seen).1
    · by_cases second : y = domain.next
      · simp only [SightDomain.newEntry, second, update_self, update_of_ne first]
        refine iff_of_false (fun sees => fresh (kept.observed x _ sees).2.1) not_mem_nil
      · simp only [SightDomain.newEntry, update_of_ne first, update_of_ne second]
        exact agreed
  case observed =>
    intro x y sees
    have isOld := mem_update_nil sees
    obtain ⟨observerLive, observedLive, perceives⟩ := kept.observed x y isOld
    refine ⟨mem_cons_of_mem _ observerLive, mem_cons_of_mem _ observedLive, ?_⟩
    simpa only [SightDomain.newEntry, update_of_ne (old observerLive)] using perceives
  case observing =>
    intro y x seen
    obtain ⟨observerLive, observedLive⟩ := kept.observing y x (mem_update_nil seen)
    exact ⟨mem_cons_of_mem _ observerLive, mem_cons_of_mem _ observedLive⟩
  case waiting =>
    intro at' change isChange
    obtain ⟨views, bound⟩ := kept.waiting at' change (mem_update_nil isChange)
    have different := old (kept.viewing at' views).1
    refine ⟨?_, Nat.lt_succ_of_lt bound⟩
    simpa only [SightDomain.newEntry, update_of_ne different] using views
  case awaited =>
    intro at' change isChange
    obtain ⟨isLive, bound, views⟩ := kept.awaited at' change (mem_update_nil isChange)
    refine ⟨mem_cons_of_mem _ isLive, Nat.lt_succ_of_lt bound, fun changeLive => ?_⟩
    -- a change that waits cannot name the new entry
    have different : change.1 ≠ domain.next := Nat.ne_of_lt bound
    have named := views ((List.mem_cons.mp changeLive).resolve_left different)
    simpa only [SightDomain.newEntry, update_of_ne different] using named

theorem Kept.setViewSphere (kept : Kept gap domain) (isLive : entry ∈ domain.live)
    (isOther : entry ≠ containing) (perceives : domain.perceptive entry = true)
    (sphere : ViewSphere) :
    Kept gap (domain.setViewSphere entry (some sphere)) := by
  have stays : ∀ at', (domain.viewSphere at').isSome →
      ((domain.setViewSphere entry (some sphere)).viewSphere at').isSome := by
    intro at' views
    by_cases same : at' = entry
    · simp [SightDomain.setViewSphere, same]
    · simpa [SightDomain.setViewSphere, same] using views
  refine { kept with homeView := ?_, viewing := ?_, waiting := ?_, awaited := ?_ }
  · simp only [SightDomain.setViewSphere, update_of_ne isOther.symm]
    exact kept.homeView
  · intro at' views
    by_cases same : at' = entry
    · rw [same]
      exact ⟨isLive, perceives⟩
    · simp only [SightDomain.setViewSphere, update_of_ne same] at views
      exact kept.viewing at' views
  · intro at' change isChange
    obtain ⟨views, bound⟩ := kept.waiting at' change isChange
    exact ⟨stays at' views, bound⟩
  · intro at' change isChange
    obtain ⟨atLive, bound, views⟩ := kept.awaited at' change isChange
    exact ⟨atLive, bound, fun changeLive => stays change.1 (views changeLive)⟩

section

variable (domain) (entry) (proxy : Proxy) (overlaps : List Overlap)

theorem report_observedByThisChanges :
    ∃ more, (domain.report entry proxy true overlaps).observedByThisChanges entry =
      domain.observedByThisChanges entry ++ more := by
  apply run_invariant_of_step (fun after : SightDomain =>
    ∃ more, after.observedByThisChanges entry = domain.observedByThisChanges entry ++ more)
  · rintro middle overlap ⟨more, isMore⟩
    rcases overlapped_cases entry proxy true middle overlap with same | ⟨_, -, -, same⟩
    · exact ⟨more, by rw [same, isMore]⟩
    · exact ⟨more ++ [(overlap.other, overlap.change)], by simp [same, pushObserved, isMore]⟩
  · exact ⟨[], (append_nil _).symm⟩

theorem report_visibility_observedByThisChanges :
    (domain.report entry proxy false overlaps).observedByThisChanges =
      domain.observedByThisChanges := by
  apply run_invariant_of_step (fun after : SightDomain =>
    after.observedByThisChanges = domain.observedByThisChanges)
  · intro middle overlap isSame
    rcases overlapped_cases entry proxy false middle overlap with same | ⟨_, -, -, same⟩
    · rw [same, isSame]
    · rw [same]
      exact isSame
  · rfl

end

theorem Kept.updateObserverEntry_first {rest : List (EntryRef × VisibilityChange)}
    (kept : Kept gap domain) (views : (domain.viewSphere entry).isSome)
    (first : domain.observedByThisChanges entry = (other, .add) :: rest)
    (closes : ∀ x y, gap x y → wider x y ∨ x = entry ∧ y = other)
    (live : ∀ change ∈ domain.observedByThisChanges entry, change.1 ∈ domain.live)
    (overlaps : List Overlap) : Kept wider (domain.updateObserverEntry entry overlaps) := by
  obtain ⟨sphere, isSphere⟩ := Option.isSome_iff_exists.mp views
  simp only [SightDomain.updateObserverEntry, isSphere]
  obtain ⟨keptReported, reported⟩ := @Kept.report_view _ _ _ sphere kept views overlaps
  obtain ⟨more, isMore⟩ := report_observedByThisChanges domain entry sphere.proxy overlaps
  have viewsReported :
      ((domain.report entry sphere.proxy true overlaps).viewSphere entry).isSome := by
    rwa [reported.viewSphere]
  have liveReported : ∀ change ∈ (other, VisibilityChange.add) :: (rest ++ more),
      change.1 ∈ (domain.report entry sphere.proxy true overlaps).live := by
    intro change isChange
    rw [← cons_append, ← first, ← isMore] at isChange
    rw [reported.live]
    exact (reported.waiting entry change isChange).elim (live change) id
  obtain ⟨entryLive, perceives⟩ := keptReported.viewing entry viewsReported
  apply Kept.finishObserver
  rw [isMore, first, cons_append, foldl_cons]
  have closed := keptReported.observe closes entryLive (liveReported _ mem_cons_self) perceives
  apply (Kept.observerChanges closed viewsReported _).1
  intro change isChange
  exact liveReported change (mem_cons_of_mem _ isChange)

theorem Kept.addToContaining (kept : Kept gap domain) (isLive : entry ∈ domain.live) :
    Kept gap (domain.addToContaining entry) ∧ Follows domain (domain.addToContaining entry) := by
  unfold SightDomain.addToContaining
  split
  · rename_i perceives
    constructor
    · exact kept.observe (fun _ _ isGap => Or.inl isGap) kept.home isLive perceives
    · exact { Follows.refl domain with }
  · exact ⟨kept, Follows.refl domain⟩

theorem addToContaining_observedByThisChanges (domain : SightDomain) (entry : EntryRef) :
    (domain.addToContaining entry).observedByThisChanges = domain.observedByThisChanges := by
  unfold addToContaining
  split <;> rfl

theorem Kept.addView (kept : Whole domain) (isLive : entry ∈ domain.live)
    (isOther : entry ≠ containing) (perceives : domain.perceptive entry = true) (admin : Bool)
    (overlaps : List Overlap) :
    Kept (fun x y => x = entry ∧ y = containing) (domain.addView entry admin overlaps) ∧
      Follows ((domain.setViewSphere entry (some ⟨admin⟩)).pushObserved entry (containing, .add))
        (domain.addView entry admin overlaps) := by
  have keptSphere := kept.setViewSphere isLive isOther perceives ⟨admin⟩
  have views : ((domain.setViewSphere entry (some ⟨admin⟩)).viewSphere entry).isSome := by
    simp [SightDomain.setViewSphere]
  have keptPushed :=
    (@Kept.pushObserved _ _ entry (containing, .add) keptSphere views keptSphere.home).1
  obtain ⟨keptReported, reported⟩ := @Kept.report_view _ _ entry ⟨admin⟩ keptPushed views overlaps
  have entryLive := (keptReported.viewing entry (by rwa [reported.viewSphere])).1
  have keptObserver := @Kept.insertObserving _ _ (fun x y => x = entry ∧ y = containing) entry
    containing keptReported (fun _ _ either => either.resolve_left id) entryLive keptReported.home
  constructor
  · refine keptObserver.observe (fun _ _ isGap => Or.inl isGap) entryLive entryLive ?_
    exact (congrFun reported.perceptive entry).trans perceives
  · exact reported.trans { Follows.refl _ with }

theorem addView_observedByThisChanges (none : domain.observedByThisChanges entry = [])
    (admin : Bool) (overlaps : List Overlap) :
    ∃ rest, (domain.addView entry admin overlaps).observedByThisChanges entry =
      (containing, .add) :: rest := by
  obtain ⟨more, isMore⟩ := report_observedByThisChanges
    ((domain.setViewSphere entry (some ⟨admin⟩)).pushObserved entry (containing, .add)) entry
    (ViewSphere.mk admin).proxy overlaps
  refine ⟨more, isMore.trans ?_⟩
  simp [pushObserved, setViewSphere, none]

theorem current_newEntry (domain : SightDomain) (added : AddedEntity) :
    (domain.newEntry added).Current domain.next := by
  constructor <;> simp [newEntry]

theorem current_push (kept : Whole domain) (current : domain.Current entry) (admin : Bool) :
    ((domain.setViewSphere entry (some ⟨admin⟩)).pushObserved entry (containing, .add)).Current
      entry := by
  constructor
  · intro change isChange
    rcases mem_pushObserved.mp isChange with isOld | ⟨-, rfl⟩
    · exact current.waiting change isOld
    · exact kept.home
  · exact current.awaited

theorem Kept.addEntity_blind (kept : Whole domain) (isLive : entry ∈ domain.live)
    (current : domain.Current entry) (view visibility : List Overlap) :
    let observing := (domain.addToContaining entry).updateObserverEntry entry view
    Whole (observing.updateObservedEntry entry visibility false) ∧
      Follows domain (observing.updateObservedEntry entry visibility false) := by
  obtain ⟨keptAdded, added⟩ := kept.addToContaining isLive
  have currentAdded := added.current current
  obtain ⟨keptUpdated, updated⟩ := keptAdded.updateObserverEntry currentAdded.waiting view
  have currentUpdated := updated.current currentAdded
  obtain ⟨keptSeen, seen⟩ :=
    keptUpdated.updateObservedEntry currentUpdated.awaited visibility false
  exact ⟨keptSeen, (added.trans updated).trans seen⟩

theorem Kept.addEntity_perceptive (kept : Whole domain) (isLive : entry ∈ domain.live)
    (isOther : entry ≠ containing) (perceives : domain.perceptive entry = true)
    (current : domain.Current entry)
    (none : domain.observedByThisChanges entry = []) (admin : Bool)
    (added view visibility : List Overlap) :
    let viewing := domain.addView entry admin added
    let observing := (viewing.addToContaining entry).updateObserverEntry entry view
    Whole (observing.updateObservedEntry entry visibility false) ∧
      Follows ((domain.setViewSphere entry (some ⟨admin⟩)).pushObserved entry (containing, .add))
        (observing.updateObservedEntry entry visibility false) := by
  obtain ⟨keptViewing, viewing⟩ := kept.addView isLive isOther perceives admin added
  have viewingLive : entry ∈ (domain.addView entry admin added).live := by
    rw [viewing.live]
    exact isLive
  obtain ⟨keptAdded, isAdded⟩ := keptViewing.addToContaining viewingLive
  have currentAdded := (viewing.trans isAdded).current (current_push kept current admin)
  have views : (((domain.addView entry admin added).addToContaining entry).viewSphere
      entry).isSome := by
    rw [(viewing.trans isAdded).viewSphere]
    simp [SightDomain.pushObserved, SightDomain.setViewSphere]
  obtain ⟨rest, first⟩ := addView_observedByThisChanges none admin added
  have keptUpdated : Whole (((domain.addView entry admin added).addToContaining
      entry).updateObserverEntry entry view) := by
    apply keptAdded.updateObserverEntry_first views _ (fun _ _ isGap => Or.inr isGap)
      currentAdded.waiting
    · exact rest
    · rw [addToContaining_observedByThisChanges]
      exact first
  obtain ⟨-, updated⟩ := keptAdded.updateObserverEntry currentAdded.waiting view
  obtain ⟨keptSeen, seen⟩ :=
    keptUpdated.updateObservedEntry (updated.current currentAdded).awaited visibility false
  exact ⟨keptSeen, ((viewing.trans isAdded).trans updated).trans seen⟩

/-- Perceptive ones have views. -/
def Equipped (but : List EntryRef) (domain : SightDomain) : Prop :=
  ∀ entry ∈ domain.live, entry ∉ but → domain.perceptive entry = true →
    (domain.viewSphere entry).isSome

variable {but : List EntryRef}

theorem Follows.equipped (follows : Follows domain after)
    (equipped : domain.Equipped but) : after.Equipped but := by
  intro entry isLive isNot perceives
  rw [follows.live] at isLive
  rw [follows.perceptive] at perceives
  rw [follows.viewSphere]
  exact equipped entry isLive isNot perceives

theorem Equipped.newEntry (equipped : domain.Equipped [containing]) (added : AddedEntity) :
    (domain.newEntry added).Equipped [containing, domain.next] := by
  intro entry isLive isNot perceives
  have different : entry ≠ domain.next := fun same => isNot (by simp [same])
  have isOld := (List.mem_cons.mp isLive).resolve_left different
  simp only [SightDomain.newEntry, update_of_ne different] at perceives ⊢
  exact equipped entry isOld (fun isBut => isNot (List.mem_cons.mpr (Or.inl
    (List.mem_singleton.mp isBut)))) perceives

section

variable {new : EntryRef} (equipped : domain.Equipped [containing, new])

include equipped

theorem equipped_of_new
    (blind : ¬ domain.perceptive new = true) : domain.Equipped [containing] := by
  intro entry isLive isNot perceives
  apply equipped entry isLive _ perceives
  intro isBut
  rcases List.mem_cons.mp isBut with isContaining | isNew
  · exact isNot (List.mem_singleton.mpr isContaining)
  · rw [List.mem_singleton.mp isNew] at perceives
    exact blind perceives

theorem Equipped.push
    (admin : Bool) :
    ((domain.setViewSphere new (some ⟨admin⟩)).pushObserved new (containing, .add)).Equipped
      [containing] := by
  intro entry isLive isNot perceives
  by_cases same : entry = new
  · simp [SightDomain.pushObserved, SightDomain.setViewSphere, same]
  · simp only [SightDomain.pushObserved, SightDomain.setViewSphere, update_of_ne same]
    apply equipped entry isLive _ perceives
    intro isBut
    rcases List.mem_cons.mp isBut with isContaining | isNew
    · exact isNot (List.mem_singleton.mpr isContaining)
    · exact same (List.mem_singleton.mp isNew)

end

theorem Kept.addEntity (kept : Whole domain) (equipped : domain.Equipped [containing])
    {added : AddedEntity} (absent : domain.find added.id = none) :
    Whole (domain.addEntity added) ∧ (domain.addEntity added).Equipped [containing] := by
  unfold SightDomain.addEntity
  split
  case isFalse => exact ⟨kept, equipped⟩
  case isTrue =>
    have keptNew := kept.newEntry absent
    have isLive : domain.next ∈ (domain.newEntry added).live := mem_cons_self
    obtain ⟨keptCreated, created⟩ := @Kept.report_visibility _ _ _ ⟨added.hidden⟩ keptNew isLive
      added.visibilityAdded
    have createdLive := created.live ▸ isLive
    have current := created.current (current_newEntry domain added)
    have allBut := created.equipped (equipped.newEntry added)
    have perception : ((domain.newEntry added).report domain.next
        (VisibilitySphere.mk added.hidden).proxy false added.visibilityAdded).perceptive
          domain.next = added.perceptive := by
      rw [created.perceptive]
      exact update_self ..
    cases isPerceptive : added.perceptive with
    | false =>
      simp only [Bool.false_eq_true, if_false]
      obtain ⟨keptAdded, isAdded⟩ := keptCreated.addEntity_blind createdLive current
        added.viewUpdated added.visibilityUpdated
      refine ⟨keptAdded, isAdded.equipped (equipped_of_new allBut fun perceives => ?_)⟩
      rw [perception, isPerceptive] at perceives
      contradiction
    | true =>
      simp only [if_true]
      have none : ((domain.newEntry added).report domain.next
          (VisibilitySphere.mk added.hidden).proxy false
          added.visibilityAdded).observedByThisChanges domain.next = [] := by
        rw [report_visibility_observedByThisChanges]
        exact update_self ..
      have isOther : domain.next ≠ containing := (Nat.ne_of_lt (kept.bounded _ kept.home)).symm
      obtain ⟨keptAdded, isAdded⟩ := keptCreated.addEntity_perceptive createdLive isOther
        (perception.trans isPerceptive) current none added.admin added.viewAdded
        added.viewUpdated added.visibilityUpdated
      exact ⟨keptAdded, isAdded.equipped (allBut.push added.admin)⟩

/-- Only sets and queue change. -/
structure OnlySets (domain after : SightDomain) : Prop where
  entries : after.entries = domain.entries
  next : after.next = domain.next
  perceptive : after.perceptive = domain.perceptive
  viewSphere : after.viewSphere = domain.viewSphere
  visibilitySphere : after.visibilitySphere = domain.visibilitySphere
  waiting : after.observedByThisChanges = domain.observedByThisChanges
  awaited : after.observingThisChanges = domain.observingThisChanges

theorem OnlySets.refl (domain : SightDomain) : OnlySets domain domain :=
  ⟨rfl, rfl, rfl, rfl, rfl, rfl, rfl⟩

theorem OnlySets.trans {middle : SightDomain} (first : OnlySets domain middle)
    (second : OnlySets middle after) : OnlySets domain after where
  entries := second.entries.trans first.entries
  next := second.next.trans first.next
  perceptive := second.perceptive.trans first.perceptive
  viewSphere := second.viewSphere.trans first.viewSphere
  visibilitySphere := second.visibilitySphere.trans first.visibilitySphere
  waiting := second.waiting.trans first.waiting
  awaited := second.awaited.trans first.awaited

theorem foldl_eraseObserved (observers : List EntryRef) (domain : SightDomain) (entry : EntryRef) :
    let after := observers.foldl (fun domain observer => domain.eraseObserved observer entry) domain
    OnlySets domain after ∧ after.observingThis = domain.observingThis ∧
      ∀ x y, y ∈ after.observedByThis x ↔
        y ∈ domain.observedByThis x ∧ ¬ (x ∈ observers ∧ y = entry) := by
  induction observers generalizing domain with
  | nil => exact ⟨OnlySets.refl domain, rfl, by simp⟩
  | cons first rest ih =>
    obtain ⟨only, observing, members⟩ := ih (domain.eraseObserved first entry)
    refine ⟨{ only with }, observing, fun x y => ?_⟩
    rw [foldl_cons, members, mem_eraseObserved, mem_cons]
    tauto

theorem foldl_eraseObserving (observeds : List EntryRef) (domain : SightDomain)
    (entry : EntryRef) :
    let after := observeds.foldl (fun domain observed => domain.eraseObserving observed entry)
      domain
    OnlySets domain after ∧ after.observedByThis = domain.observedByThis ∧
      ∀ x y, x ∈ after.observingThis y ↔
        x ∈ domain.observingThis y ∧ ¬ (y ∈ observeds ∧ x = entry) := by
  induction observeds generalizing domain with
  | nil => exact ⟨OnlySets.refl domain, rfl, by simp⟩
  | cons first rest ih =>
    obtain ⟨only, observedBy, members⟩ := ih (domain.eraseObserving first entry)
    refine ⟨{ only with }, observedBy, fun x y => ?_⟩
    rw [foldl_cons, members, mem_eraseObserving, mem_cons]
    tauto

theorem forget_spec (kept : Whole domain) (entry : EntryRef) :
    OnlySets domain (domain.forget entry) ∧
      (∀ x y, x ≠ entry → (y ∈ (domain.forget entry).observedByThis x ↔
        y ∈ domain.observedByThis x ∧ y ≠ entry)) ∧
      ∀ x y, y ≠ entry → (x ∈ (domain.forget entry).observingThis y ↔
        x ∈ domain.observingThis y ∧ x ≠ entry) := by
  obtain ⟨onlyFirst, observing, members⟩ :=
    foldl_eraseObserved (domain.observingThis entry) domain entry
  obtain ⟨onlySecond, observedBy, watchers⟩ := foldl_eraseObserving
    (((domain.observingThis entry).foldl
      (fun domain observer => domain.eraseObserved observer entry) domain).observedByThis entry)
    ((domain.observingThis entry).foldl
      (fun domain observer => domain.eraseObserved observer entry) domain) entry
  refine ⟨onlyFirst.trans onlySecond, fun x y different => ?_, fun x y different => ?_⟩
  · have agreed := kept.agree x entry id
    refine Iff.trans (by rw [SightDomain.forget, observedBy]) (Iff.trans (members x y) ?_)
    constructor
    · rintro ⟨sees, kept'⟩
      refine ⟨sees, ?_⟩
      rintro rfl
      exact kept' ⟨agreed.mp sees, rfl⟩
    · rintro ⟨sees, isOther⟩
      exact ⟨sees, fun ⟨_, same⟩ => isOther same⟩
  · have agreed := kept.agree entry y id
    refine Iff.trans (watchers x y) ?_
    rw [observing, members]
    constructor
    · rintro ⟨seen, kept'⟩
      refine ⟨seen, ?_⟩
      rintro rfl
      exact kept' ⟨⟨agreed.mpr seen, fun ⟨_, same⟩ => different same⟩, rfl⟩
    · rintro ⟨seen, isOther⟩
      exact ⟨seen, fun ⟨_, same⟩ => isOther same⟩

section

variable (domain) (entry)

theorem onlySets_unmark : OnlySets domain (domain.unmark entry) := by
  unfold unmark
  split <;> exact { OnlySets.refl domain with }

theorem unmark_sets :
    (domain.unmark entry).observedByThis = domain.observedByThis ∧
      (domain.unmark entry).observingThis = domain.observingThis := by
  unfold unmark
  split <;> exact ⟨rfl, rfl⟩

end

/-- Before one of its is destroyed. -/
def cleared (domain : SightDomain) (entry : EntryRef) : SightDomain :=
  ((domain.forget entry).unmark entry).removeFromContaining entry

theorem cleared_spec (kept : Whole domain) (blind : domain.perceptive containing = false)
    (entry : EntryRef) :
    OnlySets domain (domain.cleared entry) ∧
      (∀ x y, x ≠ entry → (y ∈ (domain.cleared entry).observedByThis x ↔
        y ∈ domain.observedByThis x ∧ y ≠ entry)) ∧
      ∀ x y, y ≠ entry → (x ∈ (domain.cleared entry).observingThis y ↔
        x ∈ domain.observingThis y ∧ x ≠ entry) := by
  obtain ⟨forgotten, sees, seen⟩ := forget_spec kept entry
  obtain ⟨sameObserved, sameObserving⟩ := unmark_sets (domain.forget entry) entry
  have unmarked := forgotten.trans (onlySets_unmark (domain.forget entry) entry)
  have stillBlind : ((domain.forget entry).unmark entry).perceptive containing = false := by
    rwa [unmarked.perceptive]
  have isErased : domain.cleared entry =
      ((domain.forget entry).unmark entry).eraseObserving containing entry := by
    simp [cleared, removeFromContaining, eraseObserving, stillBlind]
  rw [isErased]
  refine ⟨unmarked.trans { OnlySets.refl _ with }, fun x y different => ?_, fun x y different => ?_⟩
  · refine Iff.trans ?_ (sees x y different)
    rw [← sameObserved]
    rfl
  · rw [mem_eraseObserving, sameObserving, seen x y different]
    constructor
    · exact fun isSeen => isSeen.1
    · exact fun isSeen => ⟨isSeen, fun same => isSeen.2 same.1⟩

theorem mem_live_destroy (keys : (domain.entries.map Prod.fst).Nodup) (refs : domain.live.Nodup)
    (isEntry : (id, entry) ∈ domain.entries) {at' : EntryRef} :
    at' ∈ (domain.destroy id entry).live ↔ at' ∈ domain.live ∧ at' ≠ entry := by
  simp only [live, destroy, mem_map, mem_filter, decide_eq_true_eq]
  constructor
  · rintro ⟨⟨key, ref⟩, ⟨isOther, different⟩, rfl⟩
    refine ⟨⟨(key, ref), isOther, rfl⟩, fun same => different ?_⟩
    exact congrArg Prod.fst (inj_on_of_nodup_map refs isOther isEntry same)
  · rintro ⟨⟨⟨key, ref⟩, isOther, rfl⟩, different⟩
    refine ⟨(key, ref), ⟨isOther, fun same => different ?_⟩, rfl⟩
    exact congrArg Prod.snd (inj_on_of_nodup_map keys isOther isEntry same)

theorem update_none_isSome {α β : Type} [DecidableEq α] {values : α → Option β} {key at' : α}
    (isSome : (update values key none at').isSome) :
    at' ≠ key ∧ (values at').isSome := by
  by_cases same : at' = key
  · simp [same] at isSome
  · rw [update_of_ne same] at isSome
    exact ⟨same, isSome⟩

theorem mem_update_nil_ne {α β : Type} [DecidableEq α] {lists : α → List β} {key at' : α}
    {value : β} (isValue : value ∈ update lists key [] at') : at' ≠ key := by
  rintro rfl
  simp at isValue

/-- No other set names it. -/
theorem Kept.destroy (kept : Whole domain) (only : OnlySets domain after)
    (sees : ∀ x y, x ≠ entry → (y ∈ after.observedByThis x ↔
      y ∈ domain.observedByThis x ∧ y ≠ entry))
    (seen : ∀ x y, y ≠ entry → (x ∈ after.observingThis y ↔
      x ∈ domain.observingThis y ∧ x ≠ entry)) (isEntry : (id, entry) ∈ domain.entries)
    (isOther : entry ≠ containing) :
    Whole (after.destroy id entry) := by
  have sameLive : after.live = domain.live := by simp [live, only.entries]
  have isLive : ∀ {at'}, at' ∈ (after.destroy id entry).live ↔ at' ∈ domain.live ∧ at' ≠ entry := by
    intro at'
    rw [← sameLive]
    apply mem_live_destroy
    · rw [only.entries]
      exact kept.keys
    · rw [sameLive]
      exact kept.refs
    · rwa [only.entries]
  constructor
  case keys =>
    refine List.Nodup.sublist (List.Sublist.map _ filter_sublist) ?_
    rw [only.entries]
    exact kept.keys
  case refs =>
    refine List.Nodup.sublist (List.Sublist.map _ filter_sublist) ?_
    rw [only.entries]
    exact kept.refs
  case home => exact isLive.mpr ⟨kept.home, isOther.symm⟩
  case homeView =>
    simp only [SightDomain.destroy, update_of_ne isOther.symm, only.viewSphere]
    exact kept.homeView
  case bounded =>
    intro at' atLive
    exact only.next.symm ▸ kept.bounded at' (isLive.mp atLive).1
  case viewing =>
    intro at' views
    obtain ⟨different, viewsBefore⟩ := update_none_isSome views
    rw [only.viewSphere] at viewsBefore
    obtain ⟨atLive, perceives⟩ := kept.viewing at' viewsBefore
    exact ⟨isLive.mpr ⟨atLive, different⟩, (congrFun only.perceptive at').trans perceives⟩
  case visible =>
    intro at' isVisible
    obtain ⟨different, visibleBefore⟩ := update_none_isSome isVisible
    rw [only.visibilitySphere] at visibleBefore
    exact isLive.mpr ⟨kept.visible at' visibleBefore, different⟩
  case agree =>
    intro x y _
    have agreed := kept.agree x y not_false
    by_cases first : x = entry
    · by_cases second : y = entry
      · simp [SightDomain.destroy, first, second]
      · simp only [SightDomain.destroy, first, update_self, update_of_ne second]
        refine iff_of_false not_mem_nil fun isSeen => ((seen _ y second).mp isSeen).2 rfl
    · by_cases second : y = entry
      · simp only [SightDomain.destroy, second, update_self, update_of_ne first]
        refine iff_of_false (fun isSeen => ((sees x _ first).mp isSeen).2 rfl) not_mem_nil
      · simp only [SightDomain.destroy, update_of_ne first, update_of_ne second]
        rw [sees x y first, seen x y second, agreed]
        exact and_congr_right fun _ => iff_of_true second first
  case observed =>
    intro x y isSeen
    have different := mem_update_nil_ne isSeen
    obtain ⟨isBefore, isNot⟩ := (sees x y different).mp (mem_update_nil isSeen)
    obtain ⟨observerLive, observedLive, perceives⟩ := kept.observed x y isBefore
    exact ⟨isLive.mpr ⟨observerLive, different⟩, isLive.mpr ⟨observedLive, isNot⟩,
      (congrFun only.perceptive x).trans perceives⟩
  case observing =>
    intro y x isSeen
    have different := mem_update_nil_ne isSeen
    obtain ⟨isBefore, isNot⟩ := (seen x y different).mp (mem_update_nil isSeen)
    obtain ⟨observerLive, observedLive⟩ := kept.observing y x isBefore
    exact ⟨isLive.mpr ⟨observerLive, isNot⟩, isLive.mpr ⟨observedLive, different⟩⟩
  case waiting =>
    intro at' change isChange
    have different := mem_update_nil_ne isChange
    have isBefore := mem_update_nil isChange
    rw [only.waiting] at isBefore
    obtain ⟨views, bound⟩ := kept.waiting at' change isBefore
    refine ⟨?_, only.next.symm ▸ bound⟩
    simpa only [SightDomain.destroy, update_of_ne different, only.viewSphere] using views
  case awaited =>
    intro at' change isChange
    have different := mem_update_nil_ne isChange
    have isBefore := mem_update_nil isChange
    rw [only.awaited] at isBefore
    obtain ⟨atLive, bound, views⟩ := kept.awaited at' change isBefore
    refine ⟨isLive.mpr ⟨atLive, different⟩, only.next.symm ▸ bound, fun changeLive => ?_⟩
    obtain ⟨named, isNot⟩ := isLive.mp changeLive
    have viewsBefore := views named
    simpa only [SightDomain.destroy, update_of_ne isNot, only.viewSphere] using viewsBefore

theorem Equipped.destroy (equipped : domain.Equipped but)
    (only : OnlySets domain after) (keys : (domain.entries.map Prod.fst).Nodup)
    (refs : domain.live.Nodup) (isEntry : (id, entry) ∈ domain.entries) :
    (after.destroy id entry).Equipped but := by
  have sameLive : after.live = domain.live := by simp [live, only.entries]
  intro at' atLive isNot perceives
  obtain ⟨isLive, different⟩ := (mem_live_destroy (by rwa [only.entries]) (by rwa [sameLive])
    (by rwa [only.entries])).mp atLive
  simp only [SightDomain.destroy, update_of_ne different, only.viewSphere]
  apply equipped at' (sameLive ▸ isLive) isNot
  exact (congrFun only.perceptive at').symm.trans perceives

theorem Kept.removeEntity (kept : Whole domain) (equipped : domain.Equipped [containing])
    (allowed : ∀ entry ∈ domain.find id,
      entry ≠ containing ∧ domain.perceptive containing = false) :
    Whole (domain.removeEntity id) ∧ (domain.removeEntity id).Equipped [containing] := by
  cases found : domain.find id with
  | none =>
    simp only [SightDomain.removeEntity, found]
    exact ⟨kept, equipped⟩
  | some entry =>
    simp only [SightDomain.removeEntity, found]
    obtain ⟨isOther, blind⟩ := allowed entry found
    have isEntry := mem_live_of_find found
    obtain ⟨only, sees, seen⟩ := cleared_spec kept blind entry
    constructor
    · exact kept.destroy only sees seen isEntry isOther
    · exact equipped.destroy only kept.keys kept.refs isEntry

end SightDomain

end Cyphesis.Simulation
