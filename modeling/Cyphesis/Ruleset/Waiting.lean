import Cyphesis.Ruleset.Installation
import Cyphesis.Ruleset.Ruleset

/-!
# Waiting rules

Rules whose parent is missing are put on the waiting list, and released when the parent is
installed.
-/

namespace Cyphesis.Ruleset

open Std (ExtTreeMap)
open Cyphesis.Atlas List Option Std.ExtTreeMap
open Cyphesis.Foundation

namespace RuleBook

/-- Released, in order of names. -/
def readyList (book : RuleBook) (name : String) : List Description :=
  (book.readyRules name).toList.map Prod.snd

variable (entries : List (String × RuleWaiting)) (ready : RootDict)

theorem getElem?_foldl_insertIfNew
    (key : String) :
    (entries.foldl
      (fun ready entry => ready.insertIfNew entry.2.desc.id entry.2.desc) ready)[key]? =
      ready[key]?.or ((entries.find? fun entry => entry.2.desc.id = key).map (·.2.desc)) := by
  induction entries generalizing ready with
  | nil => simp
  | cons entry entries ih =>
    rw [foldl_cons, ih, getElem?_insertIfNew]
    by_cases same : entry.2.desc.id = key
    · subst same
      cases found : ready[entry.2.desc.id]? with
      | none => simp [mem_iff_isSome_getElem?, found]
      | some old => simp [mem_iff_isSome_getElem?, found]
    · simp [same]

theorem size_foldl_insertIfNew :
    (entries.foldl (fun ready entry => ready.insertIfNew entry.2.desc.id entry.2.desc)
      ready).size ≤ ready.size + entries.length := by
  induction entries generalizing ready with
  | nil => simp
  | cons entry entries ih =>
    rw [foldl_cons, length_cons]
    apply (ih _).trans
    rw [size_insertIfNew]
    split <;> omega

theorem readyRules_getElem? (book : RuleBook) (name key : String) :
    (book.readyRules name)[key]? =
      ((book.waitingRules.filter fun entry => entry.1 = name).find?
        fun entry => entry.2.desc.id = key).map (·.2.desc) := by
  rw [readyRules, getElem?_foldl_insertIfNew]
  simp

theorem mem_readyList {book : RuleBook} {name : String} {rule : Description}
    (ready : rule ∈ book.readyList name) :
    (book.readyRules name)[rule.id]? = some rule ∧
      ∃ entry ∈ book.waitingRules, entry.1 = name ∧ entry.2.desc = rule := by
  obtain ⟨⟨key, found⟩, listed, rfl⟩ := List.mem_map.mp ready
  have isReady := ExtTreeMap.mem_toList_iff_getElem?_eq_some.mp listed
  have isFound := isReady
  rw [readyRules_getElem?] at isFound
  obtain ⟨entry, isEntry, isDesc⟩ := Option.map_eq_some_iff.mp isFound
  have isKey := find?_some isEntry
  have isWaiting := mem_of_find?_eq_some isEntry
  simp only [decide_eq_true_eq] at isKey
  rw [List.mem_filter, decide_eq_true_eq] at isWaiting
  rw [isDesc] at isKey
  subst isKey
  exact ⟨isReady, entry, isWaiting.1, isWaiting.2, isDesc⟩

theorem length_readyList_le (book : RuleBook) (name : String) :
    (book.readyList name).length + (book.eraseWaiting name).waitingRules.length ≤
      book.waitingRules.length := by
  have size := size_foldl_insertIfNew (book.waitingRules.filter fun entry => entry.1 = name) ∅
  have split : (book.waitingRules.filter fun entry => entry.1 = name).length +
      (book.waitingRules.filter fun entry => entry.1 ≠ name).length = book.waitingRules.length := by
    have parts := length_eq_length_filter_add (l := book.waitingRules)
      (fun entry => decide (entry.1 = name))
    simp only [ne_eq, decide_not]
    exact parts.symm
  rw [readyList, length_map, ExtTreeMap.length_toList]
  simp only [size_empty, Nat.zero_add] at size
  unfold eraseWaiting
  simp only
  exact (Nat.add_le_add_right size _).trans split.le

theorem nodup_readyList (book : RuleBook) (name : String) :
    ((book.readyList name).map Description.id).Nodup := by
  have keys : (book.readyList name).map Description.id = (book.readyRules name).keys := by
    rw [readyList, List.map_map, ← map_fst_toList_eq_keys]
    apply map_congr_left
    rintro ⟨key, rule⟩ listed
    have isReady := ExtTreeMap.mem_toList_iff_getElem?_eq_some.mp listed
    rw [readyRules_getElem?] at isReady
    obtain ⟨entry, isEntry, isDesc⟩ := Option.map_eq_some_iff.mp isReady
    have isKey := find?_some isEntry
    simp only [decide_eq_true_eq] at isKey
    rw [isDesc] at isKey
    exact isKey
  rw [keys]
  exact nodup_keys

theorem installItem_succ (depth : Nat) (result : RuleBook × Changes) (rule : Description) :
    installItem (depth + 1) result rule =
      match result.1.installRuleInner result.2 rule with
      | .failed => result
      | .waits dependent reason => (result.1.waitForRule rule dependent reason, result.2)
      | .installed (book, changes) =>
        (book.readyList rule.id).foldl (installItem depth)
          (book.eraseWaiting rule.id, changes) := by
  rw [installItem]
  cases result.1.installRuleInner result.2 rule with
  | failed => rfl
  | waits dependent reason => rfl
  | installed installed =>
    simp only [readyList, foldl_eq_foldl_toList, foldl_map]

/-- What a successful install leaves. -/
def Succeeds (book changed : RuleBook) (rule : Description) : Prop :=
  Installed book changed rule ∨ (rule.objtype = .propertyType ∧ changed = book)

theorem Succeeds.waiting {book changed : RuleBook} {rule : Description}
    (succeeds : Succeeds book changed rule) : changed.waitingRules = book.waitingRules := by
  rcases succeeds with installed | ⟨-, rfl⟩
  · exact installed.waiting
  · rfl

theorem installItem_invariant {inv : RuleBook → Prop} {admits : Description → Prop}
    (waits : ∀ {book rule reason}, inv book → admits rule →
      inv (book.waitForRule rule rule.parent reason))
    (installs : ∀ {book changed rule}, inv book → admits rule → Succeeds book changed rule →
      inv (changed.eraseWaiting rule.id))
    (released : ∀ {book}, inv book → ∀ entry ∈ book.waitingRules, admits entry.2.desc)
    (depth : Nat) {result : RuleBook × Changes} {rule : Description} (holds : inv result.1)
    (admitted : admits rule) : inv (installItem depth result rule).1 := by
  induction depth generalizing result rule with
  | zero => exact holds
  | succ depth ih =>
    rw [installItem_succ]
    cases outcome : result.1.installRuleInner result.2 rule with
    | failed => exact holds
    | waits dependent reason =>
      obtain rfl := installRuleInner_waits outcome
      exact waits holds admitted
    | installed installed =>
      have succeeds : Succeeds result.1 installed.1 rule := installRuleInner_installed outcome
      have ready : ∀ ready ∈ installed.1.readyList rule.id, admits ready := by
        intro ready isReady
        obtain ⟨-, entry, isWaiting, -, rfl⟩ := mem_readyList isReady
        rw [succeeds.waiting] at isWaiting
        exact released holds entry isWaiting
      have start : inv (installed.1.eraseWaiting rule.id) := installs holds admitted succeeds
      have loop : ∀ (rules : List Description) (state : RuleBook × Changes), inv state.1 →
          (∀ ready ∈ rules, admits ready) → inv (rules.foldl (installItem depth) state).1 := by
        intro rules
        induction rules with
        | nil => exact fun state holds _ => holds
        | cons first rules inner =>
          intro state holds admitted
          apply inner
          · exact ih holds (admitted first mem_cons_self)
          · exact fun ready isReady => admitted ready (mem_cons_of_mem _ isReady)
      exact loop _ (_, installed.2) start ready

theorem length_waiting_foldl_le {install : RuleBook × Changes → Description → RuleBook × Changes}
    (one : ∀ state rule,
      (install state rule).1.waitingRules.length ≤ state.1.waitingRules.length + 1)
    (rules : List Description) (state : RuleBook × Changes) :
    (rules.foldl install state).1.waitingRules.length ≤
      state.1.waitingRules.length + rules.length := by
  induction rules generalizing state with
  | nil => exact Nat.le_refl _
  | cons first rules ih =>
    have rest := ih (install state first)
    have step := one state first
    rw [foldl_cons, length_cons]
    omega

theorem length_waiting_installItem_le (depth : Nat) (result : RuleBook × Changes)
    (rule : Description) :
    (installItem depth result rule).1.waitingRules.length ≤ result.1.waitingRules.length + 1 := by
  induction depth generalizing result rule with
  | zero => exact Nat.le_succ _
  | succ depth ih =>
    rw [installItem_succ]
    cases outcome : result.1.installRuleInner result.2 rule with
    | failed => exact Nat.le_succ _
    | waits dependent reason => simp [waitForRule]
    | installed installed =>
      have bound := length_waiting_foldl_le ih (installed.1.readyList rule.id)
        (installed.1.eraseWaiting rule.id, installed.2)
      have released := length_readyList_le installed.1 rule.id
      rw [Succeeds.waiting (installRuleInner_installed outcome)] at released
      simp only at bound ⊢
      omega

section

variable {name : String} {origin : Option String × Description} (depth : Nat)
  {result : RuleBook × Changes}

theorem origin_installItem (rule : Description)
    (known : result.1.origin name = some origin) :
    (installItem depth result rule).1.origin name = some origin := by
  have invariant := @installItem_invariant (fun book => book.origin name = some origin)
    (fun _ => True)
  apply invariant _ _ _ depth known trivial
  · exact fun known _ => known
  · rintro book changed rule known - (installed | ⟨-, rfl⟩)
    · have notNew : name ≠ rule.id := by
        rintro rfl
        have unknown := hasClass_eq_false_iff_origin.mp installed.unknown
        rw [known] at unknown
        contradiction
      exact (installed.types name notNew).trans known
    · exact known
  · exact fun _ _ _ => trivial

theorem origin_foldl_installItem (rules : List Description)
    (known : result.1.origin name = some origin) :
    (rules.foldl (installItem depth) result).1.origin name = some origin := by
  induction rules generalizing result with
  | nil => exact known
  | cons first rules ih => exact ih (origin_installItem depth first known)

end

section Succeeds

variable {book changed : RuleBook} {rule : Description} (success : Succeeds book changed rule)

include success

theorem Typed.succeeds (typed : book.Typed) : changed.Typed := by
  rcases success with installed | ⟨-, rfl⟩
  · intro name unknown
    have notNew : name ≠ rule.id := by
      rintro rfl
      rw [(installed.provides typed).1] at unknown
      contradiction
    rw [hasClass_eq_false_iff_origin, installed.types name notNew,
      ← hasClass_eq_false_iff_origin] at unknown
    exact (installed.kits name notNew).trans (typed name unknown)
  · exact typed

theorem Absent.succeeds {name : String} (absent : book.Absent name) (notNew : name ≠ rule.id) :
    changed.Absent name := by
  rcases success with installed | ⟨-, rfl⟩
  · constructor
    · rw [hasClass_eq_false_iff_origin, installed.types name notNew, ← hasClass_eq_false_iff_origin]
      exact absent.1
    · rw [contains_eq_isSome_getElem?, installed.manager name notNew, ← contains_eq_isSome_getElem?]
      exact absent.2
  · exact absent

theorem Provides.succeeds {name : String} {objtype : Objtype}
    (provides : book.Provides name objtype) : changed.Provides name objtype := by
  rcases success with installed | ⟨-, rfl⟩
  · have notNew : name ≠ rule.id := by
      rintro rfl
      have known := provides.1
      rw [installed.unknown] at known
      contradiction
    refine ⟨?_, ?_⟩
    · rw [hasClass_iff_origin, installed.types name notNew, ← hasClass_iff_origin]
      exact provides.1
    · have fits := provides.2
      rw [← installed.kits name notNew, contains_eq_isSome_getElem?,
        ← installed.manager name notNew, ← contains_eq_isSome_getElem?] at fits
      exact fits
  · exact provides

end Succeeds

section Repeated

variable (parent name : String) (objtype : Objtype)

/-- A class that is to come has a parent that is missing or of the right kind. -/
structure Outstanding (book : RuleBook) : Prop where
  typed : book.Typed
  notRoot : parent ≠ "game_entity"
  absent : book.Absent name
  above : book.Absent parent ∨ book.Provides parent objtype
  waiting : ∀ entry ∈ book.waitingRules, entry.2.desc.id ≠ name
  kinds : ∀ entry ∈ book.waitingRules, entry.2.desc.id = parent → entry.2.desc.objtype = objtype

/-- A class waits by its first rule. -/
structure Pending (first : Description) (book : RuleBook) : Prop where
  typed : book.Typed
  notRoot : parent ≠ "game_entity"
  absent : book.Absent name
  above : book.Absent parent
  first : (book.waitingRules.find? fun entry => entry.2.desc.id = name).map (·.2.desc) = some first
  keys : ∀ entry ∈ book.waitingRules, entry.2.desc.id = name → entry.1 = parent
  kinds : ∀ entry ∈ book.waitingRules, entry.2.desc.id = parent → entry.2.desc.objtype = objtype

/-- The rule has one parent, and that is of its kind. -/
structure Admitted (rule : Description) : Prop where
  own : rule.id = name → rule.parent = parent ∧ rule.objtype = objtype ∧ Acceptable rule
  above : rule.id = parent → rule.objtype = objtype

/-- A class waits with a certain first rule, or is installed by that rule. -/
def Settling (first : Description) (book : RuleBook) : Prop :=
  Pending parent name objtype first book ∨
    (book.hasClass parent = true ∧ book.origin name = some (some parent, first.bare))

variable {parent name objtype}

variable (depth : Nat) {result : RuleBook × Changes}

theorem Outstanding.installItem {rule : Description}
    (outstanding : Outstanding parent name objtype result.1)
    (admitted : Admitted parent name objtype rule) (isOther : rule.id ≠ name) :
    Outstanding parent name objtype (installItem depth result rule).1 := by
  have invariant := @installItem_invariant (Outstanding parent name objtype)
    (fun rule => rule.id ≠ name ∧ (rule.id = parent → rule.objtype = objtype))
  apply invariant _ _ _ depth outstanding ⟨isOther, admitted.above⟩
  · intro book rule reason outstanding admitted
    refine { outstanding with waiting := ?_, kinds := ?_ }
    · intro entry isEntry
      rcases List.mem_append.mp isEntry with isOld | isNew
      · exact outstanding.waiting entry isOld
      · obtain rfl := List.mem_singleton.mp isNew
        exact admitted.1
    · intro entry isEntry
      rcases List.mem_append.mp isEntry with isOld | isNew
      · exact outstanding.kinds entry isOld
      · obtain rfl := List.mem_singleton.mp isNew
        exact admitted.2
  · intro book changed rule outstanding admitted success
    have waiting : ∀ entry ∈ (changed.eraseWaiting rule.id).waitingRules,
        entry ∈ book.waitingRules := by
      intro entry isEntry
      rw [← success.waiting]
      exact (List.mem_filter.mp isEntry).1
    have typed : changed.Typed := outstanding.typed.succeeds success
    refine
      { typed := typed
        notRoot := outstanding.notRoot
        absent := outstanding.absent.succeeds success admitted.1.symm
        above := ?_
        waiting := fun entry isEntry => outstanding.waiting entry (waiting entry isEntry)
        kinds := fun entry isEntry => outstanding.kinds entry (waiting entry isEntry) }
    rcases outstanding.above with absent | provides
    · by_cases isParent : rule.id = parent
      · rcases success with installed | ⟨-, rfl⟩
        · have provides := installed.provides outstanding.typed
          rw [isParent, admitted.2 isParent] at provides
          exact Or.inr provides
        · exact Or.inl absent
      · exact Or.inl (absent.succeeds success (Ne.symm isParent))
    · exact Or.inr (provides.succeeds success)
  · intro book outstanding entry isEntry
    exact ⟨outstanding.waiting entry isEntry, outstanding.kinds entry isEntry⟩

theorem Outstanding.foldl_installItem {rules : List Description}
    {result : RuleBook × Changes} (outstanding : Outstanding parent name objtype result.1)
    (admitted : ∀ rule ∈ rules, Admitted parent name objtype rule ∧ rule.id ≠ name) :
    Outstanding parent name objtype (rules.foldl (RuleBook.installItem depth) result).1 := by
  induction rules generalizing result with
  | nil => exact outstanding
  | cons first rules ih =>
    apply ih
    · have isFirst := admitted first mem_cons_self
      exact outstanding.installItem depth isFirst.1 isFirst.2
    · exact fun rule isRest => admitted rule (mem_cons_of_mem _ isRest)

theorem Admitted.waits {book : RuleBook} {rule : Description}
    (admitted : Admitted parent name objtype rule) (isName : rule.id = name)
    (typed : book.Typed) (notRoot : parent ≠ "game_entity") (absent : book.Absent name)
    (above : book.Absent parent) (changes : Changes) :
    ∃ reason, book.installRuleInner changes rule = .waits rule.parent reason := by
  obtain ⟨isParent, -, acceptable⟩ := admitted.own isName
  subst isParent isName
  exact installRuleInner_of_absent changes acceptable typed above notRoot absent

/-- A rule that is submitted is installed, or waits. -/
theorem Outstanding.installItem_self
    {rule : Description} (outstanding : Outstanding parent name objtype result.1)
    (isName : rule.id = name) (admitted : Admitted parent name objtype rule) :
    Settling parent name objtype rule (RuleBook.installItem (depth + 1) result rule).1 := by
  obtain ⟨isParent, isKind, acceptable⟩ := admitted.own isName
  have absent := outstanding.absent
  rw [← isName] at absent
  rw [installItem_succ]
  rcases outstanding.above with missing | provides
  · obtain ⟨reason, waits⟩ := admitted.waits isName outstanding.typed outstanding.notRoot
      outstanding.absent missing result.2
    rw [waits]
    refine Or.inl
      { typed := outstanding.typed
        notRoot := outstanding.notRoot
        absent := outstanding.absent
        above := missing
        first := ?_
        keys := ?_
        kinds := ?_ }
    · have before : (result.1.waitingRules.find? fun entry => entry.2.desc.id = name) = none := by
        rw [find?_eq_none]
        intro entry isEntry
        simpa using outstanding.waiting entry isEntry
      simp [waitForRule, find?_append, before, isName]
    · intro entry isEntry isOwn
      rcases List.mem_append.mp isEntry with isOld | isNew
      · exact absurd isOwn (outstanding.waiting entry isOld)
      · obtain rfl := List.mem_singleton.mp isNew
        exact isParent
    · intro entry isEntry
      rcases List.mem_append.mp isEntry with isOld | isNew
      · exact outstanding.kinds entry isOld
      · obtain rfl := List.mem_singleton.mp isNew
        exact admitted.above
  · have ready : result.1.Ready rule := by
      rw [Ready, if_neg fun both => outstanding.notRoot (isParent.symm.trans both.2), isParent,
        isKind]
      exact provides
    obtain ⟨⟨changed, changes⟩, isInstalled, success⟩ :=
      installRuleInner_of_ready result.2 acceptable ready absent
    rw [isInstalled]
    have kept : ∀ other above, changed.origin other = some above →
        ((changed.readyList rule.id).foldl (RuleBook.installItem depth)
          (changed.eraseWaiting rule.id, changes)).1.origin other = some above := by
      intro other above known
      apply origin_foldl_installItem
      exact known
    have isNew := success.origin
    rw [isName, isParent] at isNew
    have known := (provides.succeeds (Or.inl success)).1
    rw [hasClass_iff_origin] at known
    obtain ⟨above, isAbove⟩ := Option.isSome_iff_exists.mp known
    refine Or.inr ⟨?_, kept name _ isNew⟩
    rw [hasClass_iff_origin]
    exact Option.isSome_iff_exists.mpr ⟨above, kept parent above isAbove⟩

variable {first : Description}

theorem Settling.foldl_done (depth : Nat) (rules : List Description)
    {result : RuleBook × Changes} (known : result.1.hasClass parent = true)
    (installed : result.1.origin name = some (some parent, first.bare)) :
    Settling parent name objtype first (rules.foldl (RuleBook.installItem depth) result).1 := by
  rw [hasClass_iff_origin] at known
  obtain ⟨above, isAbove⟩ := Option.isSome_iff_exists.mp known
  refine Or.inr ⟨?_, origin_foldl_installItem depth rules installed⟩
  rw [hasClass_iff_origin, origin_foldl_installItem depth rules isAbove, isSome_some]

theorem Pending.eraseWaiting {book changed : RuleBook} {rule : Description}
    (pending : Pending parent name objtype first book) (success : Succeeds book changed rule)
    (notOwn : rule.id ≠ name) (notParent : rule.id ≠ parent) :
    Pending parent name objtype first (changed.eraseWaiting rule.id) := by
  have typed : changed.Typed := pending.typed.succeeds success
  have waiting : ∀ entry ∈ (changed.eraseWaiting rule.id).waitingRules,
      entry ∈ book.waitingRules := by
    intro entry isEntry
    rw [← success.waiting]
    exact (List.mem_filter.mp isEntry).1
  refine
    { typed := typed
      notRoot := pending.notRoot
      absent := pending.absent.succeeds success notOwn.symm
      above := pending.above.succeeds success notParent.symm
      first := ?_
      keys := fun entry isEntry => pending.keys entry (waiting entry isEntry)
      kinds := fun entry isEntry => pending.kinds entry (waiting entry isEntry) }
  have first := pending.first
  have kept : ∀ entry ∈ book.waitingRules, entry.2.desc.id = name → entry.1 ≠ rule.id := by
    intro entry isEntry isOwn isErased
    exact notParent (isErased.symm.trans (pending.keys entry isEntry isOwn))
  have same : ((changed.eraseWaiting rule.id).waitingRules.find? fun entry =>
      entry.2.desc.id = name) = book.waitingRules.find? fun entry => entry.2.desc.id = name := by
    unfold RuleBook.eraseWaiting
    simp only [success.waiting]
    rw [← head?_filter, ← head?_filter, List.filter_filter]
    congr 1
    apply filter_congr
    intro entry isEntry
    by_cases isOwn : entry.2.desc.id = name
    · simp [isOwn, kept entry isEntry isOwn]
    · simp [isOwn]
  rw [same]
  exact first

variable {book : RuleBook} {rule : Description}

theorem Pending.waitForRule
    (pending : Pending parent name objtype first book) (reason : String)
    (admitted : Admitted parent name objtype rule) :
    Pending parent name objtype first (book.waitForRule rule rule.parent reason) := by
  refine { pending with first := ?_, keys := ?_, kinds := ?_ }
  · have isFirst := pending.first
    obtain ⟨entry, isEntry, -⟩ := Option.map_eq_some_iff.mp isFirst
    rw [RuleBook.waitForRule, find?_append, isEntry, some_or, ← isEntry]
    exact isFirst
  · intro entry isEntry isOwn
    rcases List.mem_append.mp isEntry with isOld | isNew
    · exact pending.keys entry isOld isOwn
    · obtain rfl := List.mem_singleton.mp isNew
      exact (admitted.own isOwn).1
  · intro entry isEntry
    rcases List.mem_append.mp isEntry with isOld | isNew
    · exact pending.kinds entry isOld
    · obtain rfl := List.mem_singleton.mp isNew
      exact admitted.above

theorem Pending.admitted
    (pending : Pending parent name objtype first book) {entry : String × RuleWaiting}
    (isEntry : entry ∈ book.waitingRules) (isOther : entry.1 ≠ parent) :
    Admitted parent name objtype entry.2.desc ∧ entry.2.desc.id ≠ name := by
  have notOwn : entry.2.desc.id ≠ name := fun isOwn => isOther (pending.keys entry isEntry isOwn)
  exact ⟨⟨fun isOwn => absurd isOwn notOwn, pending.kinds entry isEntry⟩, notOwn⟩

theorem Pending.readyList {book changed : RuleBook}
    (pending : Pending parent name objtype first book) (success : Succeeds book changed rule)
    (isParent : rule.id = parent) :
    ∃ before after, changed.readyList rule.id = before ++ first :: after ∧ first.id = name ∧
      (∀ ready ∈ before, ready.id ≠ name) ∧ (∀ ready ∈ after, ready.id ≠ name) := by
  have found : (book.waitingRules.filter fun entry => entry.1 = parent).find?
      (fun entry => entry.2.desc.id = name) =
        book.waitingRules.find? fun entry => entry.2.desc.id = name := by
    rw [← head?_filter, ← head?_filter, List.filter_filter]
    congr 1
    apply filter_congr
    intro entry isEntry
    by_cases isOwn : entry.2.desc.id = name
    · simp [isOwn, pending.keys entry isEntry isOwn]
    · simp [isOwn]
  have isReady : (changed.readyRules rule.id)[name]? = some first := by
    rw [readyRules_getElem?, success.waiting, isParent, found]
    exact pending.first
  have isFirst : first.id = name := by
    obtain ⟨entry, isEntry, rfl⟩ := Option.map_eq_some_iff.mp pending.first
    simpa using find?_some isEntry
  have listed : first ∈ changed.readyList rule.id := by
    apply List.mem_map.mpr
    exact ⟨(name, first), ExtTreeMap.mem_toList_iff_getElem?_eq_some.mpr isReady, rfl⟩
  obtain ⟨before, after, split⟩ := append_of_mem listed
  have distinct := nodup_readyList changed rule.id
  rw [split, map_append, map_cons, nodup_middle, nodup_cons, isFirst, mem_append] at distinct
  refine ⟨before, after, split, isFirst, ?_, ?_⟩
  · intro ready isBefore isOwn
    exact distinct.1 (Or.inl (List.mem_map.mpr ⟨ready, isBefore, isOwn⟩))
  · intro ready isAfter isOwn
    exact distinct.1 (Or.inr (List.mem_map.mpr ⟨ready, isAfter, isOwn⟩))

theorem Pending.released {book changed : RuleBook}
    (pending : Pending parent name objtype first book) (success : Succeeds book changed rule)
    (isParent : rule.id = parent) (notOwn : rule.id ≠ name) (isKind : rule.objtype = objtype) :
    Outstanding parent name objtype (changed.eraseWaiting rule.id) := by
  have typed : changed.Typed := pending.typed.succeeds success
  have waiting : ∀ entry ∈ (changed.eraseWaiting rule.id).waitingRules,
      entry ∈ book.waitingRules ∧ entry.1 ≠ rule.id := by
    intro entry isEntry
    rw [← success.waiting]
    obtain ⟨isOld, isKept⟩ := List.mem_filter.mp isEntry
    exact ⟨isOld, of_decide_eq_true isKept⟩
  refine
    { typed := typed
      notRoot := pending.notRoot
      absent := pending.absent.succeeds success notOwn.symm
      above := ?_
      waiting := ?_
      kinds := fun entry isEntry => pending.kinds entry (waiting entry isEntry).1 }
  · rcases success with installed | ⟨-, rfl⟩
    · have provides := installed.provides pending.typed
      rw [isParent, isKind] at provides
      exact Or.inr provides
    · exact Or.inl pending.above
  · intro entry isEntry isOwn
    obtain ⟨isOld, isKept⟩ := waiting entry isEntry
    exact isKept ((pending.keys entry isOld isOwn).trans isParent.symm)

/-- The class still waits, or is installed by its first rule. -/
theorem Pending.installItem {depth : Nat} (pending : Pending parent name objtype first result.1)
    (firstAdmitted : Admitted parent name objtype first)
    (admitted : Admitted parent name objtype rule) (notOwn : rule.id ≠ name)
    (enough : result.1.waitingRules.length + 1 ≤ depth) :
    Settling parent name objtype first (RuleBook.installItem depth result rule).1 := by
  induction depth generalizing result rule with
  | zero => omega
  | succ depth ih =>
    -- the rest of a release, once the class waits or is installed
    have loop : ∀ (rules : List Description) (state : RuleBook × Changes),
        Settling parent name objtype first state.1 →
        (∀ ready ∈ rules, Admitted parent name objtype ready ∧ ready.id ≠ name) →
        state.1.waitingRules.length + rules.length ≤ depth →
        Settling parent name objtype first (rules.foldl (RuleBook.installItem depth) state).1 := by
      intro rules
      induction rules with
      | nil => exact fun state settling _ _ => settling
      | cons next rules inner =>
        intro state settling admitted bound
        rcases settling with waits | ⟨known, installed⟩
        · have isNext := admitted next mem_cons_self
          have grows := length_waiting_installItem_le depth state next
          rw [length_cons] at bound
          apply inner
          · exact ih waits isNext.1 isNext.2 (by omega)
          · exact fun ready isRest => admitted ready (mem_cons_of_mem _ isRest)
          · omega
        · exact Settling.foldl_done depth _ known installed
    rw [installItem_succ]
    cases outcome : result.1.installRuleInner result.2 rule with
    | failed => exact Or.inl pending
    | waits dependent reason =>
      obtain rfl := installRuleInner_waits outcome
      exact Or.inl (pending.waitForRule reason admitted)
    | installed installed =>
      obtain ⟨changed, changes⟩ := installed
      have success : Succeeds result.1 changed rule := installRuleInner_installed outcome
      have released := length_readyList_le changed rule.id
      rw [success.waiting] at released
      simp only
      by_cases isParent : rule.id = parent
      · obtain ⟨before, after, split, isFirst, notBefore, notAfter⟩ :=
          pending.readyList success isParent
        have ready : ∀ ready ∈ changed.readyList rule.id, ready.id ≠ name →
            Admitted parent name objtype ready := by
          intro ready isReady isOther
          obtain ⟨-, entry, isEntry, -, rfl⟩ := mem_readyList isReady
          rw [success.waiting] at isEntry
          exact ⟨fun isOwn => absurd isOwn isOther, pending.kinds entry isEntry⟩
        rw [split] at ready released ⊢
        rw [length_append, length_cons] at released
        have outstanding : Outstanding parent name objtype
            (before.foldl (RuleBook.installItem depth)
              (changed.eraseWaiting rule.id, changes)).1 := by
          apply Outstanding.foldl_installItem
          · exact pending.released success isParent notOwn (admitted.above isParent)
          · intro other isBefore
            have isOther := notBefore other isBefore
            exact ⟨ready other (mem_append_left _ isBefore) isOther, isOther⟩
        have grows := length_waiting_foldl_le (length_waiting_installItem_le depth) before
          (changed.eraseWaiting rule.id, changes)
        rw [foldl_append, foldl_cons]
        have turn := length_waiting_installItem_le depth
          (before.foldl (RuleBook.installItem depth) (changed.eraseWaiting rule.id, changes))
          first
        simp only at grows
        apply loop
        · obtain ⟨more, rfl⟩ : ∃ more, depth = more + 1 := ⟨depth - 1, by omega⟩
          exact outstanding.installItem_self more isFirst firstAdmitted
        · intro other isAfter
          have isOther := notAfter other isAfter
          exact ⟨ready other (mem_append_right _ (mem_cons_of_mem _ isAfter)) isOther, isOther⟩
        · omega
      · apply loop
        · exact Or.inl (pending.eraseWaiting success notOwn isParent)
        · intro ready isReady
          obtain ⟨-, entry, isEntry, isKey, rfl⟩ := mem_readyList isReady
          rw [success.waiting] at isEntry
          exact pending.admitted isEntry (isKey ▸ isParent)
        · simp only
          omega

theorem Pending.installItem_self (depth : Nat)
    (pending : Pending parent name objtype first result.1)
    (admitted : Admitted parent name objtype rule) (isName : rule.id = name) :
    Pending parent name objtype first (RuleBook.installItem (depth + 1) result rule).1 := by
  obtain ⟨reason, waits⟩ := admitted.waits isName pending.typed pending.notRoot pending.absent
    pending.above result.2
  rw [installItem_succ, waits]
  exact pending.waitForRule reason admitted

/-- Nothing is known of the two. -/
structure Unheard (parent name : String) (book : RuleBook) : Prop where
  typed : book.Typed
  notRoot : parent ≠ "game_entity"
  absent : book.Absent name
  above : book.Absent parent
  waiting : ∀ entry ∈ book.waitingRules, entry.2.desc.id ≠ name ∧ entry.2.desc.id ≠ parent

theorem Unheard.outstanding (unheard : Unheard parent name book) :
    Outstanding parent name objtype book where
  typed := unheard.typed
  notRoot := unheard.notRoot
  absent := unheard.absent
  above := Or.inl unheard.above
  waiting entry isEntry := (unheard.waiting entry isEntry).1
  kinds entry isEntry isParent := absurd isParent (unheard.waiting entry isEntry).2

theorem hasClass_install {name : String} {result : RuleBook × Changes} (rule : Description)
    (known : result.1.hasClass name = true) : (install result rule).1.hasClass name = true := by
  rw [hasClass_iff_origin] at known ⊢
  obtain ⟨above, isAbove⟩ := Option.isSome_iff_exists.mp known
  rw [install, origin_installItem _ rule isAbove, isSome_some]

variable {submissions : List Description}

/-- Nothing of it until it waits. -/
theorem Unheard.run (unheard : Unheard parent name book) (changes : Changes)
    (admitted : ∀ rule ∈ submissions, Admitted parent name objtype rule)
    (missing : (submissions.foldl install (book, changes)).1.hasClass parent = false) :
    match submissions.find? fun rule => rule.id = name with
    | none => Outstanding parent name objtype (submissions.foldl install (book, changes)).1
    | some first =>
      Pending parent name objtype first (submissions.foldl install (book, changes)).1 := by
  induction submissions using List.reverseRecOn with
  | nil => exact unheard.outstanding
  | append_singleton submissions rule ih =>
    rw [foldl_append, foldl_cons, foldl_nil] at missing ⊢
    have missingBefore : (submissions.foldl install (book, changes)).1.hasClass parent = false := by
      apply Bool.eq_false_iff.mpr
      intro known
      rw [hasClass_install rule known] at missing
      contradiction
    have before := ih (fun other isOther => admitted other (mem_append_left _ isOther))
      missingBefore
    have isRule := admitted rule (mem_append_right _ (mem_singleton_self _))
    generalize submissions.foldl install (book, changes) = state at *
    rw [find?_append]
    cases found : submissions.find? fun rule => rule.id = name with
    | none =>
      rw [found] at before
      by_cases isOwn : rule.id = name
      · simp only [isOwn, find?_singleton, decide_true, if_true, none_or]
        rcases before.installItem_self _ isOwn isRule with waits | ⟨known, -⟩
        · exact waits
        · rw [install, installDepth] at missing
          rw [known] at missing
          contradiction
      · simp only [isOwn, find?_singleton, decide_false, Bool.false_eq_true, if_false, none_or]
        exact before.installItem _ isRule isOwn
    | some first =>
      rw [found] at before
      simp only [some_or]
      have firstAdmitted : Admitted parent name objtype first :=
        admitted first (mem_append_left _ (mem_of_find?_eq_some found))
      by_cases isOwn : rule.id = name
      · exact before.installItem_self _ isRule isOwn
      · rcases before.installItem firstAdmitted isRule isOwn (Nat.le_refl _) with
          waits | ⟨known, -⟩
        · exact waits
        · rw [install, installDepth] at missing
          rw [known] at missing
          contradiction

theorem keeps_updateClass {name : String} {node : TypeNode}
    (known : book.atlasObjects[name]? = some node) :
    Keeps book (book.updateClass name node.privateDescription) := by
  unfold updateClass
  rw [known]
  simp only [ne_eq, not_true_eq_false, if_false]
  exact keeps_setType known rfl

theorem keeps_publish (book : RuleBook) (changes : Changes) : Keeps book
    (book.publish changes) := by
  unfold publish
  rw [foldl_eq_foldl_toList]
  generalize changes.toList = entries
  induction entries generalizing book with
  | nil => exact Keeps.refl book
  | cons entry entries ih =>
    rw [foldl_cons]
    cases known : book.atlasObjects[entry.1]? with
    | none => exact ih book
    | some node => exact (keeps_updateClass known).trans (ih _)

theorem Absent.installRule {name : String} (absent : book.Absent name)
    {rule : Description} (notNew : name ≠ rule.id) : (book.installRule rule).1.Absent name := by
  unfold RuleBook.installRule
  cases outcome : book.installRuleInner ∅ rule with
  | failed => exact absent
  | waits dependent reason => exact absent
  | installed installed =>
    have changed := absent.succeeds (installRuleInner_installed outcome) notNew
    have keeps := keeps_publish installed.1 installed.2
    constructor
    · rw [hasClass_eq_false_iff_origin, keeps.types, ← hasClass_eq_false_iff_origin]
      exact changed.1
    · rw [keeps.manager]
      exact changed.2

theorem Typed.installRule (typed : book.Typed) (rule : Description) :
    (book.installRule rule).1.Typed := by
  unfold RuleBook.installRule
  cases outcome : book.installRuleInner ∅ rule with
  | failed => exact typed
  | waits dependent reason => exact typed
  | installed installed =>
    have changed := typed.succeeds (installRuleInner_installed outcome)
    have keeps := keeps_publish installed.1 installed.2
    intro name unknown
    rw [hasClass_eq_false_iff_origin, keeps.types, ← hasClass_eq_false_iff_origin] at unknown
    rw [keeps.kits]
    exact changed name unknown

theorem Admitted.installRule
    (admitted : Admitted parent name objtype rule) (isName : rule.id = name)
    (typed : book.Typed) (notRoot : parent ≠ "game_entity") (absent : book.Absent name)
    (above : book.Absent parent) : (book.installRule rule).1 = book := by
  obtain ⟨reason, waits⟩ := admitted.waits isName typed notRoot absent above ∅
  rw [RuleBook.installRule, waits]

theorem hasClass_installRule {name : String} (rule : Description)
    (known : book.hasClass name = true) : (book.installRule rule).1.hasClass name = true := by
  unfold RuleBook.installRule
  cases outcome : book.installRuleInner ∅ rule with
  | failed => exact known
  | waits dependent reason => exact known
  | installed installed =>
    have provides : book.Provides name .opDefinition := ⟨known, trivial⟩
    have kept := (provides.succeeds (installRuleInner_installed outcome)).1
    rw [hasClass_iff_origin, (keeps_publish installed.1 installed.2).types, ← hasClass_iff_origin]
    exact kept

theorem Unheard.run_installRule (unheard : Unheard parent name book)
    (admitted : ∀ rule ∈ submissions, Admitted parent name objtype rule)
    (missing : (submissions.foldl (fun book rule => (book.installRule rule).1) book).hasClass
      parent = false) :
    (submissions.foldl (fun book rule => (book.installRule rule).1) book).Typed ∧
    (submissions.foldl (fun book rule => (book.installRule rule).1) book).Absent name ∧
    (submissions.foldl (fun book rule => (book.installRule rule).1) book).Absent parent := by
  induction submissions using List.reverseRecOn with
  | nil => exact ⟨unheard.typed, unheard.absent, unheard.above⟩
  | append_singleton submissions rule ih =>
    rw [foldl_append, foldl_cons, foldl_nil] at missing ⊢
    have missingBefore : (submissions.foldl (fun book rule => (book.installRule rule).1)
        book).hasClass parent = false := by
      apply Bool.eq_false_iff.mpr
      intro known
      rw [hasClass_installRule rule known] at missing
      contradiction
    obtain ⟨typed, absent, above⟩ := ih
      (fun other isOther => admitted other (mem_append_left _ isOther)) missingBefore
    have isRule := admitted rule (mem_append_right _ (mem_singleton_self _))
    generalize submissions.foldl (fun book rule => (book.installRule rule).1) book = state at *
    by_cases isOwn : rule.id = name
    · rw [isRule.installRule isOwn typed unheard.notRoot absent above]
      exact ⟨typed, absent, above⟩
    · refine ⟨typed.installRule rule, absent.installRule (Ne.symm isOwn), missing, ?_⟩
      by_cases isParent : rule.id = parent
      · unfold RuleBook.installRule at missing ⊢
        cases outcome : state.installRuleInner ∅ rule with
        | failed => exact above.2
        | waits dependent reason => exact above.2
        | installed installed =>
          have keeps := keeps_publish installed.1 installed.2
          simp only [outcome] at missing ⊢
          rw [hasClass_eq_false_iff_origin, keeps.types, ← hasClass_eq_false_iff_origin] at missing
          rcases installRuleInner_installed outcome with success | ⟨-, unchanged⟩
          · rw [← isParent, (success.provides typed).1] at missing
            contradiction
          · rw [keeps.manager, unchanged]
            exact above.2
      · exact (above.installRule (Ne.symm isParent)).2

end Repeated

/-- When a parent arrives, a class that waits for it is installed with its latest description just
if the first one was the same. -/
theorem installed_with_latest_iff {parent name : String} {objtype : Objtype} {book : RuleBook}
    (unheard : Unheard parent name book) (changes : Changes) (submissions : List Description)
    (last first latest : Description)
    (admitted : ∀ rule ∈ submissions ++ [last], Admitted parent name objtype rule)
    (isFirst : (submissions.find? fun rule => rule.id = name) = some first)
    (isLatest : (submissions.reverse.find? fun rule => rule.id = name) = some latest) :
    ((submissions.foldl install (book, changes)).1.hasClass parent = false →
      ((submissions ++ [last]).foldl install (book, changes)).1.hasClass parent = true →
      (((submissions ++ [last]).foldl install (book, changes)).1.origin name =
        some (some latest.parent, latest.bare) ↔ latest.bare = first.bare)) ∧
    ((submissions.foldl (fun book rule => (book.installRule rule).1) book).hasClass parent = false →
      ((submissions ++ [last]).foldl (fun book rule => (book.installRule rule).1) book).hasClass
        parent = true →
      ((submissions ++ [last]).foldl (fun book rule => (book.installRule rule).1) book).origin
        name = none) := by
  have isLast := admitted last (mem_append_right _ (mem_singleton_self _))
  have earlier : ∀ rule ∈ submissions, Admitted parent name objtype rule :=
    fun rule isRule => admitted rule (mem_append_left _ isRule)
  rw [foldl_append, foldl_cons, foldl_nil, foldl_append, foldl_cons, foldl_nil]
  constructor
  · intro missing known
    have pending := unheard.run changes earlier missing
    rw [isFirst] at pending
    generalize submissions.foldl install (book, changes) = state at *
    have isAdmitted := earlier first (mem_of_find?_eq_some isFirst)
    have isOwn : first.id = name := by simpa using find?_some isFirst
    have latestOwn : latest.id = name := by simpa using find?_some isLatest
    have latestAdmitted :=
      earlier latest (List.mem_reverse.mp (mem_of_find?_eq_some isLatest))
    have settling : Settling parent name objtype first (install state last).1 := by
      by_cases lastOwn : last.id = name
      · exact Or.inl (pending.installItem_self _ isLast lastOwn)
      · exact pending.installItem isAdmitted isLast lastOwn (Nat.le_refl _)
    rcases settling with waits | ⟨-, installed⟩
    · rw [waits.above.1] at known
      contradiction
    · rw [installed, (latestAdmitted.own latestOwn).1]
      constructor
      · intro same
        exact (congrArg Prod.snd (Option.some.inj same)).symm
      · intro same
        rw [same]
  · intro missing known
    obtain ⟨typed, absent, above⟩ := unheard.run_installRule earlier missing
    generalize submissions.foldl (fun book rule => (book.installRule rule).1) book = state at *
    by_cases lastOwn : last.id = name
    · rw [isLast.installRule lastOwn typed unheard.notRoot absent above, missing] at known
      contradiction
    · exact hasClass_eq_false_iff_origin.mp (absent.installRule (Ne.symm lastOwn)).1

theorem builtinBook_typed : builtinBook.Typed := by
  intro name unknown
  by_cases isArchetype : "archetype" = name
  · subst isArchetype
    have known : builtinBook.hasClass "archetype" = true := by decide +kernel
    rw [known] at unknown
    contradiction
  · simp [kind, builtinBook, isArchetype]

theorem builtinBook_unheard : Unheard "thing" "apple" builtinBook where
  typed := builtinBook_typed
  notRoot := by decide
  absent := ⟨by decide +kernel, by decide +kernel⟩
  above := ⟨by decide +kernel, by decide +kernel⟩
  waiting entry isEntry := by cases isEntry

/-- An apple twice, before things. -/
def appleSubmissions (first second : Int64) : List Description :=
  [classRule "apple" "thing" "mass" (.int first), classRule "apple" "thing" "mass" (.int second)]

def thingRule : Description :=
  classRule "thing" "game_entity" "mass" (.int 0)

theorem appleSubmissions_admitted (first second : Int64) :
    ∀ rule ∈ appleSubmissions first second ++ [thingRule],
      Admitted "thing" "apple" .entityClass rule := by
  have acceptable : ∀ mass, Acceptable (classRule "apple" "thing" "mass" (.int mass)) := by
    intro mass
    have short : "apple".utf8ByteSize ≤ idLen := by decide
    have named : "thing" ≠ "" := by decide
    exact ⟨short, named, nofun⟩
  intro rule isRule
  simp only [appleSubmissions, cons_append, nil_append, mem_cons, not_mem_nil, or_false] at isRule
  rcases isRule with rfl | rfl | rfl
  · exact ⟨fun _ => ⟨rfl, rfl, acceptable _⟩, fun _ => rfl⟩
  · exact ⟨fun _ => ⟨rfl, rfl, acceptable _⟩, fun _ => rfl⟩
  · exact ⟨fun isApple => absurd isApple (by decide), fun _ => rfl⟩

theorem apple_installed_with_latest :
    ((appleSubmissions 1 1 ++ [thingRule]).foldl install (builtinBook, ∅)).1.origin "apple" =
      some (some "thing", (classRule "apple" "thing" "mass" (.int 1)).bare) := by
  have latest := (installed_with_latest_iff builtinBook_unheard ∅ (appleSubmissions 1 1) thingRule
    (classRule "apple" "thing" "mass" (.int 1)) (classRule "apple" "thing" "mass" (.int 1))
    (appleSubmissions_admitted 1 1) (by simp [appleSubmissions, classRule, plainDescription])
    (by simp [appleSubmissions, classRule, plainDescription])).1
  exact (latest (by decide +kernel) (by decide +kernel)).mpr rfl

/-- Default mass in the attributes of a rule. -/
def hasMass (rule : Description) (mass : Int64) : Bool :=
  rule.attributes.any fun attributes => attributes["mass"]? == some (.map [("default", .int mass)])

/-- The apple has its first mass. -/
theorem apple_not_installed_with_latest :
    ((appleSubmissions 1 2 ++ [thingRule]).foldl install (builtinBook, ∅)).1.origin "apple" ≠
      some (some "thing", (classRule "apple" "thing" "mass" (.int 2)).bare) ∧
    (((appleSubmissions 1 2 ++ [thingRule]).foldl install (builtinBook, ∅)).1.origin "apple").any
      (fun origin => hasMass origin.2 1) = true ∧
    ((appleSubmissions 1 2 ++ [thingRule]).foldl (fun book rule => (book.installRule rule).1)
      builtinBook).hasClass "apple" = false := by
  have mass : (((appleSubmissions 1 2 ++ [thingRule]).foldl install (builtinBook, ∅)).1.origin
      "apple").any (fun origin => hasMass origin.2 1) = true := by
    decide +kernel
  refine ⟨?_, mass, by decide +kernel⟩
  intro latest
  rw [latest] at mass
  revert mass
  decide +kernel

end RuleBook

end Cyphesis.Ruleset
