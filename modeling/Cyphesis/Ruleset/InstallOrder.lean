import Cyphesis.Ruleset.InstalledTypes

/-!
# The order in which rules are installed

A set of rules that has all the parents it names can be submitted in any order.
-/

namespace Cyphesis.Ruleset

open Std (ExtTreeMap)
open Cyphesis.Atlas List Option
open Cyphesis.Foundation

namespace RuleBook

/-- New names with parents or their rules. -/
structure Installable (base : RuleBook) (rules : List Description) (rank : String → Nat) :
    Prop where
  distinct : (rules.map Description.id).Nodup
  acceptable : ∀ rule ∈ rules, Acceptable rule
  kinds : ∀ rule ∈ rules, rule.objtype ≠ .propertyType
  absent : ∀ rule ∈ rules, base.Absent rule.id
  rooted : ∀ rule ∈ rules, base.Ready rule ∨
    ∃ parent ∈ rules, parent.id = rule.parent ∧ rank parent.id < rank rule.id ∧
      (rule.objtype = .opDefinition ∨ parent.objtype = rule.objtype)

/-- Built-in types, and nothing waits. -/
structure Builtin (base : RuleBook) : Prop extends base.Unruled where
  noWaiting : base.waitingRules = []
  idempotent : base.propertyFactories.Idempotent

theorem Sound.kind_eq_none {book : RuleBook} (sound : book.Sound) : book.Typed := by
  intro name unknown
  cases found : book.entityFactories[name]? with
  | none => rw [kind, found, map_none]
  | some kit =>
    rw [sound.typed name kit found] at unknown
    contradiction

section Order

variable {base : RuleBook} {rules : List Description} {rank : String → Nat}

theorem Installable.eq_of_id {rule other : Description} (installable : Installable base rules rank)
    (member : rule ∈ rules) (isOther : other ∈ rules) (same : rule.id = other.id) : rule = other :=
  inj_on_of_nodup_map installable.distinct member isOther same

variable (base rules) in
/-- The installed types are as they should be. -/
structure WellInstalled (book : RuleBook) : Prop where
  sound : book.Sound
  manager : book.propertyFactories = base.propertyFactories
  builtin : ∀ type, (∀ rule ∈ rules, rule.id ≠ type) →
    book.entityFactory type = none ∧
    (book.archetypeFactory type).map ArchetypeFactory.contents =
      (base.archetypeFactory type).map ArchetypeFactory.contents ∧
    (∀ name, book.defaultOf type name = base.defaultOf type name) ∧
    book.origin type = base.origin type
  installed : ∀ rule ∈ rules, book.hasClass rule.id = true →
    book.Stands rule ∧ book.origin rule.id = some (some rule.parent, rule.bare) ∧
      book.hasClass rule.parent = true

theorem WellInstalled.congr {book changed : RuleBook} (well : WellInstalled base rules book)
    (types : changed.atlasObjects = book.atlasObjects)
    (factories : changed.entityFactories = book.entityFactories)
    (manager : changed.propertyFactories = book.propertyFactories) :
    WellInstalled base rules changed := by
  obtain ⟨atlasObjects, entityFactories, propertyFactories, waitingRules⟩ := book
  obtain ⟨changedObjects, changedFactories, changedProperties, changedWaiting⟩ := changed
  obtain rfl : changedObjects = atlasObjects := types
  obtain rfl : changedFactories = entityFactories := factories
  obtain rfl : changedProperties = propertyFactories := manager
  refine ⟨?_, well.manager, well.builtin, well.installed⟩
  exact well.sound.frame (well.sound.toPlanted.congr rfl rfl) (fun _ => rfl) (fun _ _ _ => rfl) rfl

theorem WellInstalled.start (builtin : base.Builtin) (installable : Installable base rules rank) :
    WellInstalled base rules base where
  sound := builtin.sound
  manager := rfl
  builtin type _ := ⟨builtin.noClasses type, rfl, fun _ => rfl, rfl⟩
  installed rule member known := by
    rw [(installable.absent rule member).1] at known
    contradiction

variable {rule : Description} {live : Description → Prop}

theorem WellInstalled.step (builtin : base.Builtin) (installable : Installable base rules rank)
    {book changed : RuleBook} (well : WellInstalled base rules book) (member : rule ∈ rules)
    (installed : Installed book changed rule) (as : InstalledAs book changed rule) :
    WellInstalled base rules changed := by
  have idempotent : book.propertyFactories.Idempotent := well.manager ▸ builtin.idempotent
  refine ⟨as.sound, as.manager.trans well.manager, ?_, ?_⟩
  · intro type notRule
    have notNew : type ≠ rule.id := Ne.symm (notRule rule member)
    have undisturbed := as.undisturbed type notNew
    obtain ⟨noFactory, contents, defaults, origin⟩ := well.builtin type notRule
    refine ⟨undisturbed.entityFactory_eq_none noFactory, undisturbed.archetype.trans contents, ?_,
      (installed.types type notNew).trans origin⟩
    intro name
    rw [undisturbed.defaultOf noFactory, defaults]
  · intro other isOther known
    by_cases same : other.id = rule.id
    · obtain rfl := installable.eq_of_id isOther member same
      refine ⟨as.stands, installed.origin, ?_⟩
      rw [hasClass_iff_origin, installed.types]
      · exact hasClass_iff_origin.mp installed.parentKnown
      · intro isSelf
        have unknown := installed.unknown
        rw [← isSelf, installed.parentKnown] at unknown
        contradiction
    · rw [hasClass_iff_origin, installed.types other.id same, ← hasClass_iff_origin] at known
      obtain ⟨stands, origin, parentKnown⟩ := well.installed other isOther known
      have notNew : other.parent ≠ rule.id := by
        intro isNew
        have unknown := installed.unknown
        rw [← isNew, parentKnown] at unknown
        contradiction
      refine ⟨?_, (installed.types other.id same).trans origin, ?_⟩
      · exact stands.undisturbed idempotent (well.sound.clean other.id).1 as.manager
          (as.undisturbed other.id same) (as.undisturbed other.parent notNew)
      · rw [hasClass_iff_origin, installed.types other.parent notNew, ← hasClass_iff_origin]
        exact parentKnown

theorem WellInstalled.keeps (installable : Installable base rules rank) {book : RuleBook}
    (well : WellInstalled base rules book) {type : String} (known : base.hasClass type = true) :
    (∀ rule ∈ rules, rule.id ≠ type) ∧ book.hasClass type = true := by
  have notRule : ∀ rule ∈ rules, rule.id ≠ type := by
    rintro rule isRule rfl
    rw [(installable.absent rule isRule).1] at known
    contradiction
  refine ⟨notRule, ?_⟩
  rw [hasClass_iff_origin, (well.builtin type notRule).2.2.2, ← hasClass_iff_origin]
  exact known

/-- A well-formed rule is ready to be installed, or its parent is missing. -/
theorem WellInstalled.ready_or_missing (builtin : base.Builtin)
    (installable : Installable base rules rank) {book : RuleBook}
    (well : WellInstalled base rules book) (member : rule ∈ rules) :
    book.Ready rule ∨ book.Absent rule.parent ∧ rule.parent ≠ "game_entity" := by
  have notProperty := installable.kinds rule member
  rcases installable.rooted rule member with ready | ⟨parent, isRule, isParent, -, suits⟩
  · left
    unfold Ready at ready ⊢
    split_ifs at ready ⊢ with isRoot
    · exact ⟨(well.keeps installable ready.1).2, ready.2⟩
    · obtain ⟨notRule, known⟩ := well.keeps installable ready.1
      refine ⟨known, ?_⟩
      have suits := ready.2
      cases isKind : rule.objtype with
      | opDefinition => trivial
      | entityClass =>
        -- there are no built-in entity classes
        rw [isKind] at suits
        obtain ⟨factory, isFactory⟩ := kind_eq_entity.mp suits
        rw [builtin.noClasses] at isFactory
        contradiction
      | propertyType => exact absurd isKind notProperty
      | archetype =>
        rw [isKind] at suits
        obtain ⟨factory, isFactory⟩ := kind_eq_archetype.mp suits
        have contents := (well.builtin _ notRule).2.1
        rw [isFactory, map_some] at contents
        obtain ⟨again, isAgain, -⟩ := Option.map_eq_some_iff.mp contents
        exact kind_eq_archetype.mpr ⟨again, isAgain⟩
      | other =>
        rw [isKind] at suits
        exact suits
  · have notGameEntity : rule.parent ≠ "game_entity" := by
      intro isRoot
      have unknown := (installable.absent parent isRule).1
      rw [isParent, isRoot, builtin.gameEntity] at unknown
      contradiction
    cases known : book.hasClass rule.parent with
    | false =>
      refine Or.inr ⟨⟨known, ?_⟩, notGameEntity⟩
      rw [well.manager, ← isParent]
      exact (installable.absent parent isRule).2
    | true =>
      left
      obtain ⟨stands, -⟩ := well.installed parent isRule (isParent ▸ known)
      rw [Ready, if_neg fun isRoot => notGameEntity isRoot.2]
      refine ⟨known, ?_⟩
      unfold Stands at stands
      rw [isParent] at stands
      cases isKind : rule.objtype with
      | opDefinition => trivial
      | entityClass =>
        have isClass : parent.objtype = .entityClass := by
          simpa [isKind] using suits
        simp only [isClass] at stands
        obtain ⟨factory, isFactory, -⟩ := stands
        exact kind_eq_entity.mpr ⟨factory, isFactory⟩
      | propertyType => exact absurd isKind notProperty
      | archetype =>
        have isArchetype : parent.objtype = .archetype := by
          simpa [isKind] using suits
        simp only [isArchetype] at stands
        obtain ⟨contents, -, isContents, -⟩ := stands
        obtain ⟨factory, isFactory, -⟩ := Option.map_eq_some_iff.mp isContents
        exact kind_eq_archetype.mpr ⟨factory, isFactory⟩
      | other => exact absurd isKind (installable.acceptable rule member).objtype

variable (base rules) in
/-- Each rule is still to come, waiting, or installed. -/
structure Progress (live : Description → Prop) (book : RuleBook) : Prop where
  well : WellInstalled base rules book
  status : ∀ rule ∈ rules, live rule ∨ (∃ entry ∈ book.waitingRules, entry.2.desc = rule) ∨
    book.hasClass rule.id = true
  unknown : ∀ rule ∈ rules, live rule → book.hasClass rule.id = false
  waiting : ∀ entry ∈ book.waitingRules, entry.2.desc ∈ rules ∧ ¬ live entry.2.desc ∧
    entry.1 = entry.2.desc.parent ∧ book.hasClass entry.2.desc.id = false ∧
    book.hasClass entry.1 = false
  once : (book.waitingRules.map fun entry => entry.2.desc.id).Nodup

theorem Progress.congr {live other : Description → Prop} {book : RuleBook}
    (progress : Progress base rules live book) (same : ∀ rule ∈ rules, other rule ↔ live rule) :
    Progress base rules other book where
  well := progress.well
  status rule member := by
    rw [same rule member]
    exact progress.status rule member
  unknown rule member isLive := progress.unknown rule member ((same rule member).mp isLive)
  waiting entry isEntry := by
    obtain ⟨member, notLive, rest⟩ := progress.waiting entry isEntry
    exact ⟨member, fun isLive => notLive ((same _ member).mp isLive), rest⟩
  once := progress.once

section

variable (installable : Installable base rules rank) {book : RuleBook}
  (progress : Progress base rules live book) (member : rule ∈ rules)

include installable progress member

theorem Progress.absent (unknown : book.hasClass rule.id = false) : book.Absent rule.id := by
  refine ⟨unknown, ?_⟩
  rw [progress.well.manager]
  exact (installable.absent rule member).2

theorem Progress.wait (isLive : live rule)
    (missing : book.hasClass rule.parent = false) (reason : String) :
    Progress base rules (fun other => live other ∧ other ≠ rule)
      (book.waitForRule rule rule.parent reason) where
  well := progress.well.congr rfl rfl rfl
  status other isOther := by
    by_cases same : other = rule
    · subst same
      exact Or.inr (Or.inl ⟨(_, ⟨other, reason⟩), mem_append_right _ mem_cons_self, rfl⟩)
    · rcases progress.status other isOther with isLive | ⟨entry, isEntry, isDesc⟩ | known
      · exact Or.inl ⟨isLive, same⟩
      · exact Or.inr (Or.inl ⟨entry, mem_append_left _ isEntry, isDesc⟩)
      · exact Or.inr (Or.inr known)
  unknown other isOther isLive := progress.unknown other isOther isLive.1
  waiting entry isEntry := by
    rcases List.mem_append.mp isEntry with isOld | isNew
    · obtain ⟨isRule, notLive, rest⟩ := progress.waiting entry isOld
      exact ⟨isRule, fun isLive => notLive isLive.1, rest⟩
    · obtain rfl := List.mem_singleton.mp isNew
      exact ⟨member, fun isLive => isLive.2 rfl, rfl, progress.unknown rule member isLive, missing⟩
  once := by
    rw [waitForRule, map_append, nodup_append]
    refine ⟨progress.once, nodup_singleton _, ?_⟩
    rintro id isOld other isNew rfl
    obtain ⟨entry, isEntry, isId⟩ := List.mem_map.mp isOld
    obtain rfl := List.mem_singleton.mp isNew
    obtain ⟨isRule, notLive, -⟩ := progress.waiting entry isEntry
    rw [installable.eq_of_id isRule member isId] at notLive
    exact notLive isLive

end

theorem mem_readyList_of_waiting {book : RuleBook} {entry : String × RuleWaiting}
    (once : (book.waitingRules.map fun entry => entry.2.desc.id).Nodup)
    (isEntry : entry ∈ book.waitingRules) : entry.2.desc ∈ book.readyList entry.1 := by
  have found : (book.waitingRules.filter fun other => other.1 = entry.1).find?
      (fun other => other.2.desc.id = entry.2.desc.id) = some entry := by
    rw [find?_eq_some_iff_append]
    refine ⟨by simp, ?_⟩
    have listed : entry ∈ book.waitingRules.filter fun other => other.1 = entry.1 := by
      rw [mem_filter]
      exact ⟨isEntry, by simp⟩
    obtain ⟨before, after, split⟩ := append_of_mem listed
    refine ⟨before, after, split, ?_⟩
    intro other isBefore
    have distinct := once.sublist ((filter_sublist
      (p := fun other => decide (other.1 = entry.1)) (l := book.waitingRules)).map _)
    rw [split, map_append, map_cons, nodup_append] at distinct
    have apart := distinct.2.2 other.2.desc.id (List.mem_map_of_mem isBefore) entry.2.desc.id
      mem_cons_self
    simp [apart]
  have ready := book.readyRules_getElem? entry.1 entry.2.desc.id
  rw [found, map_some] at ready
  rw [readyList, List.mem_map]
  exact ⟨_, ExtTreeMap.mem_toList_iff_getElem?_eq_some.mpr ready, rfl⟩

/-- Installed, with waiting ones to come. -/
theorem Progress.install (builtin : base.Builtin) (installable : Installable base rules rank)
    {book changed : RuleBook} (progress : Progress base rules live book) (member : rule ∈ rules)
    (isLive : live rule) (installed : Installed book changed rule)
    (as : InstalledAs book changed rule) :
    Progress base rules
      (fun other => (live other ∧ other ≠ rule) ∨ other ∈ changed.readyList rule.id)
      (changed.eraseWaiting rule.id) := by
  have known_iff : ∀ type, type ≠ rule.id → changed.hasClass type = book.hasClass type := by
    intro type notNew
    rw [Bool.eq_iff_iff, hasClass_iff_origin, installed.types type notNew, ← hasClass_iff_origin]
  have released : ∀ other ∈ changed.readyList rule.id,
      ∃ entry ∈ book.waitingRules, entry.1 = rule.id ∧ entry.2.desc = other := by
    intro other isReady
    obtain ⟨-, entry, isEntry, isKey, isDesc⟩ := mem_readyList isReady
    rw [installed.waiting] at isEntry
    exact ⟨entry, isEntry, isKey, isDesc⟩
  -- nothing that waits is the rule itself
  have different : ∀ entry ∈ book.waitingRules, entry.2.desc.id ≠ rule.id := by
    intro entry isEntry same
    obtain ⟨isRule, notLive, -⟩ := progress.waiting entry isEntry
    rw [installable.eq_of_id isRule member same] at notLive
    exact notLive isLive
  constructor
  · exact (progress.well.step builtin installable member installed as).congr rfl rfl rfl
  · intro other isOther
    by_cases same : other = rule
    · subst same
      right
      right
      have known : changed.hasClass other.id = true := by
        rw [hasClass_iff_origin, installed.origin, isSome_some]
      exact known
    · have notNew : other.id ≠ rule.id := fun sameId => same
        (installable.eq_of_id isOther member sameId)
      rcases progress.status other isOther with isLive | ⟨entry, isEntry, rfl⟩ | known
      · exact Or.inl (Or.inl ⟨isLive, same⟩)
      · by_cases isKey : entry.1 = rule.id
        · left
          right
          rw [← isKey]
          apply mem_readyList_of_waiting
          · rw [installed.waiting]
            exact progress.once
          · rw [installed.waiting]
            exact isEntry
        · right
          left
          refine ⟨entry, ?_, rfl⟩
          rw [eraseWaiting, mem_filter, installed.waiting]
          exact ⟨isEntry, by simpa using isKey⟩
      · exact Or.inr (Or.inr ((known_iff other.id notNew).trans known))
  · rintro other isOther (⟨isLive, notRule⟩ | isReady)
    · have notNew : other.id ≠ rule.id := fun sameId => notRule
        (installable.eq_of_id isOther member sameId)
      exact (known_iff other.id notNew).trans (progress.unknown other isOther isLive)
    · obtain ⟨entry, isEntry, -, rfl⟩ := released other isReady
      exact (known_iff _ (different entry isEntry)).trans (progress.waiting entry isEntry).2.2.2.1
  · intro entry isEntry
    rw [eraseWaiting, mem_filter, installed.waiting, decide_eq_true_eq] at isEntry
    obtain ⟨isEntry, notKey⟩ := isEntry
    obtain ⟨isRule, notLive, isParent, unknown, missing⟩ := progress.waiting entry isEntry
    refine ⟨isRule, ?_, isParent, (known_iff _ (different entry isEntry)).trans unknown,
      (known_iff _ notKey).trans missing⟩
    rintro (⟨isLive, -⟩ | isReady)
    · exact notLive isLive
    · obtain ⟨other, isOther, isKey, same⟩ := released _ isReady
      have sameParent := (progress.waiting other isOther).2.2.1
      rw [same, ← isParent] at sameParent
      exact notKey (sameParent.symm.trans isKey)
  · rw [eraseWaiting, installed.waiting]
    exact progress.once.sublist (List.filter_sublist.map _)

theorem Progress.foldl {handle : RuleBook × Changes → Description → RuleBook × Changes}
    (admits : List Description → RuleBook × Changes → Prop)
    (one : ∀ {live : Description → Prop} {rule : Description} {rest : List Description}
      {state : RuleBook × Changes}, rule ∈ rules → live rule → admits (rule :: rest) state →
      Progress base rules live state.1 →
      Progress base rules (fun other => live other ∧ other ≠ rule) (handle state rule).1 ∧
      admits rest (handle state rule)) (todo : List Description) (distinct : todo.Nodup)
    (members : ∀ rule ∈ todo, rule ∈ rules) (notLive : ∀ rule ∈ todo, ¬ live rule)
    {state : RuleBook × Changes} (admitted : admits todo state)
    (progress : Progress base rules (fun rule => live rule ∨ rule ∈ todo) state.1) :
    Progress base rules live (todo.foldl handle state).1 := by
  induction todo generalizing state with
  | nil => exact progress.congr fun rule _ => by simp
  | cons rule rest ih =>
    obtain ⟨after, admittedRest⟩ := one (members rule mem_cons_self)
      (Or.inr mem_cons_self) admitted progress
    obtain ⟨notRest, distinctRest⟩ := List.nodup_cons.mp distinct
    rw [foldl_cons]
    apply ih distinctRest (fun other isRest => members other (mem_cons_of_mem _ isRest))
      (fun other isRest => notLive other (mem_cons_of_mem _ isRest)) admittedRest
    apply after.congr
    intro other _
    constructor
    · rintro (isLive | isRest)
      · refine ⟨Or.inl isLive, ?_⟩
        rintro rfl
        exact notLive other mem_cons_self isLive
      · refine ⟨Or.inr (mem_cons_of_mem _ isRest), ?_⟩
        rintro rfl
        exact notRest isRest
    · rintro ⟨isLive | isTodo, notRule⟩
      · exact Or.inl isLive
      · rcases List.mem_cons.mp isTodo with same | isRest
        · exact absurd same notRule
        · exact Or.inr isRest

section

variable (builtin : base.Builtin) (installable : Installable base rules rank)

include builtin installable

/-- A rule that is submitted waits, or is installed with those that wait for it. -/
theorem Progress.installItem
    (depth : Nat) {state : RuleBook × Changes} (member : rule ∈ rules) (isLive : live rule)
    (enough : state.1.waitingRules.length < depth) (progress : Progress base rules live state.1) :
    Progress base rules (fun other => live other ∧ other ≠ rule)
      (RuleBook.installItem depth state rule).1 := by
  induction depth generalizing live state rule with
  | zero => exact absurd enough (Nat.not_lt_zero _)
  | succ depth ih =>
    have acceptable := installable.acceptable rule member
    have unknown := progress.absent installable member (progress.unknown rule member isLive)
    rw [installItem_succ]
    rcases progress.well.ready_or_missing builtin installable member with
      ready | ⟨absent, notRoot⟩
    · obtain ⟨result, outcome, installed⟩ :=
        installRuleInner_of_ready state.2 acceptable ready unknown
      have idempotent : state.1.propertyFactories.Idempotent :=
        progress.well.manager ▸ builtin.idempotent
      have as := installRuleInner_installedAs progress.well.sound idempotent
        (installable.kinds rule member) outcome
      rw [outcome]
      have after := progress.install builtin installable member isLive installed as
      have released := length_readyList_le result.1 rule.id
      rw [installed.waiting] at released
      -- the rules that are released are all in the set, and were not to come before
      have ready : ∀ other ∈ result.1.readyList rule.id, other ∈ rules ∧ ¬ live other := by
        intro other isReady
        obtain ⟨-, entry, isEntry, -, rfl⟩ := mem_readyList isReady
        rw [installed.waiting] at isEntry
        obtain ⟨isRule, notLive, -⟩ := progress.waiting entry isEntry
        exact ⟨isRule, notLive⟩
      apply Progress.foldl fun todo state =>
        todo.length + state.1.waitingRules.length ≤ depth
      · intro live other rest state isOther isLive bound progress
        rw [length_cons] at bound
        refine ⟨ih isOther isLive (by omega) progress, ?_⟩
        have grows := length_waiting_installItem_le depth state other
        omega
      · exact List.Nodup.of_map _ (nodup_readyList result.1 rule.id)
      · exact fun other isReady => (ready other isReady).1
      · exact fun other isReady isLive => (ready other isReady).2 isLive.1
      · exact released.trans (Nat.le_of_lt_succ enough)
      · exact after
    · obtain ⟨reason, outcome⟩ := installRuleInner_of_absent state.2 acceptable
        progress.well.sound.kind_eq_none absent notRoot unknown
      rw [outcome]
      exact progress.wait installable member isLive absent.1 reason

theorem Progress.run
    {order : List Description} (perm : order.Perm rules) (changes : Changes) :
    Progress base rules (fun _ => False)
      (Foundation.run RuleBook.install (base, changes) order).1 := by
  have distinct : order.Nodup := perm.nodup_iff.mpr (List.Nodup.of_map _ installable.distinct)
  apply Progress.foldl fun _ _ => True
  · intro live rule rest state member isLive _ progress
    refine ⟨?_, trivial⟩
    exact progress.installItem builtin installable _ member isLive (Nat.lt_succ_self _)
  · exact distinct
  · exact fun rule isRule => perm.mem_iff.mp isRule
  · exact fun _ _ => id
  · trivial
  · refine
      { well := WellInstalled.start builtin installable
        status := fun rule member => Or.inl (Or.inr (perm.mem_iff.mpr member))
        unknown := fun rule member _ => (installable.absent rule member).1
        waiting := ?_
        once := ?_ }
    · intro entry isEntry
      rw [builtin.noWaiting] at isEntry
      contradiction
    · rw [builtin.noWaiting]
      exact nodup_nil

end

section

variable (installable : Installable base rules rank) {book : RuleBook}
  (progress : Progress base rules (fun _ => False) book)

include installable progress

theorem Progress.hasClass (member : rule ∈ rules) : book.hasClass rule.id = true := by
  induction height : rank rule.id using Nat.strong_induction_on generalizing rule with
  | _ height' ih =>
    rcases progress.status rule member with isLive | ⟨entry, isEntry, rfl⟩ | known
    · exact absurd isLive id
    · exfalso
      obtain ⟨-, -, isParent, -, missing⟩ := progress.waiting entry isEntry
      rw [isParent] at missing
      rcases installable.rooted _ member with ready | ⟨parent, isRule, isId, lower, -⟩
      · rw [(progress.well.keeps installable ready.parentKnown).2] at missing
        contradiction
      · rw [← isId, ih (rank parent.id) (height ▸ lower) isRule rfl] at missing
        contradiction
    · exact known

theorem Progress.noWaiting : book.waitingRules = [] := by
  rw [eq_nil_iff_forall_not_mem]
  intro entry isEntry
  obtain ⟨member, -, -, unknown, -⟩ := progress.waiting entry isEntry
  rw [progress.hasClass installable member] at unknown
  contradiction

end

/-- What two books share about a type. -/
structure SameStanding (book other : RuleBook) (rule : Description) : Prop where
  defaults : ∀ name, book.defaultOf rule.id name = other.defaultOf rule.id name
  attributes : rule.objtype = .entityClass →
    (book.entityFactory rule.id).map EntityFactory.attributes =
      (other.entityFactory rule.id).map EntityFactory.attributes
  contents : rule.objtype = .archetype →
    (book.archetypeFactory rule.id).map ArchetypeFactory.contents =
      (other.archetypeFactory rule.id).map ArchetypeFactory.contents

omit base rules rank in
theorem inherited_eq (book : RuleBook) (factory : EntityFactory) :
    book.inherited factory = (factory.parent.bind fun parent =>
      (book.entityFactory parent).map EntityFactory.attributes).getD ∅ := by
  unfold inherited
  cases factory.parent with
  | none => rfl
  | some parent =>
    rw [bind_some, bind_some]
    cases book.entityFactory parent <;> rfl

section Two

variable {book other : RuleBook} (builtin : base.Builtin)
  (installable : Installable base rules rank) (well : WellInstalled base rules book)
  (wellOther : WellInstalled base rules other)
  (all : ∀ rule ∈ rules, book.hasClass rule.id = true)
  (allOther : ∀ rule ∈ rules, other.hasClass rule.id = true)

include builtin installable well wellOther all allOther

/-- The types of a rule installed in both. -/
theorem sameStanding {rule : Description} (member : rule ∈ rules) :
    SameStanding book other rule := by
  induction height : rank rule.id using Nat.strong_induction_on generalizing rule with
  | _ height' ih =>
    have manager : book.propertyFactories = other.propertyFactories :=
      well.manager.trans wellOther.manager.symm
    obtain ⟨stands, -⟩ := well.installed rule member (all rule member)
    obtain ⟨standsOther, -⟩ := wellOther.installed rule member (allOther rule member)
    unfold Stands at stands standsOther
    cases isKind : rule.objtype with
    | entityClass =>
      simp only [isKind] at stands standsOther
      obtain ⟨factory, known, isParent, isOwn, defaults⟩ := stands
      obtain ⟨factoryOther, knownOther, isParentOther, isOwnOther, defaultsOther⟩ := standsOther
      have sameInherited : book.inherited factory = other.inherited factoryOther := by
        rw [inherited_eq, inherited_eq, isParent, isParentOther]
        split_ifs with isRoot
        · rfl
        · rcases installable.rooted rule member with ready | ⟨parent, isRule, isId, lower, suits⟩
          · rw [Ready, if_neg fun both => isRoot both.2, isKind] at ready
            obtain ⟨parentFactory, isFactory⟩ := kind_eq_entity.mp ready.2
            rw [builtin.noClasses] at isFactory
            contradiction
          · have isClass : parent.objtype = .entityClass := by
              simpa [isKind] using suits
            have same := (ih (rank parent.id) (height ▸ lower) isRule rfl).attributes isClass
            rw [isId] at same
            rw [bind_some, bind_some, same]
      refine ⟨?_, ?_, ?_⟩
      · intro name
        rw [defaults, defaultsOther, manager, sameInherited]
      · intro _
        rw [known, knownOther, map_some, map_some,
          (well.sound.clean rule.id).1 factory known,
          (wellOther.sound.clean rule.id).1 factoryOther knownOther, isOwn, isOwnOther,
          sameInherited]
      · intro isArchetype
        rw [isKind] at isArchetype
        contradiction
    | archetype =>
      simp only [isKind] at stands standsOther
      obtain ⟨contents, isParent, isContents, defaults⟩ := stands
      obtain ⟨contentsOther, isParentOther, isContentsOther, defaultsOther⟩ := standsOther
      have sameContents : contents = contentsOther := by
        have same : (book.archetypeFactory rule.parent).map ArchetypeFactory.contents =
            (other.archetypeFactory rule.parent).map ArchetypeFactory.contents := by
          rcases installable.rooted rule member with ready | ⟨parent, isRule, isId, lower, suits⟩
          · obtain ⟨notRule, -⟩ := well.keeps installable ready.parentKnown
            rw [(well.builtin _ notRule).2.1, (wellOther.builtin _ notRule).2.1]
          · have isArchetype : parent.objtype = .archetype := by
              simpa [isKind] using suits
            rw [← isId]
            exact (ih (rank parent.id) (height ▸ lower) isRule rfl).contents isArchetype
        rw [isParent, isParentOther] at same
        exact Option.some.inj same
      subst sameContents
      refine ⟨?_, ?_, fun _ => isContents.trans isContentsOther.symm⟩
      · intro name
        rw [defaults, defaultsOther, manager]
      · intro isClass
        rw [isKind] at isClass
        contradiction
    | _ =>
      simp only [isKind] at stands standsOther
      refine ⟨?_, ?_, ?_⟩
      · intro name
        rw [stands.2, standsOther.2]
      · intro isClass
        rw [isKind] at isClass
        contradiction
      · intro isArchetype
        rw [isKind] at isArchetype
        contradiction

omit builtin installable in
theorem sameOrigin (type : String) : book.origin type = other.origin type := by
  by_cases isRule : ∃ rule ∈ rules, rule.id = type
  · obtain ⟨rule, member, rfl⟩ := isRule
    rw [(well.installed rule member (all rule member)).2.1,
      (wellOther.installed rule member (allOther rule member)).2.1]
  · have notRule : ∀ rule ∈ rules, rule.id ≠ type := fun rule member same =>
      isRule ⟨rule, member, same⟩
    rw [(well.builtin type notRule).2.2.2, (wellOther.builtin type notRule).2.2.2]

theorem sameDefaults (type name : String) :
    book.defaultOf type name = other.defaultOf type name := by
  by_cases isRule : ∃ rule ∈ rules, rule.id = type
  · obtain ⟨rule, member, rfl⟩ := isRule
    exact (sameStanding builtin installable well wellOther all allOther member).defaults name
  · have notRule : ∀ rule ∈ rules, rule.id ≠ type := fun rule member same =>
      isRule ⟨rule, member, same⟩
    rw [(well.builtin type notRule).2.2.1, (wellOther.builtin type notRule).2.2.1]

end Two

end Order

variable (state : RuleBook × Changes)

/-- Small steps of installing rules. -/
def installSteps (rules : List Description) : List BatchAction :=
  smallSteps install (fun state rule => installTrace state.1.installDepth state rule) state rules

theorem run_installSteps (rules : List Description) :
    run batchStep state (installSteps state rules) = run install state rules :=
  run_smallSteps (fun state rule => run_installTrace _ state rule) state rules

theorem origin_batchStep (action : BatchAction) (type : String) :
    (batchStep state action).1.origin type = state.1.origin type ∨
      state.1.origin type = none ∧ ∃ parent rule,
        (batchStep state action).1.origin type = some (some parent, rule) ∧
        state.1.hasClass parent = true := by
  cases action with
  | install rule =>
    simp only [batchStep]
    cases outcome : state.1.installRuleInner state.2 rule with
    | failed => exact Or.inl rfl
    | waits dependent reason => exact Or.inl rfl
    | installed result =>
      rcases installRuleInner_installed outcome with installed | ⟨-, same⟩
      · by_cases isNew : type = rule.id
        · subst isNew
          exact Or.inr ⟨hasClass_eq_false_iff_origin.mp installed.unknown, rule.parent, rule.bare,
            installed.origin, installed.parentKnown⟩
        · exact Or.inl (installed.types type isNew)
      · left
        dsimp only
        rw [same]
  | modify rule =>
    left
    simp only [batchStep]
    cases outcome : state.1.modifyRuleInner state.2 rule with
    | none => rfl
    | some result =>
      cases smallStep_modifyRuleInner outcome with
      | idle => rfl
      | waiting _ types => rw [getD_some, origin, types, ← origin]
      | modified known _ =>
        exact ((keeps_setEntityFactory known _).trans (keeps_updateProperties _ (_, _) _)).types
          type
  | wait rule dependent reason => exact Or.inl rfl
  | release name => exact Or.inl rfl

section

variable {state}

theorem origin_run {type : String}
    {origin : Option String × Description} (known : state.1.origin type = some origin)
    (actions : List BatchAction) :
    (run batchStep state actions).1.origin type = some origin := by
  refine run_invariant_of_step (fun state : RuleBook × Changes => state.1.origin type = some origin)
    ?_ known actions
  intro state action known
  rcases origin_batchStep state action type with same | ⟨unknown, -⟩
  · rw [same, known]
  · rw [known] at unknown
    contradiction

theorem parent_before {first rest : List BatchAction}
    {action : BatchAction} {type parent : String} {rule : Description}
    (isLast : (run batchStep state (first ++ action :: rest)).1.origin type =
      some (some parent, rule))
    (before : (run batchStep state first).1.hasClass type = false)
    (after : (batchStep (run batchStep state first) action).1.hasClass type = true) :
    (run batchStep state first).1.hasClass parent = true := by
  rcases origin_batchStep (run batchStep state first) action type with
    same | ⟨-, other, otherRule, entered, known⟩
  · rw [hasClass_iff_origin, same, ← hasClass_iff_origin, before] at after
    contradiction
  · have kept := origin_run entered rest
    rw [← run_cons, ← run_append, isLast, Option.some.injEq, Prod.mk.injEq] at kept
    rw [Option.some.inj kept.1]
    exact known

end

/-- Rules that come in any order are installed just as if parents had come first. -/
theorem install_any_order {base : RuleBook} (builtin : base.Builtin)
    {rules order other : List Description} {rank : String → Nat}
    (installable : Installable base rules rank) (perm : order.Perm rules)
    (permOther : other.Perm rules) :
    (run install (base, ∅) order).1.waitingRules = [] ∧
    (∀ rule ∈ rules, (run install (base, ∅) order).1.hasClass rule.id = true) ∧
    (∀ type : String, (run install (base, ∅) order).1.hasClass type =
      (run install (base, ∅) other).1.hasClass type) ∧
    (∀ type : String, (run install (base, ∅) order).1.atlasObjects[type]?.map TypeNode.parent =
      (run install (base, ∅) other).1.atlasObjects[type]?.map TypeNode.parent) ∧
    (∀ type name, (run install (base, ∅) order).1.defaultOf type name =
      (run install (base, ∅) other).1.defaultOf type name) ∧
    ∀ first action rest, installSteps (base, ∅) order = first ++ action :: rest →
      ∀ rule ∈ rules, (run batchStep (base, ∅) first).1.hasClass rule.id = false →
        (batchStep (run batchStep (base, ∅) first) action).1.hasClass rule.id = true →
        (run batchStep (base, ∅) first).1.hasClass rule.parent = true := by
  have progress := Progress.run builtin installable perm ∅
  have progressOther := Progress.run builtin installable permOther ∅
  have all : ∀ rule ∈ rules, (run install (base, ∅) order).1.hasClass rule.id = true :=
    fun rule member => progress.hasClass installable member
  have allOther : ∀ rule ∈ rules, (run install (base, ∅) other).1.hasClass rule.id = true :=
    fun rule member => progressOther.hasClass installable member
  have origins := sameOrigin progress.well progressOther.well all allOther
  refine ⟨progress.noWaiting installable, all, ?_, ?_, ?_, ?_⟩
  · intro type
    rw [Bool.eq_iff_iff, hasClass_iff_origin, origins, ← hasClass_iff_origin]
  · intro type
    have parents : ∀ book : RuleBook, book.atlasObjects[type]?.map TypeNode.parent =
        (book.origin type).map Prod.fst := by
      intro book
      rw [origin, Option.map_map]
      rfl
    rw [parents, parents, origins]
  · exact sameDefaults builtin installable progress.well progressOther.well all allOther
  · intro first action rest steps rule member before after
    have isLast : (run batchStep (base, ∅) (first ++ action :: rest)).1.origin rule.id =
        some (some rule.parent, rule.bare) := by
      rw [← steps, run_installSteps]
      exact (progress.well.installed rule member (all rule member)).2.1
    exact parent_before isLast before after

/-- Things, and apples below them with a mass. -/
def orchardRules : List Description :=
  [plainDescription "thing" "game_entity" .entityClass, classRule "apple" "thing" "mass" (.int 1)]

theorem builtinBook_builtin : builtinBook.Builtin where
  toUnruled := builtinBook_unruled
  noWaiting := rfl
  idempotent name kit isKit := by
    have empty : builtinBook.propertyFactories[name]? = none := ExtTreeMap.getElem?_empty
    rw [empty] at isKit
    contradiction

theorem orchardRules_installable :
    Installable builtinBook orchardRules fun name => if name = "thing" then 0 else 1 where
  distinct := by decide
  acceptable rule member := by
    simp only [orchardRules, mem_cons, not_mem_nil, or_false] at member
    rcases member with rfl | rfl
    · exact ⟨by decide, by decide, by decide⟩
    · exact ⟨by decide, by decide, by decide⟩
  kinds rule member := by
    simp only [orchardRules, mem_cons, not_mem_nil, or_false] at member
    rcases member with rfl | rfl
    · exact fun isProperty => by cases isProperty
    · exact fun isProperty => by cases isProperty
  absent rule member := by
    simp only [orchardRules, mem_cons, not_mem_nil, or_false] at member
    rcases member with rfl | rfl
    · exact ⟨by decide +kernel, by decide +kernel⟩
    · exact ⟨by decide +kernel, by decide +kernel⟩
  rooted rule member := by
    simp only [orchardRules, mem_cons, not_mem_nil, or_false] at member
    rcases member with rfl | rfl
    · left
      rw [Ready, if_pos ⟨rfl, rfl⟩]
      exact ⟨by decide +kernel, by decide⟩
    · right
      exact ⟨plainDescription "thing" "game_entity" .entityClass, mem_cons_self, rfl, by decide,
        Or.inr rfl⟩

/-- Apples can come before things. -/
theorem orchardRules_any_order :
    (run install (builtinBook, ∅) orchardRules.reverse).1.waitingRules = [] ∧
    (run install (builtinBook, ∅) orchardRules.reverse).1.hasClass "apple" = true ∧
    (run install (builtinBook, ∅) orchardRules.reverse).1.defaultOf "apple" "mass" =
      (run install (builtinBook, ∅) orchardRules).1.defaultOf "apple" "mass" := by
  obtain ⟨noWaiting, all, -, -, sameDefaults, -⟩ := install_any_order builtinBook_builtin
    orchardRules_installable (reverse_perm _) (List.Perm.refl _)
  exact ⟨noWaiting, all _ (mem_cons_of_mem _ mem_cons_self), sameDefaults "apple" "mass"⟩

/-- Without its parent a rule is lost. -/
theorem orchardRules_order_matters :
    (∃ rank, Installable builtinBook orchardRules rank) ∧
    (run (fun book rule => (RuleBook.installRule book rule).1) builtinBook
      orchardRules).hasClass "apple" = true ∧
    (run (fun book rule => (RuleBook.installRule book rule).1) builtinBook
      orchardRules.reverse).hasClass "apple" = false ∧
    (run install (builtinBook, ∅)
      [plainDescription "apple" "game_entity" .entityClass]).1.waitingRules.length = 1 := by
  refine ⟨⟨_, orchardRules_installable⟩, ?_, ?_, ?_⟩
  · decide +kernel
  · decide +kernel
  · decide +kernel

/-- Whatever batches follow, an installed type keeps its parent and the rule it was installed by. -/
theorem run_batches_origin (book : RuleBook) (batches : List Batch) (type : String) :
    (run (fun current batch => (Batch.outcome current batch).1) book batches).origin type =
        book.origin type ∨
      book.origin type = none := by
  cases start : book.origin type with
  | none => exact .inr rfl
  | some origin =>
    left
    refine run_invariant_of_step (fun current : RuleBook => current.origin type = some origin)
      (fun current batch known => ?_) start batches
    have stays : (run batchStep (current, ∅) _).1.origin type = _ :=
      origin_run known (batch.trace current)
    rw [Batch.outcome_eq]
    dsimp only
    split
    · rw [(keeps_publish _ _).types, stays]
    · exact stays

end RuleBook

end Cyphesis.Ruleset
