import Mathlib.Data.Set.Card

/-!
# Filters on what an entity contains

`contains` and `contains_recursive` go through the entities of a container and stop at the first
that meets the condition. The recursion has a bound, and no result where that is reached.
-/

namespace Cyphesis.EntityFilter

open List

variable {ε : Type}

/-- What a filter is applied on. -/
structure QueryContext (ε : Type) where
  entity : ε
  actor : Option ε
  tool : Option ε
  child : Option ε
  selfEntity : Option ε

/-- The result, and what was evaluated. -/
abbrev Search (ε : Type) : Type :=
  Bool × List ε

/-- Contained ones are checked too. -/
def checkInside (inside : List ε → Option (Search ε)) (contains : ε → Option (List ε))
    (recursive : Bool) (item : ε) : Option (Search ε) :=
  match contains item with
  | some (first :: more) => if recursive then inside (first :: more) else some (false, [])
  | _ => some (false, [])

/-- Loop over the entities of a container. -/
def checkItems (inside : List ε → Option (Search ε)) (contains : ε → Option (List ε))
    (condition : QueryContext ε → Bool) (recursive : Bool) (context : QueryContext ε) :
    List ε → Option (Search ε)
  | [] => some (false, [])
  | item :: rest =>
    if condition { context with child := some item } then some (true, [item])
    else
      match checkInside inside contains recursive item with
      | none => none
      | some (true, seen) => some (true, item :: seen)
      | some (false, seen) =>
        (checkItems inside contains condition recursive context rest).map fun later =>
          (later.1, item :: (seen ++ later.2))

/-- `checkContainer`, if it ends. -/
def checkContainer? (contains : ε → Option (List ε)) (condition : QueryContext ε → Bool)
    (recursive : Bool) (context : QueryContext ε) : Nat → List ε → Option (Search ε)
  | 0, _ => none
  | depth + 1, container =>
    checkItems (checkContainer? contains condition recursive context depth) contains condition
      recursive context container

/-- `ContainsRecursiveFunctionProvider::value` -/
def containsValue? (contains : ε → Option (List ε)) (condition : QueryContext ε → Bool)
    (recursive : Bool) (depth : Nat) (context : QueryContext ε) : Option (Search ε) :=
  match contains context.entity with
  | none => some (false, [])
  | some container => checkContainer? contains condition recursive context depth container

/-- An entity is in the set of another. -/
def Holds (contains : ε → Option (List ε)) (parent child : ε) : Prop :=
  ∃ container, contains parent = some container ∧ child ∈ container

/-- An entity is in another, at any depth. -/
def Below (contains : ε → Option (List ε)) : ε → ε → Prop :=
  Relation.TransGen (Holds contains)

/-- Finite, and not in itself. -/
structure IsTree (contains : ε → Option (List ε)) (entity : ε) : Prop where
  finite : {item | Below contains entity item}.Finite
  acyclic : ∀ item, Relation.ReflTransGen (Holds contains) entity item → ¬Below contains item item

/-- An entity that `contains` looks at, directly or through others. -/
def InReach (contains : ε → Option (List ε)) (recursive : Bool) (entity item : ε) : Prop :=
  if recursive then Below contains entity item else Holds contains entity item

variable {contains : ε → Option (List ε)} {condition : QueryContext ε → Bool} {recursive : Bool}
  {context : QueryContext ε} {entity item child : ε}

section

variable (tree : IsTree contains entity) (holds : Holds contains entity item)

include tree holds

theorem IsTree.of_holds :
    IsTree contains item := by
  constructor
  · apply tree.finite.subset
    intro other isBelow
    exact .head holds isBelow
  · intro other reaches
    exact tree.acyclic other (.head holds reaches)

theorem IsTree.ncard_lt :
    {other | Below contains item other}.ncard < {other | Below contains entity other}.ncard := by
  apply Set.ncard_lt_ncard _ tree.finite
  rw [Set.ssubset_iff_of_subset]
  · exact ⟨item, .single holds, (tree.of_holds holds).acyclic item .refl⟩
  · intro other isBelow
    exact .head holds isBelow

end

/-- All in the container. -/
def InScope (contains : ε → Option (List ε)) (recursive : Bool) (container : List ε)
    (item : ε) : Prop :=
  item ∈ container ∨ recursive = true ∧ ∃ holder ∈ container, Below contains holder item

/-- The search has decided. -/
structure Decides (scope : ε → Prop) (condition : QueryContext ε → Bool)
    (context : QueryContext ε) (search : Search ε) : Prop where
  found : search.1 = true ↔
    ∃ item, scope item ∧ condition { context with child := some item } = true
  seen : ∀ item ∈ search.2, scope item

theorem Decides.of_iff {scope other : ε → Prop} {search : Search ε}
    (decides : Decides scope condition context search) (same : ∀ item, scope item ↔ other item) :
    Decides other condition context search := by
  have equal : scope = other := funext fun item => propext (same item)
  rwa [← equal]

theorem below_iff {container : List ε} (isContainer : contains entity = some container) :
    Below contains entity item ↔ InScope contains true container item := by
  constructor
  · intro isBelow
    rcases Relation.TransGen.head'_iff.mp isBelow with ⟨holder, holds, reaches⟩
    rcases holds with ⟨other, isOther, isHeld⟩
    rw [isContainer] at isOther
    cases isOther
    rcases reaches.cases_head with rfl | ⟨next, first, later⟩
    · exact .inl isHeld
    · exact .inr ⟨rfl, holder, isHeld, Relation.TransGen.head' first later⟩
  · rintro (isHeld | ⟨-, holder, isHeld, isBelow⟩)
    · exact .single ⟨container, isContainer, isHeld⟩
    · exact .head ⟨container, isContainer, isHeld⟩ isBelow

theorem not_below_of_empty (isEmpty : ∀ container, contains entity = some container →
    container = []) : ¬Below contains entity item := by
  intro isBelow
  rcases Relation.TransGen.head'_iff.mp isBelow with ⟨holder, ⟨container, isContainer, isHeld⟩, -⟩
  rw [isEmpty container isContainer] at isHeld
  cases isHeld

variable {inside : List ε → Option (Search ε)}

theorem checkInside_decides
    (nested : ∀ container, contains item = some container → container ≠ [] → recursive = true →
      ∃ search, inside container = some search ∧
        Decides (InScope contains recursive container) condition context search) :
    ∃ search, checkInside inside contains recursive item = some search ∧
      Decides (fun other => recursive = true ∧ Below contains item other) condition context
        search := by
  have nothing : (∀ other, ¬(recursive = true ∧ Below contains item other)) →
      Decides (fun other => recursive = true ∧ Below contains item other) condition context
        (false, []) := by
    intro isEmpty
    refine ⟨⟨nofun, ?_⟩, forall_mem_nil _⟩
    rintro ⟨other, isBelow, -⟩
    exact absurd isBelow (isEmpty other)
  unfold checkInside
  cases isContainer : contains item with
  | none =>
    refine ⟨_, rfl, nothing ?_⟩
    rintro other ⟨-, isBelow⟩
    exact not_below_of_empty (by simp [isContainer]) isBelow
  | some container =>
    cases container with
    | nil =>
      refine ⟨_, rfl, nothing ?_⟩
      rintro other ⟨-, isBelow⟩
      exact not_below_of_empty (by simp [isContainer]) isBelow
    | cons first more =>
      cases isRecursive : recursive with
      | false =>
        refine ⟨_, rfl, ?_⟩
        rw [isRecursive] at nothing
        exact nothing (by simp)
      | true =>
        rw [isRecursive] at nested
        rcases nested _ isContainer (cons_ne_nil first more) rfl with
          ⟨search, isSearch, decides⟩
        refine ⟨search, isSearch, decides.of_iff ?_⟩
        intro other
        rw [below_iff isContainer]
        simp

theorem inScope_cons {rest : List ε} {other : ε} :
    InScope contains recursive (item :: rest) other ↔
      other = item ∨ (recursive = true ∧ Below contains item other) ∨
        InScope contains recursive rest other := by
  simp only [InScope, mem_cons, exists_eq_or_imp]
  tauto

/-- The loop decides about its container. -/
theorem checkItems_decides (container : List ε)
    (nested : ∀ item ∈ container, ∃ search,
      checkInside inside contains recursive item = some search ∧
        Decides (fun other => recursive = true ∧ Below contains item other) condition context
          search) :
    ∃ search, checkItems inside contains condition recursive context container = some search ∧
      Decides (InScope contains recursive container) condition context search := by
  induction container with
  | nil =>
    refine ⟨(false, []), rfl, ⟨nofun, ?_⟩, forall_mem_nil _⟩
    rintro ⟨item, isScope | ⟨-, holder, isHolder, -⟩, -⟩
    · cases isScope
    · cases isHolder
  | cons item rest ih =>
    rw [checkItems]
    by_cases meets : condition { context with child := some item } = true
    · refine ⟨(true, [item]), if_pos meets, ?_, ?_⟩
      · exact iff_of_true rfl ⟨item, inScope_cons.mpr (.inl rfl), meets⟩
      · intro other isSeen
        exact inScope_cons.mpr (.inl (List.mem_singleton.mp isSeen))
    · rw [if_neg meets]
      rcases nested item mem_cons_self with ⟨⟨found, seen⟩, isInside, inside⟩
      rw [isInside]
      cases found with
      | true =>
        refine ⟨(true, item :: seen), rfl, ?_, ?_⟩
        · rcases inside.found.mp rfl with ⟨other, isBelow, otherMeets⟩
          exact iff_of_true rfl ⟨other, inScope_cons.mpr (.inr (.inl isBelow)), otherMeets⟩
        · intro other isSeen
          rw [inScope_cons]
          rcases List.mem_cons.mp isSeen with rfl | isSeen
          · exact .inl rfl
          · exact .inr (.inl (inside.seen other isSeen))
      | false =>
        rcases ih fun other isRest => nested other (mem_cons_of_mem item isRest) with
          ⟨later, isLater, decides⟩
        refine ⟨(later.1, item :: (seen ++ later.2)), by rw [isLater]; rfl, ?_, ?_⟩
        · rw [decides.found]
          constructor
          · rintro ⟨other, isScope, otherMeets⟩
            exact ⟨other, inScope_cons.mpr (.inr (.inr isScope)), otherMeets⟩
          · rintro ⟨other, isScope, otherMeets⟩
            rcases inScope_cons.mp isScope with rfl | isBelow | isScope
            · exact absurd otherMeets meets
            · exact absurd (inside.found.mpr ⟨other, isBelow, otherMeets⟩) nofun
            · exact ⟨other, isScope, otherMeets⟩
        · intro other isSeen
          rw [inScope_cons]
          rcases List.mem_cons.mp isSeen with rfl | isSeen
          · exact .inl rfl
          · rcases List.mem_append.mp isSeen with isSeen | isSeen
            · exact .inr (.inl (inside.seen other isSeen))
            · exact .inr (.inr (decides.seen other isSeen))

/-- By induction on the bound. -/
theorem checkContainer?_decides (condition : QueryContext ε → Bool) (recursive : Bool)
    (context : QueryContext ε) (depth : Nat) (container : List ε)
    (trees : ∀ item ∈ container, IsTree contains item)
    (enough : ∀ item ∈ container, {other | Below contains item other}.ncard < depth)
    (positive : 0 < depth) :
    ∃ search, checkContainer? contains condition recursive context depth container = some search ∧
      Decides (InScope contains recursive container) condition context search := by
  induction depth generalizing container with
  | zero => exact absurd positive (Nat.lt_irrefl 0)
  | succ depth ih =>
    apply checkItems_decides container
    intro item isItem
    apply checkInside_decides
    intro inner isInner nonempty _
    have holds : ∀ child ∈ inner, Holds contains item child :=
      fun child isChild => ⟨inner, isInner, isChild⟩
    have fewer : ∀ child ∈ inner, {other | Below contains child other}.ncard < depth := by
      intro child isChild
      exact ((trees item isItem).ncard_lt (holds child isChild)).trans_le
        (Nat.le_of_lt_succ (enough item isItem))
    rcases exists_mem_of_ne_nil inner nonempty with ⟨child, isChild⟩
    apply ih inner
    · intro other isOther
      exact (trees item isItem).of_holds (holds other isOther)
    · exact fewer
    · exact (Nat.zero_le _).trans_lt (fewer child isChild)

/-- The search through containers ends with the right answer, and visits only what is inside. -/
theorem containsValue?_correct (contains : ε → Option (List ε)) (condition : QueryContext ε → Bool)
    (recursive : Bool) (context : QueryContext ε) (tree : IsTree contains context.entity) :
    ∃ depth search, containsValue? contains condition recursive depth context = some search ∧
      (search.1 = true ↔ ∃ item, InReach contains recursive context.entity item ∧
        condition { context with child := some item } = true) ∧
      ∀ item ∈ search.2,
        InReach contains recursive context.entity item ∧ item ≠ context.entity := by
  have apart : ∀ item, InReach contains recursive context.entity item → item ≠ context.entity := by
    rintro _ inReach rfl
    apply tree.acyclic context.entity .refl
    cases recursive with
    | false => exact .single inReach
    | true => exact inReach
  unfold containsValue?
  cases isContainer : contains context.entity with
  | none =>
    have nothing : ∀ item, ¬InReach contains recursive context.entity item := by
      intro item inReach
      have isBelow : Below contains context.entity item := by
        cases recursive with
        | false => exact .single inReach
        | true => exact inReach
      exact not_below_of_empty (by simp [isContainer]) isBelow
    refine ⟨0, (false, []), rfl, ⟨nofun, ?_⟩, forall_mem_nil _⟩
    rintro ⟨item, inReach, -⟩
    exact absurd inReach (nothing item)
  | some container =>
    have holds : ∀ item ∈ container, Holds contains context.entity item :=
      fun item isItem => ⟨container, isContainer, isItem⟩
    have reach : ∀ item, InScope contains recursive container item ↔
        InReach contains recursive context.entity item := by
      intro item
      cases recursive with
      | false => simp [InScope, InReach, Holds, isContainer]
      | true => exact (below_iff isContainer).symm
    rcases checkContainer?_decides condition recursive context
      ({item | Below contains context.entity item}.ncard + 1) container
      (fun item isItem => tree.of_holds (holds item isItem))
      (fun item isItem => Nat.lt_succ_of_lt (tree.ncard_lt (holds item isItem)))
      (Nat.succ_pos _) with ⟨search, isSearch, decides⟩
    have reached := decides.of_iff reach
    exact ⟨_, search, isSearch, reached.found, fun item isSeen =>
      ⟨reached.seen item isSeen, apart item (reached.seen item isSeen)⟩⟩

/-- A bag with a ring, and a coin. -/
def chest : Nat → Option (List Nat)
  | 0 => some [1, 2]
  | 1 => some [3]
  | _ => none

theorem chest_holds {parent child : Nat} (holds : Holds chest parent child) :
    parent < child ∧ child ≤ 3 := by
  rcases holds with ⟨container, isContainer, isChild⟩
  unfold chest at isContainer
  split at isContainer
  · cases isContainer
    simp at isChild
    omega
  · cases isContainer
    simp at isChild
    omega
  · cases isContainer

theorem chest_below {parent child : Nat} (isBelow : Below chest parent child) :
    parent < child ∧ child ≤ 3 := by
  induction isBelow with
  | single holds => exact chest_holds holds
  | tail _ holds ih => exact ⟨ih.1.trans (chest_holds holds).1, (chest_holds holds).2⟩

theorem chest_isTree : IsTree chest 0 where
  finite := (Set.finite_le_nat 3).subset fun _ isBelow => (chest_below isBelow).2
  acyclic := fun item _ isBelow => Nat.lt_irrefl item (chest_below isBelow).1

/-- The ring is found by the recursive function. -/
theorem containsValue?_chest :
    ∃ depth search,
      containsValue? chest (fun context => context.child = some 3) true depth
          ⟨0, none, none, none, none⟩ = some search ∧
        (search.1 = true ↔ ∃ item, InReach chest true 0 item ∧ some item = some 3) ∧
        ∀ item ∈ search.2, InReach chest true 0 item ∧ item ≠ 0 := by
  rcases containsValue?_correct chest (fun context => context.child = some 3) true
    ⟨0, none, none, none, none⟩ chest_isTree with ⟨depth, search, isSearch, found, seen⟩
  exact ⟨depth, search, isSearch, by simpa using found, seen⟩

end Cyphesis.EntityFilter
