import Std.Data.ExtTreeMap
import Std.Data.TreeMap
import Mathlib.Data.List.Nodup

/-!
# Loops over the entries of a map

A loop over a map that changes, at each entry, only what its state holds for that key does the same
to every key as that one entry does.
-/

namespace Cyphesis.Foundation

open Std List Std.ExtTreeMap

universe u v w x

variable {κ : Type u} {α : Type v} {σ : Type w} {β : Type x}

section Fold

variable {slot : σ → κ → β} (step : σ → κ × α → σ) {change : κ → α → β → β}

theorem foldl_slot_of_not_mem
    (others : ∀ state entry key, key ≠ entry.1 → slot (step state entry) key = slot state key)
    (entries : List (κ × α)) (state : σ) {key : κ} (absent : ∀ entry ∈ entries, entry.1 ≠ key) :
    slot (entries.foldl step state) key = slot state key := by
  induction entries generalizing state with
  | nil => rfl
  | cons entry rest ih =>
    rw [foldl_cons, ih _ fun other isRest => absent other (mem_cons_of_mem _ isRest)]
    exact others state entry key (absent entry mem_cons_self).symm

theorem foldl_slot_of_mem
    (own : ∀ state entry, slot (step state entry) entry.1 =
      change entry.1 entry.2 (slot state entry.1))
    (others : ∀ state entry key, key ≠ entry.1 → slot (step state entry) key = slot state key)
    {entries : List (κ × α)} (distinct : entries.Pairwise fun left right => left.1 ≠ right.1)
    (state : σ) {key : κ} {value : α} (isEntry : (key, value) ∈ entries) :
    slot (entries.foldl step state) key = change key value (slot state key) := by
  induction entries generalizing state with
  | nil => simp at isEntry
  | cons entry rest ih =>
    obtain ⟨apart, distinctRest⟩ := List.pairwise_cons.mp distinct
    rw [foldl_cons]
    rcases List.mem_cons.mp isEntry with rfl | isRest
    · rw [foldl_slot_of_not_mem step others rest _ fun other also => (apart other also).symm]
      exact own state (key, value)
    · rw [ih distinctRest _ isRest, others]
      exact (apart _ isRest).symm

end Fold

section Map

variable {cmp : κ → κ → Ordering} [TransCmp cmp] [LawfulEqCmp cmp]

theorem foldl_map_slot (slot : σ → κ → β) (step : σ → κ → α → σ) (change : κ → α → β → β)
    (own : ∀ state key value, slot (step state key value) key = change key value (slot state key))
    (others : ∀ state key value other, other ≠ key →
      slot (step state key value) other = slot state other)
    (map : ExtTreeMap κ α cmp) (state : σ) (key : κ) :
    slot (map.foldl step state) key =
      map[key]?.elim (slot state key) fun value => change key value (slot state key) := by
  have distinct : map.toList.Pairwise fun left right => left.1 ≠ right.1 := by
    refine map.distinct_keys_toList.imp ?_
    intro left right different same
    exact different (LawfulEqCmp.compare_eq_iff_eq.mpr same)
  rw [foldl_eq_foldl_toList]
  cases found : map[key]? with
  | some value =>
    exact foldl_slot_of_mem (fun state entry => step state entry.1 entry.2)
      (fun state entry => own state entry.1 entry.2)
      (fun state entry other => others state entry.1 entry.2 other) distinct state
      (ExtTreeMap.mem_toList_iff_getElem?_eq_some.mpr found)
  | none =>
    refine foldl_slot_of_not_mem (fun state entry => step state entry.1 entry.2)
      (fun state entry other => others state entry.1 entry.2 other) map.toList state ?_
    rintro ⟨other, value⟩ isEntry rfl
    rw [ExtTreeMap.mem_toList_iff_getElem?_eq_some.mp isEntry] at found
    contradiction

theorem getElem?_foldl_erase [DecidableEq κ] (map : ExtTreeMap κ α cmp) (keys : List κ) (key : κ) :
    (keys.foldl (fun rest name => rest.erase name) map)[key]? =
      if key ∈ keys then none else map[key]? := by
  induction keys generalizing map with
  | nil => simp
  | cons first keys ih =>
    rw [foldl_cons, ih, getElem?_erase]
    by_cases same : first = key
    · simp [same]
    · have different : key ≠ first := Ne.symm same
      simp [same, different]

end Map

section Entries

variable [DecidableEq κ]

theorem lookup_cons_eq_ite (key other : κ) (value : α) (rest : List (κ × α)) :
    List.lookup other ((key, value) :: rest) =
      if other = key then some value else rest.lookup other := by
  rw [lookup_cons]
  by_cases same : other = key
  · simp [same]
  · simp [same, beq_false_of_ne same]

variable {entries : List (κ × α)}

section

variable {name : κ} {value : α} (nodup : (entries.map Prod.fst).Nodup)
  (isEntry : entries.lookup name = some value)

include nodup isEntry

/-- Only one of the entries contributes the key. -/
theorem lookup_flatMap_of_nodup
    {added : κ × α → List (κ × β)} {key : κ}
    (others : ∀ entry ∈ entries, entry.1 ≠ name → (added entry).lookup key = none) :
    (entries.flatMap added).lookup key = (added (name, value)).lookup key := by
  induction entries with
  | nil => cases isEntry
  | cons entry rest ih =>
    rcases nodup_cons.mp nodup with ⟨notLater, nodup⟩
    rw [lookup_cons_eq_ite] at isEntry
    rw [flatMap_cons, lookup_append]
    by_cases isName : name = entry.1
    · rw [if_pos isName] at isEntry
      have same : entry = (name, value) := Prod.ext isName.symm (Option.some.inj isEntry)
      have absent : (rest.flatMap added).lookup key = none := by
        rw [lookup_eq_none_iff]
        intro other isOther
        rcases mem_flatMap.mp isOther with ⟨source, isSource, isAdded⟩
        refine lookup_eq_none_iff.mp
          (others source (mem_cons_of_mem _ isSource) fun isAgain => notLater ?_) other isAdded
        rw [← isName, ← isAgain]
        exact mem_map_of_mem isSource
      rw [absent, Option.or_none, same]
    · rw [if_neg isName] at isEntry
      rw [others entry mem_cons_self (Ne.symm isName), Option.none_or]
      exact ih nodup isEntry fun other isOther => others other (mem_cons_of_mem _ isOther)

theorem lookup_filter_of_nodup (keeps : κ × α → Bool) :
    (entries.filter keeps).lookup name = if keeps (name, value) then some value else none := by
  rw [← filterMap_eq_filter, filterMap_eq_flatMap_toList, lookup_flatMap_of_nodup nodup isEntry]
  · by_cases isKept : keeps (name, value) = true <;> simp [isKept]
  · intro entry _ different
    by_cases isKept : keeps entry = true <;> simp [isKept, different.symm]

end

section

variable (entries) (key other : κ)

theorem lookup_filter_ne :
    (entries.filter (·.1 ≠ key)).lookup other =
      if other = key then none else entries.lookup other := by
  induction entries with
  | nil => simp
  | cons entry rest ih =>
    obtain ⟨found, value⟩ := entry
    by_cases isKey : found = key
    · rw [filter_cons_of_neg (by simpa using isKey), ih, lookup_cons_eq_ite, isKey]
      split
      · rfl
      · rfl
    · rw [filter_cons_of_pos (by simpa using isKey), lookup_cons_eq_ite, ih, lookup_cons_eq_ite]
      by_cases same : other = found
      · rw [if_pos same, if_pos same, if_neg (same ▸ isKey)]
      · rw [if_neg same, if_neg same]

theorem lookup_insert_filter_ne (value : α) :
    List.lookup other ((key, value) :: entries.filter (·.1 ≠ key)) =
      if other = key then some value else entries.lookup other := by
  rw [lookup_cons_eq_ite, lookup_filter_ne]
  split
  · rfl
  · rfl

end

end Entries

section Count

variable {ι : Type x} [BEq ι] [LawfulBEq ι] {f : κ × α → List ι} {item : ι} {key : κ}

variable {entries : List (κ × α)}

section

variable (own : ∀ entry, item ∈ f entry → entry.1 = key)

include own

theorem count_flatMap_of_not_mem (absent : ∀ entry ∈ entries, entry.1 ≠ key) :
    (entries.flatMap f).count item = 0 := by
  refine List.count_eq_zero.mpr fun isMember => ?_
  obtain ⟨entry, isEntry, inEntry⟩ := List.mem_flatMap.mp isMember
  exact absent entry isEntry (own entry inEntry)

theorem count_flatMap_of_mem
    (distinct : entries.Pairwise fun left right => left.1 ≠ right.1) {value : α}
    (isEntry : (key, value) ∈ entries) :
    (entries.flatMap f).count item = (f (key, value)).count item := by
  induction entries with
  | nil => simp at isEntry
  | cons entry rest ih =>
    obtain ⟨apart, distinctRest⟩ := List.pairwise_cons.mp distinct
    rw [flatMap_cons, count_append]
    rcases List.mem_cons.mp isEntry with rfl | isRest
    · rw [count_flatMap_of_not_mem own fun other also => (apart other also).symm, Nat.add_zero]
    · have none : (f entry).count item = 0 :=
        List.count_eq_zero.mpr fun inEntry => apart _ isRest (own entry inEntry)
      rw [none, Nat.zero_add, ih distinctRest isRest]

end

variable {cmp : κ → κ → Ordering} [TransCmp cmp] [LawfulEqCmp cmp]

theorem count_toList_flatMap (map : TreeMap κ α cmp)
    (own : ∀ entry, item ∈ f entry → entry.1 = key) :
    (map.toList.flatMap f).count item =
      map[key]?.elim 0 fun value => (f (key, value)).count item := by
  cases found : map[key]? with
  | some value =>
    refine count_flatMap_of_mem own ?_ (TreeMap.mem_toList_iff_getElem?_eq_some.mpr found)
    refine map.distinct_keys_toList.imp ?_
    intro left right different same
    exact different (LawfulEqCmp.compare_eq_iff_eq.mpr same)
  | none =>
    refine count_flatMap_of_not_mem own ?_
    rintro ⟨other, value⟩ isEntry rfl
    rw [TreeMap.mem_toList_iff_getElem?_eq_some.mp isEntry] at found
    contradiction

end Count

end Cyphesis.Foundation
