import Mathlib.Data.List.Basic
import Mathlib.Order.Lattice

/-!
# Multimaps

A map that may hold a key any number of times, with its entries in the order of their keys.
-/

namespace Cyphesis.Foundation

open List

universe u v

structure Multimap (κ : Type u) (α : Type v) [LinearOrder κ] where
  entries : List (κ × α)
  sorted : entries.Pairwise fun first second => first.1 ≤ second.1

namespace Multimap

variable {κ : Type u} {α : Type v} [LinearOrder κ]

variable (map : Multimap κ α) (key : κ)

/-- Values of a key in order. -/
def equalRange : List α :=
  (map.entries.filter fun entry => entry.1 = key).map Prod.snd

/-- The first value of a key. -/
def find? : Option α :=
  (map.equalRange key).head?

def empty : Multimap κ α :=
  ⟨[], .nil⟩

/-- After those with the same key. -/
def insertAfter (key : κ) (value : α) : List (κ × α) → List (κ × α)
  | [] => [(key, value)]
  | entry :: rest =>
    if entry.1 ≤ key then entry :: insertAfter key value rest
    else (key, value) :: entry :: rest

variable {entries : List (κ × α)}

theorem mem_insertAfter {key : κ} {value : α} {entry : κ × α}
    (isEntry : entry ∈ insertAfter key value entries) :
    entry = (key, value) ∨ entry ∈ entries := by
  induction entries with
  | nil => exact .inl (List.mem_singleton.mp isEntry)
  | cons first rest ih =>
    rw [insertAfter] at isEntry
    split at isEntry
    · rcases List.mem_cons.mp isEntry with rfl | isRest
      · exact .inr mem_cons_self
      · exact (ih isRest).imp_right (mem_cons_of_mem first)
    · exact List.mem_cons.mp isEntry

theorem sorted_insertAfter (value : α)
    (sorted : entries.Pairwise fun first second => first.1 ≤ second.1) :
    (insertAfter key value entries).Pairwise fun first second => first.1 ≤ second.1 := by
  induction entries with
  | nil => exact pairwise_singleton _ _
  | cons entry rest ih =>
    rcases List.pairwise_cons.mp sorted with ⟨below, sortedRest⟩
    rw [insertAfter]
    split
    · rename_i before
      refine List.pairwise_cons.mpr ⟨?_, ih sortedRest⟩
      intro other isOther
      rcases mem_insertAfter isOther with rfl | isRest
      · exact before
      · exact below other isRest
    · rename_i after
      have keyBelow : key ≤ entry.1 := le_of_lt (lt_of_not_ge after)
      refine List.pairwise_cons.mpr ⟨?_, sorted⟩
      intro other isOther
      rcases List.mem_cons.mp isOther with rfl | isRest
      · exact keyBelow
      · exact keyBelow.trans (below other isRest)

/-- A value is put in after those of its key. -/
def emplace (value : α) : Multimap κ α :=
  ⟨insertAfter key value map.entries, sorted_insertAfter key value map.sorted⟩

/-- The first value of a key is taken out. -/
def eraseFirst : Multimap κ α :=
  ⟨map.entries.eraseP fun entry => entry.1 = key, map.sorted.sublist eraseP_sublist⟩

theorem filter_insertAfter (key other : κ) (value : α)
    (sorted : entries.Pairwise fun first second => first.1 ≤ second.1) :
    (insertAfter key value entries).filter (fun entry => entry.1 = other) =
      entries.filter (fun entry => entry.1 = other) ++
        if key = other then [(key, value)] else [] := by
  induction entries with
  | nil =>
    rw [insertAfter]
    by_cases same : key = other
    · simp [same]
    · simp [same]
  | cons entry rest ih =>
    rcases List.pairwise_cons.mp sorted with ⟨below, sortedRest⟩
    rw [insertAfter]
    split
    · rw [filter_cons, filter_cons, ih sortedRest]
      split
      · rfl
      · rfl
    · rename_i after
      have keyBelow : key < entry.1 := lt_of_not_ge after
      by_cases same : key = other
      · subst same
        -- What comes later is above the key.
        have none : (entry :: rest).filter (fun entry => entry.1 = key) = [] := by
          apply List.filter_eq_nil_iff.mpr
          intro later isLater
          rcases List.mem_cons.mp isLater with rfl | isRest
          · simpa using keyBelow.ne'
          · simpa using (keyBelow.trans_le (below later isRest)).ne'
        rw [filter_cons_of_pos (by simp), none]
        simp
      · rw [filter_cons_of_neg (by simpa using same), if_neg same, append_nil]

theorem equalRange_emplace (key other : κ) (value : α) :
    (map.emplace key value).equalRange other =
      map.equalRange other ++ if key = other then [value] else [] := by
  rw [equalRange, emplace, filter_insertAfter key other value map.sorted, map_append, equalRange]
  split
  · rfl
  · rfl

theorem equalRange_eraseFirst (key other : κ) :
    (map.eraseFirst key).equalRange other =
      if key = other then (map.equalRange other).tail else map.equalRange other := by
  rw [equalRange, equalRange, eraseFirst]
  dsimp only
  induction map.entries with
  | nil => simp
  | cons entry rest ih =>
    by_cases isKey : entry.1 = key
    · rw [eraseP_cons_of_pos (by simpa using isKey)]
      by_cases same : key = other
      · simp [same, isKey.trans same]
      · have notOther : entry.1 ≠ other := fun isOther => same (isKey.symm.trans isOther)
        simp [same, notOther]
    · rw [eraseP_cons_of_neg (by simpa using isKey)]
      by_cases same : key = other
      · have notOther : entry.1 ≠ other := fun isOther => isKey (isOther.trans same.symm)
        rw [if_pos same] at ih ⊢
        rw [filter_cons_of_neg (by simpa using notOther),
          filter_cons_of_neg (by simpa using notOther), ih]
      · rw [if_neg same] at ih ⊢
        rw [filter_cons, filter_cons]
        split
        · rw [map_cons, map_cons, ih]
        · exact ih

end Multimap

end Cyphesis.Foundation
