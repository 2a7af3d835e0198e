import Mathlib.Data.List.Perm.Basic
import Mathlib.Data.List.Nodup

/-!
# Removing from a vector by moving the last element

Where the order of a vector does not matter, the last element takes the place of a removed one.
-/

namespace Cyphesis.Foundation

open List

universe u v

variable {α : Type u} {σ : Type v}

/-- The last one takes its place. -/
def removeAndShift [DecidableEq α] (entry : α) : List α → List α
  | [] => []
  | other :: rest =>
    if other = entry then
      match rest.getLast? with
      | none => []
      | some last => last :: rest.dropLast
    else other :: removeAndShift entry rest

theorem removeAndShift_perm [DecidableEq α] (entry : α) (collection : List α) :
    (removeAndShift entry collection).Perm (collection.erase entry) := by
  induction collection with
  | nil => exact List.Perm.refl []
  | cons other rest ih =>
    rw [removeAndShift, erase_cons]
    by_cases found : other = entry
    · simp only [found, if_true, beq_self_eq_true]
      cases isLast : rest.getLast? with
      | none =>
        rw [List.getLast?_eq_none_iff.mp isLast]
      | some last =>
        have split := dropLast_append_getLast? last isLast
        have rotated : (last :: rest.dropLast).Perm (rest.dropLast ++ [last]) :=
          (perm_append_singleton last rest.dropLast).symm
        rw [split] at rotated
        exact rotated
    · rw [if_neg found, if_neg (by simpa using found)]
      exact ih.cons other

/-- Visit a number of elements from an index on. -/
def sweep (visit : σ → α → σ × Bool) : Nat → Nat → σ → List α → σ × Nat × List α
  | 0, index, state, vector => (state, index, vector)
  | remaining + 1, index, state, vector =>
    match vector[index]? with
    | none => (state, index, vector)
    | some entry =>
      match visit state entry with
      | (next, true) => sweep visit remaining (index + 1) next vector
      | (next, false) =>
        -- The last element takes this place, unless it is in it.
        sweep visit remaining index next
          (if remaining = 0 then vector
            else (vector[index + remaining]?).elim vector (vector.set index))

/-- The elements that stay, in the order in which they are visited. -/
def staying (visit : σ → α → σ × Bool) : σ → List α → List α
  | _, [] => []
  | state, entry :: rest =>
    if (visit state entry).2 then entry :: staying visit (visit state entry).1 rest
    else staying visit (visit state entry).1 rest

variable (visit : σ → α → σ × Bool)

/-- After visits in an order. -/
def visitAll (state : σ) (order : List α) : σ :=
  order.foldl (fun state entry => (visit state entry).1) state

section

variable {state next : σ} {entry : α}

section

variable {visit}

theorem sweep_of_stay
    (visited : visit state entry = (next, true)) (count : Nat) (done rest : List α) :
    sweep visit (count + 1) done.length state (done ++ entry :: rest) =
      sweep visit count (done ++ [entry]).length next (done ++ [entry] ++ rest) := by
  have here : (done ++ entry :: rest)[done.length]? = some entry := by simp
  rw [sweep, here]
  simp only [visited, length_append, length_singleton, append_assoc, singleton_append]

theorem sweep_of_last
    (visited : visit state entry = (next, false)) (done rest : List α) :
    sweep visit 1 done.length state (done ++ entry :: rest) =
      (next, done.length, done ++ entry :: rest) := by
  have here : (done ++ entry :: rest)[done.length]? = some entry := by simp
  rw [sweep, here]
  simp only [visited, if_true, sweep]

theorem sweep_of_go
    (visited : visit state entry = (next, false)) (done between rest : List α) (last : α) :
    sweep visit (between.length + 2) done.length state (done ++ entry :: between ++ last :: rest) =
      sweep visit (between.length + 1) done.length next
        (done ++ last :: between ++ last :: rest) := by
  have here : (done ++ entry :: between ++ last :: rest)[done.length]? = some entry := by simp
  have there : (done ++ entry :: between ++ last :: rest)[done.length + (between.length + 1)]? =
      some last := by
    have isLength : done.length + (between.length + 1) = (done ++ entry :: between).length := by
      simp
    rw [isLength, getElem?_append_right (Nat.le_refl _), Nat.sub_self]
    rfl
  rw [sweep, here]
  simp only [visited, Nat.succ_ne_zero, if_false, there, Option.elim]
  congr 1
  simp

end

end

theorem sweep_spec (pending : List α) (state : σ)
    (done rest : List α) :
    ∃ order shifted, order.Perm pending ∧
      sweep visit pending.length done.length state (done ++ pending ++ rest) =
        (visitAll visit state order, (done ++ staying visit state order).length,
          done ++ staying visit state order ++ shifted) := by
  induction remaining : pending.length generalizing pending state done rest with
  | zero =>
    obtain rfl := List.length_eq_zero_iff.mp remaining
    exact ⟨[], rest, List.Perm.refl [], by simp [sweep, visitAll, staying]⟩
  | succ count ih =>
    cases pending with
    | nil => simp at remaining
    | cons entry pending =>
      have shorter : pending.length = count := by simpa using remaining
      cases visited : visit state entry with
      | mk next stays =>
        cases stays with
        | true =>
          obtain ⟨order, shifted, isPerm, swept⟩ :=
            ih pending next (done ++ [entry]) rest shorter
          refine ⟨entry :: order, shifted, isPerm.cons entry, ?_⟩
          rw [append_assoc, cons_append, sweep_of_stay visited, ← append_assoc, swept]
          simp [visitAll, staying, visited]
        | false =>
          rcases eq_nil_or_concat pending with rfl | ⟨between, last, rfl⟩
          · obtain rfl : count = 0 := by simpa using shorter.symm
            refine ⟨[entry], entry :: rest, List.Perm.refl _, ?_⟩
            rw [append_assoc, singleton_append, sweep_of_last visited]
            simp [visitAll, staying, visited]
          · -- The last element is the next to be visited.
            obtain rfl : count = between.length + 1 := by simpa using shorter.symm
            obtain ⟨order, shifted, isPerm, swept⟩ :=
              ih (last :: between) next done (last :: rest) (by simp)
            have moved : (last :: between).Perm (between.concat last) := by
              rw [concat_eq_append]
              exact (perm_append_singleton last between).symm
            refine ⟨entry :: order, shifted, (isPerm.trans moved).cons entry, ?_⟩
            have shape : done ++ entry :: between.concat last ++ rest =
                done ++ entry :: between ++ last :: rest := by simp
            rw [shape, sweep_of_go visited, swept]
            simp [visitAll, staying, visited]

theorem sweep_all (state : σ) (vector : List α) :
    ∃ order, order.Perm vector ∧
      (sweep visit vector.length 0 state vector).1 = visitAll visit state order ∧
      (sweep visit vector.length 0 state vector).2.2.take
          (sweep visit vector.length 0 state vector).2.1 = staying visit state order := by
  obtain ⟨order, shifted, isPerm, swept⟩ := sweep_spec visit vector state [] []
  simp only [nil_append, append_nil, length_nil] at swept
  refine ⟨order, isPerm, ?_, ?_⟩
  · rw [swept]
  · rw [swept]
    simp

end Cyphesis.Foundation
