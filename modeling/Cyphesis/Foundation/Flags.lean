import Mathlib.Data.BitVec

/-!
# Bit flags

A 32-bit word of flags with the three operations of `modules/Flags.h`. A mask may name several bits;
`hasFlags` asks whether *any* of them is set.
-/

namespace Cyphesis.Foundation

/-- A word of binary flags. -/
structure Flags where
  bits : BitVec 32
  deriving DecidableEq

namespace Flags

/-- No flag set. -/
def empty : Flags :=
  ⟨0⟩

def addFlags (flags : Flags) (mask : BitVec 32) : Flags :=
  ⟨flags.bits ||| mask⟩

def removeFlags (flags : Flags) (mask : BitVec 32) : Flags :=
  ⟨flags.bits &&& ~~~mask⟩

/-- Is any bit of the mask set? -/
def hasFlags (flags : Flags) (mask : BitVec 32) : Bool :=
  flags.bits &&& mask != 0

/-- Are all bits of the mask set? -/
def hasAll (flags : Flags) (mask : BitVec 32) : Bool :=
  flags.bits &&& mask == mask

@[simp]
theorem hasFlags_empty (mask : BitVec 32) : empty.hasFlags mask = false := by
  simp [empty, hasFlags]

variable (flags : Flags)

theorem hasFlags_or (left right : BitVec 32) :
    flags.hasFlags (left ||| right) = (flags.hasFlags left || flags.hasFlags right) := by
  have distrib : flags.bits &&& (left ||| right) =
      (flags.bits &&& left) ||| (flags.bits &&& right) := by
    ext i
    simp [Bool.and_or_distrib_left]
  rw [Bool.eq_iff_iff]
  have zero : (flags.bits &&& left) ||| (flags.bits &&& right) = 0 ↔
      flags.bits &&& left = 0 ∧ flags.bits &&& right = 0 := BitVec.or_eq_zero_iff
  simp only [hasFlags, distrib, bne_iff_ne, ne_eq, Bool.or_eq_true]
  rw [zero, not_and_or]

variable {mask added : BitVec 32}

theorem hasFlags_addFlags_of_subset (overlap : added &&& mask ≠ 0) :
    (flags.addFlags added).hasFlags mask = true := by
  have distrib : (flags.bits ||| added) &&& mask = (flags.bits &&& mask) ||| (added &&& mask) := by
    ext i
    simp [Bool.and_or_distrib_right]
  simp only [hasFlags, addFlags, bne_iff_ne, distrib]
  intro zero
  exact overlap (BitVec.or_eq_zero_iff.mp zero).2

theorem hasFlags_addFlags_of_disjoint (disjoint : added &&& mask = 0) :
    (flags.addFlags added).hasFlags mask = flags.hasFlags mask := by
  have distrib : (flags.bits ||| added) &&& mask = (flags.bits &&& mask) ||| (added &&& mask) := by
    ext i
    simp [Bool.and_or_distrib_right]
  simp [hasFlags, addFlags, distrib, disjoint]

theorem hasFlags_removeFlags_of_subset {mask removed : BitVec 32}
    (subset : mask &&& ~~~removed = 0) :
    (flags.removeFlags removed).hasFlags mask = false := by
  have regroup : flags.bits &&& ~~~removed &&& mask = flags.bits &&& (mask &&& ~~~removed) := by
    rw [BitVec.and_assoc, BitVec.and_comm (~~~removed) mask]
  simp [hasFlags, removeFlags, regroup, subset]

theorem hasFlags_removeFlags_of_disjoint {mask removed : BitVec 32}
    (disjoint : mask &&& removed = 0) :
    (flags.removeFlags removed).hasFlags mask = flags.hasFlags mask := by
  have kept : flags.bits &&& ~~~removed &&& mask = flags.bits &&& mask := by
    ext i bound
    have bit := congrArg (fun word : BitVec 32 => word[i]) disjoint
    simp only [BitVec.getElem_and] at bit
    simp only [BitVec.getElem_and, BitVec.getElem_not]
    cases maskBit : mask[i] <;> simp_all
  simp [hasFlags, removeFlags, kept]

end Flags

end Cyphesis.Foundation
