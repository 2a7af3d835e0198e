import Mathlib.Algebra.Group.Int.Defs

/-!
# Machine integers

The values of an `int` of 32 bits, and operations that have no result outside of them.
-/

namespace Cyphesis.Foundation

/-- An `int` can hold the value. -/
def FitsInt (value : Int) : Prop :=
  -(2 ^ 31) ≤ value ∧ value < 2 ^ 31

instance (value : Int) : Decidable (FitsInt value) :=
  inferInstanceAs (Decidable (_ ∧ _))

/-- Result of an operation on `int`s, which is undefined where it does not fit. -/
def toInt (value : Int) : Option Int :=
  if FitsInt value then some value else none

theorem toInt_eq_some {value result : Int} :
    toInt value = some result ↔ FitsInt value ∧ value = result := by
  simp [toInt]

/-- `std::numeric_limits<int>::max()` -/
def maxInt : Int :=
  2 ^ 31 - 1

/-- `std::numeric_limits<int>::min()` -/
def minInt : Int :=
  -(2 ^ 31)

end Cyphesis.Foundation
