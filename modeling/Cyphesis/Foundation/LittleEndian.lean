import Mathlib.Data.Nat.ModEq

/-!
# Little-endian numbers

Numbers as lists of bytes with the lowest byte first.
-/

namespace Cyphesis.Foundation

open List

/-- Lowest bytes of a number. -/
def toBytes : Nat → Nat → List UInt8
  | 0, _ => []
  | count + 1, value => UInt8.ofNat value :: toBytes count (value / 256)

def ofBytes : List UInt8 → Nat
  | [] => 0
  | byte :: rest => byte.toNat + 256 * ofBytes rest

@[simp]
theorem length_toBytes (count value : Nat) : (toBytes count value).length = count := by
  induction count generalizing value with
  | zero => rfl
  | succ count ih => rw [toBytes, length_cons, ih]

theorem ofBytes_toBytes (count value : Nat) :
    ofBytes (toBytes count value) = value % 256 ^ count := by
  induction count generalizing value with
  | zero => simp [toBytes, ofBytes, Nat.mod_one]
  | succ count ih =>
    rw [toBytes, ofBytes, ih, Nat.pow_succ', Nat.mod_mul]
    simp

theorem ofBytes_toBytes_of_lt {count value : Nat} (fits : value < 256 ^ count) :
    ofBytes (toBytes count value) = value := by
  rw [ofBytes_toBytes, Nat.mod_eq_of_lt fits]

variable (value : UInt16)

/-- A 16-bit number. -/
def shortBytes : List UInt8 :=
  toBytes 2 value.toNat

/-- A 32-bit number. -/
def intBytes (value : UInt32) : List UInt8 :=
  toBytes 4 value.toNat

@[simp]
theorem length_shortBytes : (shortBytes value).length = 2 :=
  length_toBytes 2 _

@[simp]
theorem length_intBytes (value : UInt32) : (intBytes value).length = 4 :=
  length_toBytes 4 _

@[simp]
theorem ofBytes_shortBytes : UInt16.ofNat (ofBytes (shortBytes value)) = value := by
  rw [shortBytes, ofBytes_toBytes_of_lt value.toNat_lt, UInt16.ofNat_toNat]

@[simp]
theorem ofBytes_intBytes (value : UInt32) : UInt32.ofNat (ofBytes (intBytes value)) = value := by
  rw [intBytes, ofBytes_toBytes_of_lt value.toNat_lt, UInt32.ofNat_toNat]

/-- Groups of so many bytes. -/
def groups (size : Nat) : Nat → List UInt8 → List (List UInt8)
  | 0, _ => []
  | count + 1, bytes => bytes.take size :: groups size count (bytes.drop size)

theorem groups_flatMap {α : Type} {size : Nat} {encode : α → List UInt8}
    (sized : ∀ value, (encode value).length = size) (values : List α) :
    groups size values.length (values.flatMap encode) = values.map encode := by
  induction values with
  | nil => rfl
  | cons value rest ih =>
    rw [length_cons, groups, flatMap_cons, map_cons]
    congr 1
    · rw [← sized value, take_left]
    · rw [← sized value, drop_left, sized value, ih]

end Cyphesis.Foundation
