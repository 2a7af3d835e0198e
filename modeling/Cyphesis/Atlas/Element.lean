import Mathlib.Logic.Basic

/-!
# Atlas message elements

`Atlas::Message::Element` is the value type of every property. A map is the list of its entries in
key order. Values of different types differ, doubles are compared with `==`, containers entry by
entry.
-/

namespace Cyphesis.Atlas

/-- A dynamically typed Atlas value. -/
inductive Element where
  | none
  | int (value : Int64)
  | float (value : Float)
  | ptr (address : Nat)
  | string (value : String)
  | map (entries : List (String × Element))
  | list (items : List Element)

/-- The type tag returned by `Element::getType`. -/
inductive ElementType where
  | none
  | int
  | float
  | ptr
  | string
  | map
  | list
  deriving DecidableEq

namespace Element

instance : Inhabited Element :=
  ⟨.none⟩

def getType : Element → ElementType
  | .none => .none
  | .int _ => .int
  | .float _ => .float
  | .ptr _ => .ptr
  | .string _ => .string
  | .map _ => .map
  | .list _ => .list

def isNone : Element → Bool
  | .none => true
  | _ => false

/-- Is this an integer or a float? -/
def isNum : Element → Bool
  | .int _ => true
  | .float _ => true
  | _ => false

/-- Value of a number as a double. -/
def asNum : Element → Float
  | .int value => value.toFloat
  | .float value => value
  | _ => 0

mutual

/-- `Element::operator==`. -/
def equal : Element → Element → Bool
  | .none, .none => true
  | .int left, .int right => left == right
  | .float left, .float right => left == right
  | .ptr left, .ptr right => left == right
  | .string left, .string right => left == right
  | .map left, .map right => equalEntries left right
  | .list left, .list right => equalItems left right
  | _, _ => false

/-- Two maps compared in key order. -/
def equalEntries : List (String × Element) → List (String × Element) → Bool
  | [], [] => true
  | (leftKey, leftValue) :: left, (rightKey, rightValue) :: right =>
    leftKey == rightKey && equal leftValue rightValue && equalEntries left right
  | _, _ => false

/-- Itemwise comparison of two lists. -/
def equalItems : List Element → List Element → Bool
  | [], [] => true
  | leftItem :: left, rightItem :: right => equal leftItem rightItem && equalItems left right
  | _, _ => false

end

instance : BEq Element :=
  ⟨equal⟩

end Element

/-- `map[key] = value`, in key order. -/
def mapAssign (key : String) (value : Element) : List (String × Element) → List (String × Element)
  | [] => [(key, value)]
  | (first, old) :: rest =>
    if key = first then (key, value) :: rest
    else if key < first then (key, value) :: (first, old) :: rest
    else (first, old) :: mapAssign key value rest

/-- `map.erase(key)`. -/
def mapErase (key : String) (entries : List (String × Element)) : List (String × Element) :=
  entries.filter fun entry => entry.1 ≠ key

end Cyphesis.Atlas
