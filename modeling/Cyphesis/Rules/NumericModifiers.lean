import Cyphesis.Rules.Modifier
import Mathlib.Data.Rat.Floor

/-!
# Numeric modifiers in exact arithmetic

The modifiers of a number, with doubles taken as rationals and integers that do not overflow.
-/

namespace Cyphesis.Rules

open List

/-- An integer or a double. -/
inductive Number where
  | int (value : Int)
  | float (value : Rat)
  deriving DecidableEq

namespace Number

def isInt : Number → Bool
  | .int _ => true
  | .float _ => false

def asNum : Number → Rat
  | .int value => value
  | .float value => value

/-- Conversion of a double to an integer. -/
def truncate (value : Rat) : Int :=
  if 0 ≤ value then ⌊value⌋ else ⌈value⌉

variable (value element : Number)

/-- `PrependModifier::process` -/
def prepend : Number :=
  match element, value with
  | .int old, .int added => .int (added + old)
  | .float old, .float added => .float (added + old)
  | element, _ => element

/-- `AppendModifier::process` -/
def append : Number :=
  match element, value with
  | .int old, .int added => .int (old + added)
  | .float old, .float added => .float (old + added)
  | element, _ => element

/-- `SubtractModifier::process` -/
def subtract : Number :=
  match element, value with
  | .int old, .int removed => .int (old - removed)
  | .float old, .float removed => .float (old - removed)
  | element, _ => element

/-- `AddFractionModifier::process` -/
def addFraction (value element baseValue : Number) : Number :=
  match baseValue with
  | .int _ => .int (truncate (element.asNum + baseValue.asNum * value.asNum))
  | .float _ => .float (element.asNum + baseValue.asNum * value.asNum)

end Number

/-- Modifiers with a number, other than the default one. -/
inductive NumericModifier where
  | append (value : Number)
  | prepend (value : Number)
  | subtract (value : Number)
  | addFraction (value : Number)
  deriving DecidableEq

namespace NumericModifier

/-- What a modifier makes of a number, given the base value. -/
def process (modifier : NumericModifier) (element baseValue : Number) : Number :=
  match modifier with
  | .append value => value.append element
  | .prepend value => value.prepend element
  | .subtract value => value.subtract element
  | .addFraction value => value.addFraction element baseValue

/-- Loop of `setAttr` over the modifiers. -/
def applyModifiers (modifiers : List NumericModifier) (baseValue start : Number) : Number :=
  modifiers.foldl (fun attr modifier => modifier.process attr baseValue) start

/-- The number of the modifier is of the kind of the base value, or a fraction. -/
def Fits (baseValue : Number) : NumericModifier → Prop
  | .append value => value.isInt = baseValue.isInt
  | .prepend value => value.isInt = baseValue.isInt
  | .subtract value => value.isInt = baseValue.isInt
  | .addFraction _ => True

instance (baseValue : Number) : DecidablePred (Fits baseValue)
  | .append _ => inferInstanceAs (Decidable (_ = _))
  | .prepend _ => inferInstanceAs (Decidable (_ = _))
  | .subtract _ => inferInstanceAs (Decidable (_ = _))
  | .addFraction _ => isTrue trivial

/-- What is added before a cut. -/
def change (baseValue : Number) : NumericModifier → Rat
  | .append value => value.asNum
  | .prepend value => value.asNum
  | .subtract value => -value.asNum
  | .addFraction value => baseValue.asNum * value.asNum

/-- Negative sums that are cut. -/
def cutUpwards (baseValue : Number) : Int → List NumericModifier → Nat
  | _, [] => 0
  | element, modifier :: rest =>
    let sum := element + modifier.change baseValue
    (if sum < 0 ∧ (⌊modifier.change baseValue⌋ : Rat) ≠ modifier.change baseValue then 1 else 0) +
      cutUpwards baseValue (Number.truncate sum) rest

variable {base : Int} {baseValue : Number} {modifier : NumericModifier}
  {modifiers : List NumericModifier}

theorem process_float {fraction : Rat} (fits : modifier.Fits (.float fraction)) (element : Rat) :
    modifier.process (.float element) (.float fraction) =
      .float (element + modifier.change (.float fraction)) := by
  cases modifier with
  | append value =>
    cases value with
    | int value => cases fits
    | float value => rfl
  | prepend value =>
    cases value with
    | int value => cases fits
    | float value => exact congrArg Number.float (add_comm value element)
  | subtract value =>
    cases value with
    | int value => cases fits
    | float value => exact congrArg Number.float (sub_eq_add_neg element value)
  | addFraction value => rfl

theorem truncate_intCast (value : Int) : Number.truncate value = value := by
  unfold Number.truncate
  split_ifs
  · exact Int.floor_intCast value
  · exact Int.ceil_intCast value

theorem truncate_add (element : Int) (amount : Rat) :
    Number.truncate (element + amount) =
      element + ⌊amount⌋ + if element + amount < 0 ∧ (⌊amount⌋ : Rat) ≠ amount then 1 else 0 := by
  unfold Number.truncate
  by_cases negative : (element : Rat) + amount < 0
  · rw [if_neg (not_le.mpr negative), Int.ceil_intCast_add]
    by_cases whole : (⌊amount⌋ : Rat) = amount
    · rw [if_neg (fun both => both.2 whole), add_zero]
      conv_lhs => rw [← whole, Int.ceil_intCast]
    · rw [if_pos ⟨negative, whole⟩, add_assoc]
      congr 1
      apply (Int.ceil_eq_floor_add_one_iff_notMem amount).mpr
      rintro ⟨value, rfl⟩
      exact whole (congrArg Int.cast (Int.floor_intCast value))
  · rw [if_pos (not_lt.mp negative), if_neg (fun both => negative both.1), add_zero,
      Int.floor_intCast_add]

theorem process_int (fits : modifier.Fits (.int base)) (element : Int) :
    modifier.process (.int element) (.int base) =
      .int (Number.truncate (element + modifier.change (.int base))) := by
  cases modifier with
  | append value =>
    cases value with
    | int value =>
      change Number.int (element + value) = .int (Number.truncate (element + (value : Rat)))
      rw [← Int.cast_add, truncate_intCast]
    | float value => cases fits
  | prepend value =>
    cases value with
    | int value =>
      change Number.int (value + element) = .int (Number.truncate (element + (value : Rat)))
      rw [← Int.cast_add, truncate_intCast, add_comm]
    | float value => cases fits
  | subtract value =>
    cases value with
    | int value =>
      change Number.int (element - value) = .int (Number.truncate (element + -(value : Rat)))
      rw [← Int.cast_neg, ← Int.cast_add, truncate_intCast, sub_eq_add_neg]
    | float value => cases fits
  | addFraction value => rfl

theorem applyModifiers_float {fraction : Rat}
    (fits : ∀ modifier ∈ modifiers, modifier.Fits (.float fraction)) (start : Rat) :
    applyModifiers modifiers (.float fraction) (.float start) =
      .float (start + (modifiers.map (change (.float fraction))).sum) := by
  unfold applyModifiers
  induction modifiers generalizing start with
  | nil => simp
  | cons modifier rest ih =>
    rw [forall_mem_cons] at fits
    rw [foldl_cons, process_float fits.1, ih fits.2, map_cons, sum_cons, add_assoc]

theorem applyModifiers_int (fits : ∀ modifier ∈ modifiers, modifier.Fits (.int base))
    (start : Int) :
    applyModifiers modifiers (.int base) (.int start) =
      .int (start + (modifiers.map fun modifier => ⌊modifier.change (.int base)⌋).sum +
        cutUpwards (.int base) start modifiers) := by
  unfold applyModifiers
  induction modifiers generalizing start with
  | nil => simp [cutUpwards]
  | cons modifier rest ih =>
    rw [forall_mem_cons] at fits
    rw [foldl_cons, process_int fits.1, ih fits.2, map_cons, sum_cons, cutUpwards]
    congr 1
    rw [Nat.cast_add, truncate_add]
    push_cast
    ring

theorem cutUpwards_eq_zero
    (whole : ∀ modifier ∈ modifiers,
      (⌊modifier.change baseValue⌋ : Rat) = modifier.change baseValue)
    (element : Int) : cutUpwards baseValue element modifiers = 0 := by
  induction modifiers generalizing element with
  | nil => rfl
  | cons modifier rest ih =>
    rw [forall_mem_cons] at whole
    rw [cutUpwards, if_neg (fun both => both.2 whole.1), ih whole.2]

/-- Modifiers that commute give the same in every order on an exact number, and on an integer up to
what is cut off. -/
theorem applyModifiers_perm {first second : List NumericModifier} (perm : first.Perm second) :
    (∀ fraction : Rat, (∀ modifier ∈ first, modifier.Fits (.float fraction)) →
      applyModifiers first (.float fraction) (.float fraction) =
        applyModifiers second (.float fraction) (.float fraction)) ∧
    (∀ base : Int, (∀ modifier ∈ first, modifier.Fits (.int base)) →
      (applyModifiers first (.int base) (.int base) =
          applyModifiers second (.int base) (.int base) ↔
        cutUpwards (.int base) base first = cutUpwards (.int base) base second)) ∧
    ∀ base : Int, (∀ modifier ∈ first, modifier.Fits (.int base)) →
      (∀ modifier ∈ first, (⌊modifier.change (.int base)⌋ : Rat) = modifier.change (.int base)) →
      applyModifiers first (.int base) (.int base) =
        applyModifiers second (.int base) (.int base) := by
  have ofInt (base : Int) (fits : ∀ modifier ∈ first, modifier.Fits (.int base)) :
      applyModifiers first (.int base) (.int base) = applyModifiers second (.int base) (.int base) ↔
        cutUpwards (.int base) base first = cutUpwards (.int base) base second := by
    have sums := (perm.map fun modifier => ⌊modifier.change (.int base)⌋).sum_eq
    rw [applyModifiers_int fits,
      applyModifiers_int fun modifier isMember => fits modifier (perm.mem_iff.mpr isMember), sums,
      Number.int.injEq, add_right_inj, Nat.cast_inj]
  refine ⟨fun fraction fits => ?_, ofInt, fun base fits whole => ?_⟩
  · have sums := (perm.map (change (.float fraction))).sum_eq
    rw [applyModifiers_float fits,
      applyModifiers_float fun modifier isMember => fits modifier (perm.mem_iff.mpr isMember), sums]
  · rw [ofInt base fits, cutUpwards_eq_zero whole,
      cutUpwards_eq_zero fun modifier isMember => whole modifier (perm.mem_iff.mpr isMember)]

theorem applyModifiers_perm_blessing :
    applyModifiers [.subtract (.float 2), .addFraction (.float (1 / 2))] (.float 1) (.float 1) =
        applyModifiers [.addFraction (.float (1 / 2)), .subtract (.float 2)] (.float 1) (.float 1) ∧
      applyModifiers [.subtract (.int 5), .addFraction (.float (1 / 2))] (.int 4) (.int 4) =
        applyModifiers [.addFraction (.float (1 / 2)), .subtract (.int 5)] (.int 4) (.int 4) :=
  ⟨(applyModifiers_perm (List.Perm.swap ..)).1 1 (by decide),
    (applyModifiers_perm (List.Perm.swap ..)).2.2 4 (by decide) (by decide +kernel)⟩

/-- A half is cut before, or after. -/
theorem applyModifiers_not_perm :
    ¬ ∀ (baseValue : Number) (first second : List NumericModifier), first.Perm second →
      (∀ modifier ∈ first, modifier.Fits baseValue) →
      applyModifiers first baseValue baseValue = applyModifiers second baseValue baseValue := by
  intro always
  have same := always (.int 1) [.subtract (.int 2), .addFraction (.float (1 / 2))]
    [.addFraction (.float (1 / 2)), .subtract (.int 2)] (List.Perm.swap ..) (by decide)
  revert same
  decide +kernel

end NumericModifier

end Cyphesis.Rules
