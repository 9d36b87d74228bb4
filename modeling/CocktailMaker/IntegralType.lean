import Mathlib

/-!
# Integer types

An integer type is given by its width and its signedness.  This file defines
its range, clamping into the range, and how an arithmetic expression over the
type is evaluated: narrow operands are promoted first, overflow of a signed
type is undefined, and an unsigned type wraps around.  None of this makes a
difference to an expression whose exact value is in the range.
-/

namespace CocktailMaker

structure IntegralType where
  isSigned : Bool
  width : Nat
  width_pos : 0 < width
  deriving DecidableEq

namespace IntegralType

variable (type : IntegralType)

/-- The signed type with 64 bits. -/
def int64 : IntegralType where
  isSigned := true
  width := 64
  width_pos := by decide

/-- The signed type with 32 bits. -/
def int : IntegralType where
  isSigned := true
  width := 32
  width_pos := by decide

/-- The smallest value. -/
protected def min : Int :=
  if type.isSigned then -2 ^ (type.width - 1) else 0

/-- The largest value. -/
protected def max : Int :=
  if type.isSigned then 2 ^ (type.width - 1) - 1 else 2 ^ type.width - 1

theorem min_of_signed (signed : type.isSigned = true) :
    type.min = -type.max - 1 := by
  simp [IntegralType.min, IntegralType.max, signed]

theorem min_of_unsigned (unsigned : type.isSigned = false) :
    type.min = 0 := by
  simp [IntegralType.min, unsigned]

theorem max_sub_min : type.max - type.min + 1 = 2 ^ type.width := by
  unfold IntegralType.max IntegralType.min
  split
  · obtain ⟨bits, width⟩ := Nat.exists_eq_add_of_lt type.width_pos
    rw [width, Nat.zero_add, Nat.add_sub_cancel, pow_succ]
    omega
  · omega

theorem max_nonneg : 0 ≤ type.max := by
  unfold IntegralType.max
  split
  · exact Int.sub_nonneg_of_le (Int.pow_pos two_pos)
  · exact Int.sub_nonneg_of_le (Int.pow_pos two_pos)

theorem min_nonpos : type.min ≤ 0 := by
  cases signedness : type.isSigned with
  | true =>
      have nonneg := type.max_nonneg
      rw [type.min_of_signed signedness]
      omega
  | false => exact (type.min_of_unsigned signedness).le

theorem min_le_max : type.min ≤ type.max :=
  type.min_nonpos.trans type.max_nonneg

/-- The type represents the number. -/
def InRange (value : Int) : Prop :=
  type.min ≤ value ∧ value ≤ type.max

instance (value : Int) : Decidable (type.InRange value) :=
  inferInstanceAs (Decidable (_ ∧ _))

/-- The values of the type. -/
abbrev Value : Type :=
  { value : Int // type.InRange value }

/-- `numeric_limits::max()` -/
def limitsMax : type.Value :=
  ⟨type.max, type.min_le_max, Int.le_refl _⟩

/-- `numeric_limits::min()` -/
def limitsMin : type.Value :=
  ⟨type.min, Int.le_refl _, type.min_le_max⟩

/-- The nearest value of the type. -/
def clamp (exact : Int) : type.Value :=
  ⟨max type.min (min exact type.max), le_max_left _ _,
    max_le type.min_le_max (min_le_right _ _)⟩

theorem clamp_of_max_le {exact : Int} (above : type.max ≤ exact) :
    type.clamp exact = type.limitsMax := by
  apply Subtype.ext
  change max type.min (min exact type.max) = type.max
  rw [min_eq_right above, max_eq_right type.min_le_max]

theorem clamp_of_le_min {exact : Int} (below : exact ≤ type.min) :
    type.clamp exact = type.limitsMin := by
  apply Subtype.ext
  exact max_eq_left ((min_le_left _ _).trans below)

theorem clamp_of_inRange {exact : Int} (inRange : type.InRange exact) :
    type.clamp exact = ⟨exact, inRange⟩ := by
  apply Subtype.ext
  change max type.min (min exact type.max) = exact
  rw [min_eq_left inRange.2, max_eq_right inRange.1]

/-- The value of an expression that must not leave the range. -/
def checked (exact : Int) : Option Int :=
  if type.InRange exact then some exact else none

/-- The value of the type that is congruent to an integer. -/
def wrap (exact : Int) : Int :=
  type.min + (exact - type.min) % 2 ^ type.width

/-- The value of an expression over the type. -/
def arithmetic (exact : Int) : Option Int :=
  if type.isSigned then type.checked exact else some (type.wrap exact)

/-- Operands that are narrower than an `int` are converted to it. -/
def promoted (intWidth : Nat) : IntegralType :=
  if narrow : type.width < intWidth then
    ⟨true, intWidth, type.width_pos.trans narrow⟩
  else type

theorem checked_of_inRange {exact : Int}
    (inRange : type.InRange exact) :
    type.checked exact = some exact :=
  if_pos inRange

theorem inRange_wrap (exact : Int) :
    type.InRange (type.wrap exact) := by
  have period := type.max_sub_min
  have positive : (0 : Int) < 2 ^ type.width := Int.pow_pos two_pos
  have atLeast := Int.emod_nonneg (exact - type.min) positive.ne'
  have below := Int.emod_lt_of_pos (exact - type.min) positive
  unfold wrap
  exact ⟨by omega, by omega⟩

theorem wrap_of_inRange {exact : Int}
    (inRange : type.InRange exact) :
    type.wrap exact = exact := by
  have period := type.max_sub_min
  obtain ⟨atLeast, atMost⟩ := inRange
  rw [wrap, Int.emod_eq_of_lt (by omega) (by omega)]
  omega

theorem wrap_modEq (exact : Int) :
    type.wrap exact ≡ exact [ZMOD 2 ^ type.width] := by
  unfold wrap
  calc
    type.min + (exact - type.min) % 2 ^ type.width ≡
        type.min + (exact - type.min) [ZMOD 2 ^ type.width] :=
      (Int.mod_modEq _ _).add_left _
    _ = exact := by omega

theorem wrap_congr {first second : Int}
    (congruent : first ≡ second [ZMOD 2 ^ type.width]) :
    type.wrap first = type.wrap second :=
  congrArg (type.min + ·) (congruent.sub_right type.min)

theorem wrap_add_wrap (first second : Int) :
    type.wrap (first + type.wrap second) = type.wrap (first + second) :=
  type.wrap_congr ((type.wrap_modEq second).add_left first)

theorem wrap_sub_wrap (first second : Int) :
    type.wrap (first - type.wrap second) = type.wrap (first - second) :=
  type.wrap_congr ((type.wrap_modEq second).sub_left first)

/-- `static_cast` to the type. -/
def cast (value : Int) : type.Value :=
  ⟨type.wrap value, type.inRange_wrap value⟩

theorem cast_of_inRange {exact : Int}
    (inRange : type.InRange exact) :
    type.cast exact = type.clamp exact := by
  rw [type.clamp_of_inRange inRange]
  exact Subtype.ext (type.wrap_of_inRange inRange)

theorem arithmetic_of_inRange {exact : Int}
    (inRange : type.InRange exact) :
    type.arithmetic exact = some exact := by
  unfold arithmetic
  split
  · exact type.checked_of_inRange inRange
  · rw [type.wrap_of_inRange inRange]

theorem inRange_promoted (intWidth : Nat) {value : Int}
    (inRange : type.InRange value) :
    (type.promoted intWidth).InRange value := by
  by_cases narrow : type.width < intWidth
  · have values := type.max_sub_min
    have nonneg := type.max_nonneg
    have nonpos := type.min_nonpos
    have fits : (2 : Int) ^ type.width ≤ 2 ^ (intWidth - 1) :=
      pow_le_pow_right₀ one_le_two (by omega)
    obtain ⟨atLeast, atMost⟩ := inRange
    rw [promoted, dif_pos narrow]
    constructor
    · change -2 ^ (intWidth - 1) ≤ value
      omega
    · change value ≤ 2 ^ (intWidth - 1) - 1
      omega
  · rwa [promoted, dif_neg narrow]

theorem arithmetic_promoted (intWidth : Nat) {exact : Int}
    (inRange : type.InRange exact) :
    (type.promoted intWidth).arithmetic exact = some exact :=
  arithmetic_of_inRange _ (type.inRange_promoted intWidth inRange)

end IntegralType

end CocktailMaker
