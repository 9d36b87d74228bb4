import Mathlib.Algebra.Order.Ring.Rat
import Mathlib.Algebra.Order.Group.Unbundled.Abs

/-!
# Quantities and assertions

Volumes are exact rational numbers of litres and boosts exact percentages.
A computation stops at an `ASSERT` that fails, and it stops where it would
divide by zero, since no rational number is the result.
-/

namespace CocktailMaker

/-- `units::Litre`. -/
abbrev Litre := Rat

/-- `units::Percent`. -/
abbrev Percent := Rat

/-- `numerical_value_in(units::milli_litre)`. -/
def Litre.inMilliLitre (volume : Litre) : Rat :=
  volume * 1000

/-- A value times `units::milli_litre`. -/
def milliLitre (value : Rat) : Litre :=
  value / 1000

@[simp]
theorem milliLitre_inMilliLitre (volume : Litre) :
    milliLitre volume.inMilliLitre = volume := by
  simp [milliLitre, Litre.inMilliLitre]

/-- `std::numeric_limits<double>::epsilon()`. -/
def epsilon : Rat :=
  1 / 4503599627370496

/-- Why a computation does not reach its end. -/
inductive Failure
  | assertion (message : String)
  | divisionByZero
  deriving DecidableEq

/-- `ASSERT(condition, message)`. -/
def assertThat (condition : Prop) [Decidable condition] (message : String) :
    Except Failure Unit :=
  if condition then .ok () else .error (.assertion message)

def divide (dividend divisor : Rat) : Except Failure Rat :=
  if divisor = 0 then .error .divisionByZero else .ok (dividend / divisor)

@[simp]
theorem assertThat_eq_ok {condition : Prop} [Decidable condition]
    {message : String} {done : Unit} :
    assertThat condition message = .ok done ↔ condition := by
  unfold assertThat
  split <;> simp_all

theorem assertThat_of_holds {condition : Prop} [Decidable condition]
    (holds : condition) (message : String) :
    assertThat condition message = .ok () :=
  if_pos holds

theorem divide_of_ne_zero {dividend divisor : Rat} (nonzero : divisor ≠ 0) :
    divide dividend divisor = .ok (dividend / divisor) :=
  if_neg nonzero

end CocktailMaker
