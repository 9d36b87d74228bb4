import CocktailMaker.Recipe
import Mathlib.Algebra.Order.Field.Basic

/-!
# Scaling a recipe

`scale_recipe` multiplies every dispensed volume by the target volume over the
nominal serving volume.  A factor that is one up to rounding leaves the
commands as they are.
-/

namespace CocktailMaker

def scaleCommandVolume (command : Command) (factor : Rat) : Command :=
  match command with
  | .dispense command =>
      .dispense ⟨command.id, command.ingredient, command.volume * factor⟩
  | command => command

def scaleCommandsUniformly (commands : Commands) (factor : Rat) : Commands :=
  commands.mapEach fun command => scaleCommandVolume command factor

/-- The factor is within `kEpsilon` of one. -/
def NearOne (factor : Rat) : Prop :=
  |factor - 1| ≤ epsilon * 4

instance (factor : Rat) : Decidable (NearOne factor) :=
  inferInstanceAs (Decidable (_ ≤ _))

def scaleRecipe (commands : Commands)
    (nominalServingVolume targetVolume : Litre) :
    Except Failure Commands := do
  let nominalMl := nominalServingVolume.inMilliLitre
  let targetMl := targetVolume.inMilliLitre
  assertThat (nominalMl > 0) "nominal_serving_volume must be positive"
  assertThat (targetMl ≥ 0) "target_volume must be non-negative"
  let factor ← divide targetMl nominalMl
  if NearOne factor then
    return commands
  return scaleCommandsUniformly commands factor

theorem scaleCommandVolume_eq (command : Command) (factor : Rat) :
    scaleCommandVolume command factor = command.scaleVolume factor := by
  cases command <;> rfl

@[simp]
theorem leaves_scaleCommandsUniformly (commands : Commands) (factor : Rat) :
    (scaleCommandsUniformly commands factor).leaves =
      commands.leaves.map (Command.scaleVolume factor) := by
  simp [scaleCommandsUniformly, scaleCommandVolume_eq]

theorem totalVolume_scaleCommandsUniformly (commands : Commands)
    (factor : Rat) :
    totalVolume (scaleCommandsUniformly commands factor) =
      totalVolume commands * factor := by
  simp [totalVolume, List.map_map, Function.comp_def, List.sum_map_mul_right]

/-- The factor that `scale_recipe` uses in the end. -/
def effectiveFactor (nominalServingVolume targetVolume : Litre) : Rat :=
  let factor := targetVolume / nominalServingVolume
  if NearOne factor then 1 else factor

theorem scaleCommandsUniformly_one (commands : Commands) :
    scaleCommandsUniformly commands 1 = commands :=
  Commands.mapEach_eq_self fun command _ => by
    rw [scaleCommandVolume_eq, Command.scaleVolume_one]

theorem inMilliLitre_pos {volume : Litre} :
    0 < volume.inMilliLitre ↔ 0 < volume := by
  simp [Litre.inMilliLitre]

theorem inMilliLitre_nonneg {volume : Litre} :
    0 ≤ volume.inMilliLitre ↔ 0 ≤ volume := by
  simp [Litre.inMilliLitre]

/-- On a positive nominal volume and a nonnegative target, scaling multiplies
every volume by one factor. -/
theorem scaleRecipe_eq (commands : Commands)
    {nominalServingVolume targetVolume : Litre}
    (nominalPositive : 0 < nominalServingVolume)
    (targetNonneg : 0 ≤ targetVolume) :
    scaleRecipe commands nominalServingVolume targetVolume =
      .ok (scaleCommandsUniformly commands
        (effectiveFactor nominalServingVolume targetVolume)) := by
  have ratio : targetVolume.inMilliLitre / nominalServingVolume.inMilliLitre =
      targetVolume / nominalServingVolume :=
    mul_div_mul_right _ _ (by norm_num)
  have nominalChecked : nominalServingVolume.inMilliLitre > 0 :=
    inMilliLitre_pos.mpr nominalPositive
  have targetChecked : targetVolume.inMilliLitre ≥ 0 :=
    inMilliLitre_nonneg.mpr targetNonneg
  simp only [scaleRecipe, effectiveFactor, assertThat_of_holds nominalChecked,
    assertThat_of_holds targetChecked, divide_of_ne_zero nominalChecked.ne',
    ratio, bind, Except.bind, pure, Except.pure]
  split
  case isTrue near => rw [scaleCommandsUniformly_one]
  case isFalse far => rfl

theorem effectiveFactor_nonneg {nominalServingVolume targetVolume : Litre}
    (nominalPositive : 0 < nominalServingVolume)
    (targetNonneg : 0 ≤ targetVolume) :
    0 ≤ effectiveFactor nominalServingVolume targetVolume := by
  unfold effectiveFactor
  simp only
  split
  case isTrue near => exact zero_le_one
  case isFalse far => exact div_nonneg targetNonneg nominalPositive.le

end CocktailMaker
