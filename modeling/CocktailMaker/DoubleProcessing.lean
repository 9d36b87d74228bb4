import CocktailMaker.Binary64
import CocktailMaker.BoostRecipe
import CocktailMaker.ParseRecipe

/-!
# Processing a recipe in doubles

The machine scales and boosts a recipe in doubles.  Every result is rounded, a
large one becomes infinite, and zero times infinity and infinity by infinity
are no numbers.  Where no operation is invalid in this sense, volumes that are
not negative stay so.  The conversion between litres and millilitres comes from
the library for quantities.
-/

namespace CocktailMaker

namespace Doubles

open Binary64

/-- What a conversion between units does with the sign of a number. -/
structure KeepsSign (convert : Float → Float) : Prop where
  nonneg : ∀ x, 0 ≤ x → 0 ≤ convert x
  zero : convert 0 ≤ 0
  nonneg_of_pos : ∀ x, 0 < convert x → 0 ≤ x

/-- It also takes the largest volumes out of the range of doubles. -/
structure LeavesRange (convert : Float → Float) : Prop
    extends KeepsSign convert where
  infinite : convert infinity = infinity
  overflows : ∃ volume, 0 ≤ volume ∧ volume.isInf = false ∧
    convert volume = infinity

/-- `std::numeric_limits<double>::epsilon()` as a double. -/
def epsilon : Float :=
  ofRat CocktailMaker.epsilon

theorem epsilon_eq : epsilon = 1 / 4503599627370496 := by
  decide +kernel

section Model

variable (toMilliLitre : Float → Float)

def scaleCommandVolume (command : Command Float) (factor : Float) :
    Command Float :=
  match command with
  | .dispense command =>
      .dispense ⟨command.id, command.ingredient, command.volume * factor⟩
  | command => command

def scaleCommandsUniformly (commands : Commands Float) (factor : Float) :
    Commands Float :=
  commands.mapEach fun command => scaleCommandVolume command factor

def NearOne (factor : Float) : Prop :=
  (factor - 1).abs ≤ epsilon * 4

instance : DecidablePred NearOne :=
  fun _ => inferInstanceAs (Decidable (_ ≤ _))

def scaleRecipe (commands : Commands Float)
    (nominalServingVolume targetVolume : Float) :
    Except Failure (Commands Float) := do
  let nominalMl := toMilliLitre nominalServingVolume
  let targetMl := toMilliLitre targetVolume
  assertThat (nominalMl > 0) "nominal_serving_volume must be positive"
  assertThat (targetMl ≥ 0) "target_volume must be non-negative"
  let factor := targetMl / nominalMl
  if NearOne factor then
    return commands
  return scaleCommandsUniformly commands factor

structure VolumeSummary where
  boostableLitres : Float := 0
  reducibleLitres : Float := 0

structure ScaleFactors where
  boostable : Float := 1
  reducible : Float := 1

def accumulateVolumes (acc : VolumeSummary) (command : Command Float)
    (store : IngredientStore) : VolumeSummary :=
  match command with
  | .dispense command =>
      match store.findById command.ingredient with
      | some ingredient =>
          match ingredient.boostCategory with
          | .boostable =>
              ⟨acc.boostableLitres + command.volume, acc.reducibleLitres⟩
          | .reducible =>
              ⟨acc.boostableLitres, acc.reducibleLitres + command.volume⟩
          | .fixed => acc
      | none => acc
  | _ => acc

def computeScaleFactors (vol : VolumeSummary) (p : Float) : ScaleFactors :=
  let vB := toMilliLitre vol.boostableLitres
  let vR := toMilliLitre vol.reducibleLitres
  if p ≥ 0 then
    if vB ≤ 0 then {}
    else { boostable := 1 + p * vR / vB, reducible := 1 - p }
  else if vR ≤ 0 then {}
  else { boostable := 1 + p, reducible := 1 - p * vB / vR }

def scaleCommand (command : Command Float) (scales : ScaleFactors)
    (store : IngredientStore) : Command Float :=
  match command with
  | .dispense dispense =>
      match store.findById dispense.ingredient with
      | some ingredient =>
          match ingredient.boostCategory with
          | .boostable =>
              .dispense ⟨dispense.id, dispense.ingredient,
                dispense.volume * scales.boostable⟩
          | .reducible =>
              .dispense ⟨dispense.id, dispense.ingredient,
                dispense.volume * scales.reducible⟩
          | .fixed => command
      | none => command
  | _ => command

def scaleCommands (commands : Commands Float) (scales : ScaleFactors)
    (store : IngredientStore) : Commands Float :=
  commands.mapEach fun command => scaleCommand command scales store

/-- The boostable and the reducible volume of a recipe. -/
def sumVolumes (commands : Commands Float) (store : IngredientStore) :
    VolumeSummary :=
  foldCommands commands {} fun acc command =>
    accumulateVolumes acc command store

def boostRecipe (commands : Commands Float) (boostPct : Float)
    (store : IngredientStore) : Except Failure (Commands Float) := do
  assertThat (boostPct.abs ≤ 100) "Boost can only be between -100% and 100%"
  let p := boostPct / 100
  if p.abs < epsilon then
    return commands
  let scales := computeScaleFactors toMilliLitre (sumVolumes commands store) p
  return scaleCommands commands scales store

/-- The commands that `async_process_recipe` hands to `execute_commands`. -/
def processRecipe (recipe : Recipe Float) (boost targetVolume : Float)
    (ingredientStore : IngredientStore) : Except Failure (Commands Float) := do
  let scaled ← scaleRecipe toMilliLitre recipe.commands
    recipe.nominalServingVolume targetVolume
  boostRecipe toMilliLitre scaled boost ingredientStore

end Model

section Invalid

variable (toMilliLitre : Float → Float)

/-- The factor of a scaling. -/
def scaleFactor (nominalServingVolume targetVolume : Float) : Float :=
  toMilliLitre targetVolume / toMilliLitre nominalServingVolume

/-- An operation of scaling the volumes is invalid. -/
inductive InvalidScaling (nominalServingVolume targetVolume : Float)
    (commands : Commands Float) : Prop
  | quotient {volume : Float} (member : volume ∈ commands.volumes)
      (invalid : InvalidQuotient (toMilliLitre targetVolume)
        (toMilliLitre nominalServingVolume))
  | product {volume : Float} (member : volume ∈ commands.volumes)
      (far : ¬ NearOne
        (scaleFactor toMilliLitre nominalServingVolume targetVolume))
      (invalid : InvalidProduct volume
        (scaleFactor toMilliLitre nominalServingVolume targetVolume))

/-- The commands after a scaling that reaches its end. -/
def scaled (nominalServingVolume targetVolume : Float)
    (commands : Commands Float) : Commands Float :=
  let factor := scaleFactor toMilliLitre nominalServingVolume targetVolume
  if NearOne factor then commands else scaleCommandsUniformly commands factor

/-- The volume in millilitres of the category that a boost by `p` adds to. -/
def receiving (p : Float) (vol : VolumeSummary) : Float :=
  if p ≥ 0 then toMilliLitre vol.boostableLitres
  else toMilliLitre vol.reducibleLitres

/-- The volume in millilitres of the category that it takes from. -/
def giving (p : Float) (vol : VolumeSummary) : Float :=
  if p ≥ 0 then toMilliLitre vol.reducibleLitres
  else toMilliLitre vol.boostableLitres

variable (store : IngredientStore)

/-- The category of an ingredient, when the store knows it. -/
def category (ingredient : IngredientId) : Option BoostCategory :=
  (store.findById ingredient).map Ingredient.boostCategory

/-- One of the commands dispenses an ingredient of the category. -/
def HasCategory (commands : Commands Float) (target : BoostCategory) : Prop :=
  ∃ dispense, .dispense dispense ∈ commands.leaves ∧
    category store dispense.ingredient = some target

/-- The factor of a category. -/
def ScaleFactors.factorOf (scales : ScaleFactors) :
    Option BoostCategory → Float
  | some .boostable => scales.boostable
  | some .reducible => scales.reducible
  | _ => 1

/-- An operation of boosting the volumes is invalid, for a boost by `p`. -/
inductive InvalidBoost (p : Float) (commands : Commands Float) : Prop
  | share
      (receives : ¬ receiving toMilliLitre p (sumVolumes commands store) ≤ 0)
      (invalid : InvalidProduct p
        (giving toMilliLitre p (sumVolumes commands store)))
  | quotient
      (receives : ¬ receiving toMilliLitre p (sumVolumes commands store) ≤ 0)
      (invalid : InvalidQuotient
        (p * giving toMilliLitre p (sumVolumes commands store))
        (receiving toMilliLitre p (sumVolumes commands store)))
  | product {dispense : DispenseCommand Float}
      (member : .dispense dispense ∈ commands.leaves)
      (invalid : InvalidProduct dispense.volume
        ((computeScaleFactors toMilliLitre (sumVolumes commands store)
          p).factorOf (category store dispense.ingredient)))

/-- An operation of processing a recipe is invalid. -/
inductive InvalidProcessing (recipe : Recipe Float)
    (boost targetVolume : Float) : Prop
  | scaling (invalid : InvalidScaling toMilliLitre recipe.nominalServingVolume
      targetVolume recipe.commands)
  | boosting (large : ¬ (boost / 100).abs < epsilon)
      (invalid : InvalidBoost toMilliLitre store (boost / 100)
        (scaled toMilliLitre recipe.nominalServingVolume targetVolume
          recipe.commands))

end Invalid

section Volumes

variable {commands : Commands Float} {volume : Float}

theorem mem_volumes :
    volume ∈ commands.volumes ↔
      ∃ dispense, .dispense dispense ∈ commands.leaves ∧
        dispense.volume = volume := by
  rw [Commands.volumes, List.mem_map]
  constructor
  · rintro ⟨⟨ingredient, volume⟩, named, rfl⟩
    obtain ⟨dispense, inRecipe, -, isVolume⟩ := mem_dispenses.mp named
    exact ⟨dispense, inRecipe, isVolume⟩
  · rintro ⟨dispense, inRecipe, rfl⟩
    exact ⟨_, mem_dispenses.mpr ⟨dispense, inRecipe, rfl, rfl⟩, rfl⟩

theorem dispense_mem_scaleCommandsUniformly {factor : Float}
    {dispense : DispenseCommand Float} :
    .dispense dispense ∈ (scaleCommandsUniformly commands factor).leaves ↔
      ∃ before, .dispense before ∈ commands.leaves ∧
        { before with volume := before.volume * factor } = dispense := by
  simp only [scaleCommandsUniformly, Commands.leaves_mapEach, List.mem_map]
  constructor
  · rintro ⟨command, inRecipe, isScaled⟩
    cases command with
    | monostate => cases isScaled
    | manual command => cases isScaled
    | dispense before =>
        cases isScaled
        exact ⟨before, inRecipe, rfl⟩
  · rintro ⟨before, inRecipe, rfl⟩
    exact ⟨_, inRecipe, rfl⟩

theorem mem_volumes_scaleCommandsUniformly {factor : Float} :
    volume ∈ (scaleCommandsUniformly commands factor).volumes ↔
      ∃ before ∈ commands.volumes, before * factor = volume := by
  simp only [mem_volumes, dispense_mem_scaleCommandsUniformly]
  constructor
  · rintro ⟨_, ⟨before, inRecipe, rfl⟩, rfl⟩
    exact ⟨before.volume, ⟨before, inRecipe, rfl⟩, rfl⟩
  · rintro ⟨_, ⟨before, inRecipe, rfl⟩, rfl⟩
    exact ⟨_, ⟨before, inRecipe, rfl⟩, rfl⟩

variable (scales : ScaleFactors) (store : IngredientStore)

/-- The volume of a command after boosting. -/
def boostedVolume (dispense : DispenseCommand Float) : Float :=
  match category store dispense.ingredient with
  | some .boostable => dispense.volume * scales.boostable
  | some .reducible => dispense.volume * scales.reducible
  | _ => dispense.volume

@[simp]
theorem scaleCommand_dispense (dispense : DispenseCommand Float) :
    scaleCommand (.dispense dispense) scales store =
      .dispense { dispense with
        volume := boostedVolume scales store dispense } := by
  cases found : store.findById dispense.ingredient with
  | none => simp [scaleCommand, boostedVolume, category, found]
  | some ingredient =>
      cases isCategory : ingredient.boostCategory <;>
        simp [scaleCommand, boostedVolume, category, found, isCategory]

theorem mem_volumes_scaleCommands :
    volume ∈ (scaleCommands commands scales store).volumes ↔
      ∃ dispense, .dispense dispense ∈ commands.leaves ∧
        boostedVolume scales store dispense = volume := by
  simp only [mem_volumes, scaleCommands, Commands.leaves_mapEach, List.mem_map]
  constructor
  · rintro ⟨after, ⟨command, inRecipe, isBoosted⟩, rfl⟩
    cases command with
    | monostate => cases isBoosted
    | manual command => cases isBoosted
    | dispense dispense =>
        rw [scaleCommand_dispense] at isBoosted
        cases isBoosted
        exact ⟨dispense, inRecipe, rfl⟩
  · rintro ⟨dispense, inRecipe, rfl⟩
    exact ⟨_, ⟨_, inRecipe, scaleCommand_dispense scales store dispense⟩, rfl⟩

theorem accumulateVolumes_dispense (acc : VolumeSummary)
    (dispense : DispenseCommand Float) :
    accumulateVolumes acc (.dispense dispense) store =
      match category store dispense.ingredient with
      | some .boostable =>
          ⟨acc.boostableLitres + dispense.volume, acc.reducibleLitres⟩
      | some .reducible =>
          ⟨acc.boostableLitres, acc.reducibleLitres + dispense.volume⟩
      | _ => acc := by
  cases found : store.findById dispense.ingredient with
  | none => simp [accumulateVolumes, category, found]
  | some ingredient =>
      cases isCategory : ingredient.boostCategory <;>
        simp [accumulateVolumes, category, found, isCategory]

end Volumes

section Nonnegative

variable {toMilliLitre : Float → Float} {commands : Commands Float}

theorem scaleFactor_nonneg {nominalServingVolume targetVolume : Float}
    (nominalPositive : 0 < toMilliLitre nominalServingVolume)
    (targetNonneg : 0 ≤ toMilliLitre targetVolume)
    (valid : ¬ InvalidQuotient (toMilliLitre targetVolume)
      (toMilliLitre nominalServingVolume)) :
    0 ≤ scaleFactor toMilliLitre nominalServingVolume targetVolume :=
  Binary64.div_nonneg targetNonneg nominalPositive valid

theorem scaled_nonneg {nominalServingVolume targetVolume : Float}
    (nominalPositive : 0 < toMilliLitre nominalServingVolume)
    (targetNonneg : 0 ≤ toMilliLitre targetVolume)
    (valid : ¬ InvalidScaling toMilliLitre nominalServingVolume targetVolume
      commands)
    (nonneg : ∀ volume ∈ commands.volumes, 0 ≤ volume) :
    ∀ volume ∈ (scaled toMilliLitre nominalServingVolume targetVolume
      commands).volumes, 0 ≤ volume := by
  intro volume member
  unfold scaled at member
  simp only at member
  split at member
  case isTrue near => exact nonneg volume member
  case isFalse far =>
    obtain ⟨before, inRecipe, rfl⟩ :=
      mem_volumes_scaleCommandsUniformly.mp member
    have factorNonneg : 0 ≤
        scaleFactor toMilliLitre nominalServingVolume targetVolume :=
      scaleFactor_nonneg nominalPositive targetNonneg
        fun invalid => valid (.quotient inRecipe invalid)
    exact Binary64.mul_nonneg (nonneg before inRecipe) factorNonneg
      fun invalid => valid (.product inRecipe far invalid)

variable (store : IngredientStore) in
theorem sumVolumes_nonneg (nonneg : ∀ volume ∈ commands.volumes, 0 ≤ volume) :
    0 ≤ (sumVolumes commands store).boostableLitres ∧
      0 ≤ (sumVolumes commands store).reducibleLitres := by
  have each : ∀ dispense, .dispense dispense ∈ commands.leaves →
      0 ≤ dispense.volume := fun dispense inRecipe =>
    nonneg _ (mem_volumes.mpr ⟨dispense, inRecipe, rfl⟩)
  rw [sumVolumes, foldCommands_eq]
  have initial : (0 : Float) ≤ ({} : VolumeSummary).boostableLitres ∧
      (0 : Float) ≤ ({} : VolumeSummary).reducibleLitres := by
    decide
  generalize ({} : VolumeSummary) = acc at initial ⊢
  generalize commands.leaves = leaves at each ⊢
  induction leaves generalizing acc with
  | nil => exact initial
  | cons command leaves ih =>
      rw [List.foldl_cons]
      refine ih _ ?_ fun dispense inRest => each dispense (.tail _ inRest)
      cases command with
      | monostate => exact initial
      | manual command => exact initial
      | dispense dispense =>
          have volumeNonneg := each dispense (.head _)
          rw [accumulateVolumes_dispense]
          split
          · exact ⟨Binary64.add_nonneg initial.1 volumeNonneg, initial.2⟩
          · exact ⟨initial.1, Binary64.add_nonneg initial.2 volumeNonneg⟩
          · exact initial

variable {store : IngredientStore}

/-- Both factors of a boost are nonnegative when no operation is invalid. -/
theorem computeScaleFactors_nonneg (keepsSign : KeepsSign toMilliLitre)
    {vol : VolumeSummary} (boostable : 0 ≤ vol.boostableLitres)
    (reducible : 0 ≤ vol.reducibleLitres) {p : Float}
    (isNumber : p.isNaN = false) (within : p.abs ≤ 1)
    (validProduct : ¬ receiving toMilliLitre p vol ≤ 0 →
      ¬ InvalidProduct p (giving toMilliLitre p vol))
    (validQuotient : ¬ receiving toMilliLitre p vol ≤ 0 →
      ¬ InvalidQuotient (p * giving toMilliLitre p vol)
        (receiving toMilliLitre p vol)) :
    0 ≤ (computeScaleFactors toMilliLitre vol p).boostable ∧
      0 ≤ (computeScaleFactors toMilliLitre vol p).reducible := by
  have one : (0 : Float) ≤ 1 := by decide
  have boostableMl := keepsSign.nonneg _ boostable
  have reducibleMl := keepsSign.nonneg _ reducible
  obtain ⟨atMost, atLeast⟩ := Binary64.abs_le within
  unfold computeScaleFactors receiving giving at *
  simp only
  by_cases sign : p ≥ 0
  · simp only [if_pos sign] at validProduct validQuotient ⊢
    split
    case isTrue empty => exact ⟨one, one⟩
    case isFalse receives =>
      have moved := Binary64.div_nonneg
        (Binary64.mul_nonneg sign reducibleMl (validProduct receives))
        (pos_of_nonneg boostableMl receives) (validQuotient receives)
      exact ⟨Binary64.add_nonneg one moved, one_sub_nonneg atMost⟩
  · have nonpos : p ≤ 0 := (exists_sign isNumber).resolve_left sign
    simp only [if_neg sign] at validProduct validQuotient ⊢
    split
    case isTrue empty => exact ⟨one, one⟩
    case isFalse receives =>
      have moved := Binary64.div_nonpos
        (Binary64.mul_nonpos nonpos boostableMl (validProduct receives))
        (pos_of_nonneg reducibleMl receives) (validQuotient receives)
      exact ⟨one_add_nonneg atLeast, sub_nonneg_of_nonpos one moved⟩

theorem boostedVolume_nonneg {scales : ScaleFactors}
    (boostable : 0 ≤ scales.boostable) (reducible : 0 ≤ scales.reducible)
    {dispense : DispenseCommand Float} (nonneg : 0 ≤ dispense.volume)
    (valid : ¬ InvalidProduct dispense.volume
      (scales.factorOf (category store dispense.ingredient))) :
    0 ≤ boostedVolume scales store dispense := by
  unfold boostedVolume
  generalize category store dispense.ingredient = isCategory at valid ⊢
  rcases isCategory with _ | (_ | _ | _)
  · exact nonneg
  · exact nonneg
  · exact Binary64.mul_nonneg nonneg boostable valid
  · exact Binary64.mul_nonneg nonneg reducible valid

/-- The commands after a boost that reaches its end. -/
def boosted (toMilliLitre : Float → Float) (boostPct : Float)
    (store : IngredientStore) (commands : Commands Float) : Commands Float :=
  let p := boostPct / 100
  if p.abs < epsilon then commands
  else
    scaleCommands commands
      (computeScaleFactors toMilliLitre (sumVolumes commands store) p) store

theorem boosted_nonneg (keepsSign : KeepsSign toMilliLitre)
    {boostPct : Float} (inRange : boostPct.abs ≤ 100)
    (valid : ¬ (boostPct / 100).abs < epsilon →
      ¬ InvalidBoost toMilliLitre store (boostPct / 100) commands)
    (nonneg : ∀ volume ∈ commands.volumes, 0 ≤ volume) :
    ∀ volume ∈ (boosted toMilliLitre boostPct store commands).volumes,
      0 ≤ volume := by
  have hundred : (0 : Float) < 100 ∧ Float.isInf 100 = false := by
    decide
  have within : (boostPct / 100).abs ≤ 1 :=
    abs_div_le_one inRange hundred.1 hundred.2
  intro volume member
  unfold boosted at member
  simp only at member
  split at member
  case isTrue small => exact nonneg volume member
  case isFalse large =>
    obtain ⟨dispense, inRecipe, rfl⟩ :=
      (mem_volumes_scaleCommands _ store).mp member
    obtain ⟨boostableSum, reducibleSum⟩ := sumVolumes_nonneg store nonneg
    obtain ⟨boostable, reducible⟩ := computeScaleFactors_nonneg keepsSign
      boostableSum reducibleSum (isNumber_of_abs_le within) within
      (fun receives invalid => valid large (.share receives invalid))
      (fun receives invalid => valid large (.quotient receives invalid))
    exact boostedVolume_nonneg boostable reducible
      (nonneg _ (mem_volumes.mpr ⟨dispense, inRecipe, rfl⟩))
      fun invalid => valid large (.product inRecipe invalid)

theorem scaleRecipe_eq {nominalServingVolume targetVolume : Float}
    (nominalPositive : 0 < toMilliLitre nominalServingVolume)
    (targetNonneg : 0 ≤ toMilliLitre targetVolume) :
    scaleRecipe toMilliLitre commands nominalServingVolume targetVolume =
      .ok (scaled toMilliLitre nominalServingVolume targetVolume
        commands) := by
  have nominalChecked : toMilliLitre nominalServingVolume > 0 :=
    nominalPositive
  have targetChecked : toMilliLitre targetVolume ≥ 0 := targetNonneg
  simp only [scaleRecipe, assertThat_of_holds nominalChecked,
    assertThat_of_holds targetChecked, bind, Except.bind, pure, Except.pure]
  exact (apply_ite Except.ok _ _ _).symm

theorem boostRecipe_eq {boostPct : Float} (inRange : boostPct.abs ≤ 100) :
    boostRecipe toMilliLitre commands boostPct store =
      .ok (boosted toMilliLitre boostPct store commands) := by
  simp only [boostRecipe, assertThat_of_holds inRange, bind, Except.bind, pure,
    Except.pure]
  exact (apply_ite Except.ok _ _ _).symm

end Nonnegative

section NoNumbers

variable {toMilliLitre : Float → Float} {commands : Commands Float}

theorem not_nearOne_of_isNaN {factor : Float} (isNaN : factor.isNaN = true) :
    ¬ NearOne factor :=
  not_le_of_isNaN (isNaN_abs (isNaN_sub_left isNaN))

/-- An invalid operation of scaling leaves a volume that is no number. -/
theorem exists_isNaN_of_invalidScaling
    {nominalServingVolume targetVolume : Float}
    (invalid : InvalidScaling toMilliLitre nominalServingVolume targetVolume
      commands) :
    ∃ volume ∈ (scaled toMilliLitre nominalServingVolume targetVolume
      commands).volumes, volume.isNaN = true := by
  have ofProduct {volume : Float} (member : volume ∈ commands.volumes)
      (far : ¬ NearOne
        (scaleFactor toMilliLitre nominalServingVolume targetVolume))
      (isNaN : (volume *
        scaleFactor toMilliLitre nominalServingVolume targetVolume).isNaN =
          true) :
      ∃ volume ∈ (scaled toMilliLitre nominalServingVolume targetVolume
        commands).volumes, volume.isNaN = true := by
    refine ⟨_, ?_, isNaN⟩
    unfold scaled
    simp only [if_neg far]
    exact mem_volumes_scaleCommandsUniformly.mpr ⟨volume, member, rfl⟩
  cases invalid with
  | quotient member invalid =>
      have isNaN :
          (scaleFactor toMilliLitre nominalServingVolume targetVolume).isNaN =
            true := isNaN_div.mpr (.inr (.inr invalid))
      exact ofProduct member (not_nearOne_of_isNaN isNaN)
        (isNaN_mul.mpr (.inr (.inl isNaN)))
  | product member far invalid =>
      exact ofProduct member far (isNaN_mul.mpr (.inr (.inr invalid)))

variable {store : IngredientStore}

theorem isNaN_boostedVolume_of_product {scales : ScaleFactors}
    {dispense : DispenseCommand Float}
    (invalid : InvalidProduct dispense.volume
      (scales.factorOf (category store dispense.ingredient))) :
    (boostedVolume scales store dispense).isNaN = true := by
  have one : ¬ InvalidProduct dispense.volume 1 := by
    rintro (⟨-, infinite⟩ | ⟨-, zero⟩)
    · exact absurd infinite (by decide)
    · exact absurd zero (by decide)
  unfold boostedVolume
  generalize category store dispense.ingredient = isCategory at invalid ⊢
  rcases isCategory with _ | (_ | _ | _)
  · exact absurd invalid one
  · exact absurd invalid one
  · exact isNaN_mul.mpr (.inr (.inr invalid))
  · exact isNaN_mul.mpr (.inr (.inr invalid))

/-- The sum of a category. -/
def VolumeSummary.litresOf (vol : VolumeSummary) : BoostCategory → Float
  | .boostable => vol.boostableLitres
  | .reducible => vol.reducibleLitres
  | .fixed => 0

variable {target : BoostCategory}

theorem litresOf_accumulateVolumes (notFixed : target ≠ .fixed)
    (acc : VolumeSummary) (dispense : DispenseCommand Float) :
    (accumulateVolumes acc (.dispense dispense) store).litresOf target =
      if category store dispense.ingredient = some target then
        acc.litresOf target + dispense.volume
      else acc.litresOf target := by
  rw [accumulateVolumes_dispense]
  generalize category store dispense.ingredient = found
  rcases found with _ | (_ | _ | _) <;> cases target <;>
    first | rfl | exact absurd rfl notFixed

theorem litresOf_sumVolumes (notFixed : target ≠ .fixed)
    (none : ¬ HasCategory store commands target) :
    (sumVolumes commands store).litresOf target =
      ({} : VolumeSummary).litresOf target := by
  replace none : ∀ dispense, .dispense dispense ∈ commands.leaves →
      category store dispense.ingredient ≠ some target :=
    fun dispense inRecipe isCategory => none ⟨dispense, inRecipe, isCategory⟩
  rw [sumVolumes, foldCommands_eq]
  generalize ({} : VolumeSummary) = acc
  generalize commands.leaves = leaves at none ⊢
  induction leaves generalizing acc with
  | nil => rfl
  | cons command leaves ih =>
      rw [List.foldl_cons,
        ih _ fun dispense inRest => none dispense (.tail _ inRest)]
      cases command with
      | monostate => rfl
      | manual command => rfl
      | dispense dispense =>
          rw [litresOf_accumulateVolumes notFixed,
            if_neg (none dispense (.head _))]

theorem exists_category (keepsSign : KeepsSign toMilliLitre)
    (target : BoostCategory) (notFixed : target ≠ .fixed)
    (receives :
      ¬ toMilliLitre ((sumVolumes commands store).litresOf target) ≤ 0) :
    HasCategory store commands target := by
  by_contra absent
  apply receives
  rw [litresOf_sumVolumes notFixed absent]
  cases target <;> exact keepsSign.zero

/-- An invalid operation of boosting leaves a volume that is no number. -/
theorem exists_isNaN_of_invalidBoost (keepsSign : KeepsSign toMilliLitre)
    {p : Float} (invalid : InvalidBoost toMilliLitre store p commands) :
    ∃ dispense, .dispense dispense ∈ commands.leaves ∧
      (boostedVolume (computeScaleFactors toMilliLitre
        (sumVolumes commands store) p) store dispense).isNaN = true := by
  have ofMoved
      (receives : ¬ receiving toMilliLitre p (sumVolumes commands store) ≤ 0)
      (isNaN : (p * giving toMilliLitre p (sumVolumes commands store) /
        receiving toMilliLitre p (sumVolumes commands store)).isNaN = true) :
      ∃ dispense, .dispense dispense ∈ commands.leaves ∧
        (boostedVolume (computeScaleFactors toMilliLitre
          (sumVolumes commands store) p) store dispense).isNaN = true := by
    simp only [receiving, giving] at receives isNaN
    unfold computeScaleFactors
    simp only
    by_cases sign : p ≥ 0
    · simp only [if_pos sign] at receives isNaN ⊢
      obtain ⟨dispense, inRecipe, isBoostable⟩ :
          HasCategory store commands .boostable :=
        exists_category keepsSign .boostable (by decide) receives
      refine ⟨dispense, inRecipe, ?_⟩
      rw [boostedVolume, isBoostable, if_neg receives]
      exact isNaN_mul.mpr (.inr (.inl (isNaN_add_right isNaN)))
    · simp only [if_neg sign] at receives isNaN ⊢
      obtain ⟨dispense, inRecipe, isReducible⟩ :
          HasCategory store commands .reducible :=
        exists_category keepsSign .reducible (by decide) receives
      refine ⟨dispense, inRecipe, ?_⟩
      rw [boostedVolume, isReducible, if_neg receives]
      exact isNaN_mul.mpr (.inr (.inl (isNaN_sub_right isNaN)))
  cases invalid with
  | share receives invalid =>
      exact ofMoved receives
        (isNaN_div.mpr (.inl (isNaN_mul.mpr (.inr (.inr invalid)))))
  | quotient receives invalid =>
      exact ofMoved receives (isNaN_div.mpr (.inr (.inr invalid)))
  | product member invalid =>
      exact ⟨_, member, isNaN_boostedVolume_of_product invalid⟩

end NoNumbers

section Categories

variable {toMilliLitre : Float → Float} {commands : Commands Float}
  {store : IngredientStore} {target : BoostCategory}

theorem litresOf_foldl_infinity (notFixed : target ≠ .fixed)
    {dispense : DispenseCommand Float}
    (isCategory : category store dispense.ingredient = some target)
    (leaves : List (Command Float)) :
    ∀ acc : VolumeSummary,
      (∀ next, .dispense next ∈ leaves → next.volume = infinity) →
      0 ≤ acc.litresOf target →
      (acc.litresOf target = infinity ∨ .dispense dispense ∈ leaves) →
        (leaves.foldl (fun acc command => accumulateVolumes acc command store)
          acc).litresOf target = infinity := by
  induction leaves with
  | nil =>
      intro acc infinite nonneg found
      exact found.resolve_right List.not_mem_nil
  | cons command leaves ih =>
      intro acc infinite nonneg found
      have inRest : ∀ next, .dispense next ∈ leaves → next.volume = infinity :=
        fun next member => infinite next (.tail _ member)
      rw [List.foldl_cons]
      cases command with
      | monostate =>
          refine ih acc inRest nonneg (found.imp_right fun member => ?_)
          exact (List.mem_cons.mp member).resolve_left nofun
      | manual command =>
          refine ih acc inRest nonneg (found.imp_right fun member => ?_)
          exact (List.mem_cons.mp member).resolve_left nofun
      | dispense first =>
          have added : (accumulateVolumes acc (.dispense first)
              store).litresOf target = _ :=
            litresOf_accumulateVolumes notFixed acc first
          rw [infinite first (.head _), add_infinity nonneg] at added
          by_cases isTarget : category store first.ingredient = some target
          · rw [if_pos isTarget] at added
            refine ih _ inRest ?_ (.inl added)
            rw [added]
            decide
          · rw [if_neg isTarget] at added
            apply ih _ inRest
            · rw [added]
              exact nonneg
            · rw [added]
              refine found.imp_right fun member => ?_
              refine (List.mem_cons.mp member).resolve_left fun same => ?_
              cases same
              exact isTarget isCategory

/-- Where every volume is infinite, so is the sum of a category that occurs. -/
theorem litresOf_sumVolumes_infinity (notFixed : target ≠ .fixed)
    (has : HasCategory store commands target)
    (infinite : ∀ dispense, .dispense dispense ∈ commands.leaves →
      dispense.volume = infinity) :
    (sumVolumes commands store).litresOf target = infinity := by
  obtain ⟨dispense, inRecipe, isCategory⟩ := has
  rw [sumVolumes, foldCommands_eq]
  refine litresOf_foldl_infinity notFixed isCategory _ _ infinite ?_
    (.inr inRecipe)
  cases target <;> decide

theorem giving_isZero (keepsSign : KeepsSign toMilliLitre) {p : Float}
    (onlyOne : ¬ (HasCategory store commands .boostable ∧
      HasCategory store commands .reducible))
    (receives : ¬ receiving toMilliLitre p (sumVolumes commands store) ≤ 0) :
    (giving toMilliLitre p (sumVolumes commands store) == 0) = true := by
  have zero : (toMilliLitre 0 == 0) = true :=
    isZero_of_nonneg_of_nonpos (keepsSign.nonneg 0 (by decide)) keepsSign.zero
  unfold receiving at receives
  unfold giving
  by_cases sign : p ≥ 0
  · simp only [if_pos sign] at receives ⊢
    have boostable : HasCategory store commands .boostable :=
      exists_category keepsSign .boostable (by decide) receives
    have none : (sumVolumes commands store).litresOf .reducible = 0 :=
      litresOf_sumVolumes (by decide) fun reducible =>
        onlyOne ⟨boostable, reducible⟩
    change (toMilliLitre ((sumVolumes commands store).litresOf .reducible) ==
      0) = true
    rw [none]
    exact zero
  · simp only [if_neg sign] at receives ⊢
    have reducible : HasCategory store commands .reducible :=
      exists_category keepsSign .reducible (by decide) receives
    have none : (sumVolumes commands store).litresOf .boostable = 0 :=
      litresOf_sumVolumes (by decide) fun boostable =>
        onlyOne ⟨boostable, reducible⟩
    change (toMilliLitre ((sumVolumes commands store).litresOf .boostable) ==
      0) = true
    rw [none]
    exact zero

/-- Nothing is moved to or from a category when the other does not occur. -/
theorem factorOf_eq_one (keepsSign : KeepsSign toMilliLitre) {p : Float}
    (within : p.abs ≤ 1)
    (nonneg : ∀ volume ∈ commands.volumes, 0 ≤ volume)
    (onlyOne : ¬ (HasCategory store commands .boostable ∧
      HasCategory store commands .reducible))
    {dispense : DispenseCommand Float}
    (inRecipe : .dispense dispense ∈ commands.leaves) :
    (computeScaleFactors toMilliLitre (sumVolumes commands store)
      p).factorOf (category store dispense.ingredient) = 1 := by
  obtain ⟨boostableSum, reducibleSum⟩ := sumVolumes_nonneg store nonneg
  have unchanged (found : Option BoostCategory) :
      ({} : ScaleFactors).factorOf found = 1 := by
    rcases found with _ | (_ | _ | _) <;> rfl
  have moved (receives :
      ¬ receiving toMilliLitre p (sumVolumes commands store) ≤ 0)
      (positive : 0 < receiving toMilliLitre p (sumVolumes commands store)) :
      (p * giving toMilliLitre p (sumVolumes commands store) /
        receiving toMilliLitre p (sumVolumes commands store) == 0) = true :=
    isZero_div (isZero_mul (isNumber_of_abs_le within)
      (isFinite_of_abs_le_one within)
      (giving_isZero keepsSign onlyOne receives)) positive
  unfold computeScaleFactors
  simp only
  by_cases sign : p ≥ 0
  · simp only [receiving, giving, if_pos sign] at moved ⊢
    split
    case isTrue empty => exact unchanged _
    case isFalse receives =>
      have isZero := moved receives
        (pos_of_nonneg (keepsSign.nonneg _ boostableSum) receives)
      have boostable : HasCategory store commands .boostable :=
        exists_category keepsSign .boostable (by decide) receives
      cases found : category store dispense.ingredient with
      | none => rfl
      | some target =>
          cases target with
          | fixed => rfl
          | boostable => exact one_add_zero isZero
          | reducible => exact absurd ⟨boostable, _, inRecipe, found⟩ onlyOne
  · simp only [receiving, giving, if_neg sign] at moved ⊢
    split
    case isTrue empty => exact unchanged _
    case isFalse receives =>
      have isZero := moved receives
        (pos_of_nonneg (keepsSign.nonneg _ reducibleSum) receives)
      have reducible : HasCategory store commands .reducible :=
        exists_category keepsSign .reducible (by decide) receives
      cases found : category store dispense.ingredient with
      | none => rfl
      | some target =>
          cases target with
          | fixed => rfl
          | boostable => exact absurd ⟨⟨_, inRecipe, found⟩, reducible⟩ onlyOne
          | reducible => exact one_sub_zero isZero

theorem not_invalidBoost_of_onlyOne (keepsSign : KeepsSign toMilliLitre)
    {p : Float} (within : p.abs ≤ 1)
    (nonneg : ∀ volume ∈ commands.volumes, 0 ≤ volume)
    (onlyOne : ¬ (HasCategory store commands .boostable ∧
      HasCategory store commands .reducible)) :
    ¬ InvalidBoost toMilliLitre store p commands := by
  rintro (⟨receives, invalid⟩ | ⟨receives, invalid⟩ | ⟨inRecipe, invalid⟩)
  · have isZero := giving_isZero keepsSign onlyOne receives
    rcases invalid with ⟨-, infinite⟩ | ⟨infinite, -⟩
    · rw [not_isInf_of_zero isZero] at infinite
      cases infinite
    · rw [isFinite_of_abs_le_one within] at infinite
      cases infinite
  · have isZero := isZero_mul (isNumber_of_abs_le within)
      (isFinite_of_abs_le_one within)
      (giving_isZero keepsSign onlyOne receives)
    rcases invalid with ⟨-, empty⟩ | ⟨infinite, -⟩
    · obtain ⟨sign, isView⟩ := beq_zero_iff.mp empty
      refine receives (nonpos_iff.mpr ?_)
      rw [isView]
      trivial
    · rw [not_isInf_of_zero isZero] at infinite
      cases infinite
  · rw [factorOf_eq_one keepsSign within nonneg onlyOne inRecipe] at invalid
    rcases invalid with ⟨-, infinite⟩ | ⟨-, zero⟩
    · exact absurd infinite (by decide)
    · exact absurd zero (by decide)

theorem HasCategory.exists_volume (has : HasCategory store commands target) :
    ∃ volume, volume ∈ commands.volumes := by
  obtain ⟨dispense, inRecipe, -⟩ := has
  exact ⟨_, mem_volumes.mpr ⟨dispense, inRecipe, rfl⟩⟩

theorem scaled_of_far {nominalServingVolume targetVolume : Float}
    (far : ¬ NearOne
      (scaleFactor toMilliLitre nominalServingVolume targetVolume)) :
    scaled toMilliLitre nominalServingVolume targetVolume commands =
      scaleCommandsUniformly commands
        (scaleFactor toMilliLitre nominalServingVolume targetVolume) := by
  unfold scaled
  exact if_neg far

theorem hasCategory_scaled {nominalServingVolume targetVolume : Float} :
    HasCategory store
        (scaled toMilliLitre nominalServingVolume targetVolume commands)
        target ↔
      HasCategory store commands target := by
  unfold scaled HasCategory
  simp only
  split
  · rfl
  · simp only [dispense_mem_scaleCommandsUniformly]
    constructor
    · rintro ⟨_, ⟨before, inRecipe, rfl⟩, isCategory⟩
      exact ⟨before, inRecipe, isCategory⟩
    · rintro ⟨before, inRecipe, isCategory⟩
      exact ⟨_, ⟨before, inRecipe, rfl⟩, isCategory⟩

theorem not_nearOne_infinity : ¬ NearOne infinity := by
  rw [NearOne, epsilon_eq]
  decide

theorem not_nearOne_zero {factor : Float} (isZero : (factor == 0) = true) :
    ¬ NearOne factor := by
  rw [NearOne, epsilon_eq]
  rcases eq_zero isZero with rfl | rfl <;> decide

theorem scaleFactor_infinity {nominalServingVolume targetVolume : Float}
    (tooLarge : toMilliLitre targetVolume = infinity)
    (nominalPositive : 0 < toMilliLitre nominalServingVolume)
    (nominalFinite : (toMilliLitre nominalServingVolume).isInf = false) :
    scaleFactor toMilliLitre nominalServingVolume targetVolume = infinity := by
  rw [scaleFactor, tooLarge, infinity_div nominalPositive nominalFinite]

/-- For a target volume that is too large every volume becomes infinite, and
with both categories a quotient of infinities is computed. -/
theorem invalidProcessing_of_both (leavesRange : LeavesRange toMilliLitre)
    {recipe : Recipe Float} {targetVolume : Float}
    (tooLarge : toMilliLitre targetVolume = infinity)
    (nominalPositive : 0 < toMilliLitre recipe.nominalServingVolume)
    (nominalFinite :
      (toMilliLitre recipe.nominalServingVolume).isInf = false)
    (positive : ∀ volume ∈ recipe.commands.volumes, 0 < volume)
    (boostable : HasCategory store recipe.commands .boostable)
    (reducible : HasCategory store recipe.commands .reducible) :
    InvalidProcessing toMilliLitre store recipe 100 targetVolume := by
  have factor := scaleFactor_infinity tooLarge nominalPositive nominalFinite
  have far : ¬ NearOne (scaleFactor toMilliLitre recipe.nominalServingVolume
      targetVolume) := factor ▸ not_nearOne_infinity
  have allInfinite : ∀ dispense, .dispense dispense ∈
      (scaled toMilliLitre recipe.nominalServingVolume targetVolume
        recipe.commands).leaves → dispense.volume = infinity := by
    rw [scaled_of_far far, factor]
    intro dispense member
    obtain ⟨before, inRecipe, rfl⟩ :=
      dispense_mem_scaleCommandsUniformly.mp member
    exact mul_infinity (positive _ (mem_volumes.mpr ⟨before, inRecipe, rfl⟩))
  have boostableSum := litresOf_sumVolumes_infinity (by decide)
    (hasCategory_scaled.mpr boostable) allInfinite
  have reducibleSum := litresOf_sumVolumes_infinity (by decide)
    (hasCategory_scaled.mpr reducible) allInfinite
  have one : (100 / 100 : Float) = 1 := by decide
  have large : ¬ (100 / 100 : Float).abs < epsilon := by
    rw [epsilon_eq]
    decide
  refine .boosting large ?_
  rw [one]
  have receives : receiving toMilliLitre 1 (sumVolumes
      (scaled toMilliLitre recipe.nominalServingVolume targetVolume
        recipe.commands) store) = infinity := by
    rw [← leavesRange.infinite, ← boostableSum]
    rfl
  have gives : giving toMilliLitre 1 (sumVolumes
      (scaled toMilliLitre recipe.nominalServingVolume targetVolume
        recipe.commands) store) = infinity := by
    rw [← leavesRange.infinite, ← reducibleSum]
    rfl
  apply InvalidBoost.quotient
  · rw [receives]
    decide
  · rw [receives, gives]
    exact .inr (by decide)

end Categories

end Doubles

end CocktailMaker
