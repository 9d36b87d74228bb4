import CocktailMaker.Recipe
import CocktailMaker.Redistribution
import CocktailMaker.ScaleRecipe

/-!
# Boosting a recipe

`boost_recipe` moves volume between the boostable and the reducible
ingredients.  It sums the volumes of both categories over the tree, derives a
factor for each of them, and multiplies every command of the category by its
factor.
-/

namespace CocktailMaker

open Redistribution

structure VolumeSummary where
  boostableLitres : Litre := 0
  reducibleLitres : Litre := 0

structure ScaleFactors where
  boostable : Rat := 1
  reducible : Rat := 1

/-- Fold over every command of the tree, in order. -/
def foldCommands {Volume : Type} {T : Type*} (commands : Commands Volume)
    (init : T) (fn : T → Command Volume → T) : T :=
  commands.foldl (fun acc item =>
    match item with
    | .single command => fn acc command
    | .parallel group => group.foldl fn acc) init

def accumulateVolumes (acc : VolumeSummary) (command : Command)
    (store : IngredientStore) : VolumeSummary :=
  match command with
  | .dispense command =>
      match store.findById command.ingredient with
      | some ingredient =>
          match ingredient.boostCategory with
          | .boostable =>
              ⟨acc.boostableLitres + command.volume, acc.reducibleLitres⟩
          | .reducible =>
              ⟨acc.boostableLitres, acc.reducibleLitres + command.volume⟩
          | .fixed => acc
      | none => acc
  | _ => acc

/-- The factors of both categories for a boost in `[-1, 1]`. -/
def computeScaleFactors (vol : VolumeSummary) (p : Rat) :
    Except Failure ScaleFactors := do
  let vB := vol.boostableLitres.inMilliLitre
  let vR := vol.reducibleLitres.inMilliLitre
  if p ≥ 0 then
    if vB ≤ 0 then
      return {}
    let moved ← divide (p * vR) vB
    return { boostable := 1 + moved, reducible := 1 - p }
  if vR ≤ 0 then
    return {}
  let moved ← divide (p * vB) vR
  return { boostable := 1 + p, reducible := 1 - moved }

def scaleCommand (command : Command) (scales : ScaleFactors)
    (store : IngredientStore) : Command :=
  match command with
  | .dispense dispense =>
      match store.findById dispense.ingredient with
      | some ingredient =>
          match ingredient.boostCategory with
          | .boostable =>
              .dispense ⟨dispense.id, dispense.ingredient,
                dispense.volume * scales.boostable⟩
          | .reducible =>
              .dispense ⟨dispense.id, dispense.ingredient,
                dispense.volume * scales.reducible⟩
          | .fixed => command
      | none => command
  | _ => command

def scaleCommands (commands : Commands) (scales : ScaleFactors)
    (store : IngredientStore) : Commands :=
  commands.mapEach fun command => scaleCommand command scales store

def boostRecipe (commands : Commands) (boostPct : Percent)
    (store : IngredientStore) : Except Failure Commands := do
  assertThat (|boostPct| ≤ 100) "Boost can only be between -100% and 100%"
  let p := boostPct / 100
  if |p| < epsilon then
    return commands
  let volumes := foldCommands commands {} fun acc command =>
    accumulateVolumes acc command store
  let scales ← computeScaleFactors volumes p
  return scaleCommands commands scales store

section Categories

variable (store : IngredientStore)

/-- The category of the ingredient that a command dispenses, when the store
knows it. -/
def Command.category : Command → Option BoostCategory
  | .dispense command =>
      (store.findById command.ingredient).map Ingredient.boostCategory
  | _ => none

/-- The factor of a category. -/
def ScaleFactors.factorOf (scales : ScaleFactors) :
    Option BoostCategory → Rat
  | some .boostable => scales.boostable
  | some .reducible => scales.reducible
  | _ => 1

theorem scaleCommand_eq (command : Command) (scales : ScaleFactors) :
    scaleCommand command scales store =
      command.scaleVolume (scales.factorOf (command.category store)) := by
  cases command with
  | dispense dispense =>
      simp only [scaleCommand, Command.category]
      cases store.findById dispense.ingredient with
      | none => simp [ScaleFactors.factorOf]
      | some ingredient =>
          cases category : ingredient.boostCategory <;>
            simp [category, ScaleFactors.factorOf, Command.scaleVolume]
  | monostate => rfl
  | manual command => rfl

@[simp]
theorem category_scaleVolume (factor : Rat) (command : Command) :
    (command.scaleVolume factor).category store = command.category store := by
  cases command <;> rfl

/-- The volume of the commands with the given category. -/
def volumeIn (category : Option BoostCategory) (commands : List Command) :
    Litre :=
  ((commands.filter fun command => command.category store = category).map
    Command.dispensed).sum

@[simp]
theorem volumeIn_nil (category : Option BoostCategory) :
    volumeIn store category [] = 0 :=
  rfl

@[simp]
theorem volumeIn_cons (category : Option BoostCategory) (command : Command)
    (commands : List Command) :
    volumeIn store category (command :: commands) =
      (if command.category store = category then command.dispensed else 0) +
        volumeIn store category commands := by
  by_cases inCategory : command.category store = category <;>
    simp [volumeIn, inCategory]

/-- Every volume belongs to one category. -/
theorem totalVolume_eq_volumeIn (commands : Commands) :
    totalVolume commands =
      volumeIn store (some .boostable) commands.leaves +
        volumeIn store (some .reducible) commands.leaves +
        (volumeIn store (some .fixed) commands.leaves +
          volumeIn store none commands.leaves) := by
  unfold totalVolume
  induction commands.leaves with
  | nil => simp
  | cons command commands ih =>
      rw [List.map_cons, List.sum_cons, ih]
      simp only [volumeIn_cons]
      rcases command.category store with _ | (_ | _ | _) <;> simp <;> ring

theorem volumeIn_scaleCommands (category : Option BoostCategory)
    (scales : ScaleFactors) (commands : Commands) :
    volumeIn store category (scaleCommands commands scales store).leaves =
      volumeIn store category commands.leaves * scales.factorOf category := by
  rw [scaleCommands, Commands.leaves_mapEach]
  induction commands.leaves with
  | nil => simp
  | cons command commands ih =>
      rw [List.map_cons, volumeIn_cons, ih, volumeIn_cons, scaleCommand_eq,
        category_scaleVolume, Command.dispensed_scaleVolume]
      split
      case isTrue inCategory => rw [inCategory, add_mul]
      case isFalse outside => simp

theorem volumeIn_nonneg {commands : Commands}
    (nonnegative : NonnegativeVolumes commands)
    (category : Option BoostCategory) :
    0 ≤ volumeIn store category commands.leaves := by
  refine List.sum_nonneg fun volume member => ?_
  obtain ⟨command, inCategory, rfl⟩ := List.mem_map.mp member
  exact nonnegative.dispensed (List.mem_of_mem_filter inCategory)

end Categories

section Summary

variable (store : IngredientStore)

theorem foldCommands_eq {Volume : Type} {T : Type*}
    (commands : Commands Volume) (init : T) (fn : T → Command Volume → T) :
    foldCommands commands init fn = commands.leaves.foldl fn init := by
  rw [Commands.leaves, List.foldl_flatMap]
  refine congrArg (fun step => List.foldl step init commands) ?_
  funext acc item
  cases item <;> rfl

theorem accumulateVolumes_eq (acc : VolumeSummary) (command : Command) :
    accumulateVolumes acc command store =
      ⟨acc.boostableLitres + volumeIn store (some .boostable) [command],
        acc.reducibleLitres + volumeIn store (some .reducible) [command]⟩ := by
  simp only [volumeIn_cons, volumeIn_nil, add_zero]
  cases command with
  | dispense dispense =>
      cases found : store.findById dispense.ingredient with
      | none => simp [accumulateVolumes, Command.category, found]
      | some ingredient =>
          cases category : ingredient.boostCategory <;>
            simp [accumulateVolumes, Command.category, Command.dispensed,
              found, category]
  | monostate => simp [accumulateVolumes, Command.category]
  | manual command => simp [accumulateVolumes, Command.category]

theorem foldl_accumulateVolumes (commands : List Command)
    (acc : VolumeSummary) :
    commands.foldl (fun acc command => accumulateVolumes acc command store) acc
      = ⟨acc.boostableLitres + volumeIn store (some .boostable) commands,
          acc.reducibleLitres + volumeIn store (some .reducible) commands⟩ := by
  induction commands generalizing acc with
  | nil => simp
  | cons command commands ih =>
      rw [List.foldl_cons, ih, accumulateVolumes_eq]
      simp [add_assoc]

/-- The boostable and the reducible volume of a recipe. -/
def boostPools (commands : Commands) : Pools Rat where
  first := volumeIn store (some .boostable) commands.leaves
  second := volumeIn store (some .reducible) commands.leaves

theorem foldCommands_accumulateVolumes (commands : Commands) :
    foldCommands commands {} (fun acc command =>
        accumulateVolumes acc command store) =
      ⟨(boostPools store commands).first,
        (boostPools store commands).second⟩ := by
  rw [foldCommands_eq, foldl_accumulateVolumes]
  simp [boostPools]

end Summary

section Factors

/-- The factors that `boost_recipe` uses in the end, for a boost in
`[-1, 1]`. -/
def effectiveScales (p : Rat) (pools : Pools Rat) : ScaleFactors :=
  if |p| < epsilon ∨ receiving p pools ≤ 0 then {}
  else ⟨(shareFactors p pools).first, (shareFactors p pools).second⟩

/-- The guards of `compute_scale_factors` keep every divisor positive. -/
theorem computeScaleFactors_eq (pools : Pools Rat) (p : Rat) :
    computeScaleFactors ⟨pools.first, pools.second⟩ p =
      .ok (if receiving p pools ≤ 0 then {}
        else ⟨(shareFactors p pools).first,
          (shareFactors p pools).second⟩) := by
  have ratio (dividend divisor : Litre) :
      p * dividend.inMilliLitre / divisor.inMilliLitre =
        p * dividend / divisor := by
    unfold Litre.inMilliLitre
    rw [← mul_assoc, mul_div_mul_right _ _ (by norm_num)]
  have empty (volume : Litre) : volume.inMilliLitre ≤ 0 ↔ volume ≤ 0 := by
    rw [← not_lt, inMilliLitre_pos, not_lt]
  simp only [computeScaleFactors, empty, receiving, shareFactors, ge_iff_le]
  by_cases positive : 0 ≤ p
  · simp only [if_pos positive]
    by_cases noTarget : pools.first ≤ 0
    · simp [noTarget, pure, Except.pure]
    · have divisor : Litre.inMilliLitre pools.first ≠ 0 :=
        (inMilliLitre_pos.mpr (not_le.mp noTarget)).ne'
      simp only [if_neg noTarget, divide_of_ne_zero divisor, ratio, bind,
        Except.bind, pure, Except.pure]
  · simp only [if_neg positive]
    by_cases noTarget : pools.second ≤ 0
    · simp [noTarget, pure, Except.pure]
    · have divisor : Litre.inMilliLitre pools.second ≠ 0 :=
        (inMilliLitre_pos.mpr (not_le.mp noTarget)).ne'
      simp only [if_neg noTarget, divide_of_ne_zero divisor, ratio, bind,
        Except.bind, pure, Except.pure]

theorem scaleCommands_default (commands : Commands) (store : IngredientStore) :
    scaleCommands commands {} store = commands := by
  refine Commands.mapEach_eq_self fun command _ => ?_
  have one : ScaleFactors.factorOf {} (command.category store) = 1 := by
    rcases command.category store with _ | (_ | _ | _) <;> rfl
  rw [scaleCommand_eq, one, Command.scaleVolume_one]

theorem boostRecipe_eq (commands : Commands) {boostPct : Percent}
    (inRange : |boostPct| ≤ 100) (store : IngredientStore) :
    boostRecipe commands boostPct store =
      .ok (scaleCommands commands
        (effectiveScales (boostPct / 100) (boostPools store commands))
        store) := by
  simp only [boostRecipe, assertThat_of_holds inRange,
    foldCommands_accumulateVolumes, computeScaleFactors_eq, bind, Except.bind,
    pure, Except.pure, effectiveScales]
  by_cases nearZero : |boostPct / 100| < epsilon
  · simp only [nearZero, true_or, if_true, scaleCommands_default]
  · simp only [nearZero, false_or, if_false]

end Factors

section Conservation

variable (store : IngredientStore)

theorem boostPools_scaleCommands (scales : ScaleFactors)
    (commands : Commands) :
    boostPools store (scaleCommands commands scales store) =
      Factors.apply ⟨scales.boostable, scales.reducible⟩
        (boostPools store commands) := by
  simp only [boostPools, volumeIn_scaleCommands, Factors.apply,
    ScaleFactors.factorOf]

/-- Boosting moves a share between the two pools, or moves nothing. -/
theorem boostPools_boosted (p : Rat) (commands : Commands) :
    let boosted := scaleCommands commands
      (effectiveScales p (boostPools store commands)) store
    boostPools store boosted = (boostPools store commands).transfer p ∨
      boosted = commands := by
  intro boosted
  by_cases shortcut : |p| < epsilon ∨
      receiving p (boostPools store commands) ≤ 0
  · right
    simp only [boosted, effectiveScales, if_pos shortcut,
      scaleCommands_default]
  · left
    have receives : receiving p (boostPools store commands) ≠ 0 :=
      (not_le.mp fun empty => shortcut (Or.inr empty)).ne'
    rw [boostPools_scaleCommands, ← Factors.apply_shareFactors receives]
    simp only [effectiveScales, if_neg shortcut]

theorem totalVolume_eq_boostPools (commands : Commands) :
    totalVolume commands = (boostPools store commands).total +
      (volumeIn store (some .fixed) commands.leaves +
        volumeIn store none commands.leaves) :=
  totalVolume_eq_volumeIn store commands

theorem volumeIn_scaleCommands_of_factor_one {category : Option BoostCategory}
    {scales : ScaleFactors} (one : scales.factorOf category = 1)
    (commands : Commands) :
    volumeIn store category (scaleCommands commands scales store).leaves =
      volumeIn store category commands.leaves := by
  rw [volumeIn_scaleCommands, one, mul_one]

theorem totalVolume_boosted (p : Rat) (commands : Commands) :
    totalVolume (scaleCommands commands
        (effectiveScales p (boostPools store commands)) store) =
      totalVolume commands := by
  rcases boostPools_boosted store p commands with moved | unchanged
  · rw [totalVolume_eq_boostPools store (scaleCommands _ _ store), moved,
      Pools.total_transfer, volumeIn_scaleCommands_of_factor_one store rfl,
      volumeIn_scaleCommands_of_factor_one store rfl,
      totalVolume_eq_boostPools store commands]
  · rw [unchanged]

theorem effectiveScales_nonneg {p : Rat} (atMostOne : |p| ≤ 1)
    {commands : Commands} (nonnegative : NonnegativeVolumes commands)
    (category : Option BoostCategory) :
    0 ≤ (effectiveScales p (boostPools store commands)).factorOf category := by
  obtain ⟨boostable, reducible⟩ :
      0 ≤ (shareFactors p (boostPools store commands)).first ∧
        0 ≤ (shareFactors p (boostPools store commands)).second :=
    shareFactors_nonneg atMostOne
      (volumeIn_nonneg store nonnegative (some .boostable))
      (volumeIn_nonneg store nonnegative (some .reducible))
  have one : (0 : Rat) ≤ 1 := zero_le_one
  unfold effectiveScales
  split
  case isTrue shortcut =>
    rcases category with _ | (_ | _ | _) <;> exact one
  case isFalse moving =>
    rcases category with _ | (_ | _ | _)
    · exact one
    · exact one
    · exact boostable
    · exact reducible

theorem nonnegativeVolumes_scaleCommands {scales : ScaleFactors}
    (factorsNonneg : ∀ category, 0 ≤ scales.factorOf category)
    {commands : Commands} (nonnegative : NonnegativeVolumes commands) :
    NonnegativeVolumes (scaleCommands commands scales store) := by
  simp only [scaleCommands, scaleCommand_eq]
  exact nonnegative.scaleVolumes fun command => factorsNonneg _

/-- What boosting does to a command: commands that are not boosted stay, and a
boosted command keeps its id and its ingredient. -/
inductive Boosted (scales : ScaleFactors) : Command → Command → Prop
  | monostate : Boosted scales .monostate .monostate
  | manual (command : ManualCommand) :
      Boosted scales (.manual command) (.manual command)
  | unknown (command : DispenseCommand)
      (notFound : store.findById command.ingredient = none) :
      Boosted scales (.dispense command) (.dispense command)
  | fixed (command : DispenseCommand) (ingredient : Ingredient)
      (found : store.findById command.ingredient = some ingredient)
      (category : ingredient.boostCategory = .fixed) :
      Boosted scales (.dispense command) (.dispense command)
  | boostable (command : DispenseCommand) (ingredient : Ingredient)
      (found : store.findById command.ingredient = some ingredient)
      (category : ingredient.boostCategory = .boostable) :
      Boosted scales (.dispense command)
        (.dispense ⟨command.id, command.ingredient,
          command.volume * scales.boostable⟩)
  | reducible (command : DispenseCommand) (ingredient : Ingredient)
      (found : store.findById command.ingredient = some ingredient)
      (category : ingredient.boostCategory = .reducible) :
      Boosted scales (.dispense command)
        (.dispense ⟨command.id, command.ingredient,
          command.volume * scales.reducible⟩)

theorem boosted_scaleCommand (scales : ScaleFactors) (command : Command) :
    Boosted store scales command (scaleCommand command scales store) := by
  cases command with
  | monostate => exact .monostate
  | manual command => exact .manual command
  | dispense command =>
      cases found : store.findById command.ingredient with
      | none =>
          simpa only [scaleCommand, found] using
            Boosted.unknown command found
      | some ingredient =>
          cases category : ingredient.boostCategory with
          | fixed =>
              simpa only [scaleCommand, found, category] using
                Boosted.fixed command ingredient found category
          | boostable =>
              simpa only [scaleCommand, found, category] using
                Boosted.boostable command ingredient found category
          | reducible =>
              simpa only [scaleCommand, found, category] using
                Boosted.reducible command ingredient found category

end Conservation

section Commutation

variable (store : IngredientStore)

theorem volumeIn_scaleCommandsUniformly (category : Option BoostCategory)
    (factor : Rat) (commands : Commands) :
    volumeIn store category (scaleCommandsUniformly commands factor).leaves =
      factor * volumeIn store category commands.leaves := by
  rw [leaves_scaleCommandsUniformly]
  induction commands.leaves with
  | nil => simp
  | cons command commands ih =>
      rw [List.map_cons, volumeIn_cons, ih, volumeIn_cons,
        category_scaleVolume, Command.dispensed_scaleVolume]
      split <;> ring

theorem boostPools_scaleCommandsUniformly (factor : Rat)
    (commands : Commands) :
    boostPools store (scaleCommandsUniformly commands factor) =
      (boostPools store commands).scale factor := by
  simp only [boostPools, volumeIn_scaleCommandsUniformly, Pools.scale]

theorem effectiveScales_scale {factor : Rat} (positive : 0 < factor) (p : Rat)
    (pools : Pools Rat) :
    effectiveScales p (pools.scale factor) = effectiveScales p pools := by
  have sameSign : factor * receiving p pools ≤ 0 ↔ receiving p pools ≤ 0 := by
    simp only [← not_lt, mul_pos_iff_of_pos_left positive]
  simp only [effectiveScales, receiving_scale, sameSign,
    shareFactors_scale positive.ne']

theorem scaleCommands_comm (scales : ScaleFactors) (factor : Rat)
    (commands : Commands) :
    scaleCommands (scaleCommandsUniformly commands factor) scales store =
      scaleCommandsUniformly (scaleCommands commands scales store) factor := by
  simp only [scaleCommands, scaleCommandsUniformly, Commands.mapEach_mapEach]
  refine Commands.mapEach_congr fun command _ => ?_
  simp only [Function.comp_apply, scaleCommandVolume_eq, scaleCommand_eq,
    category_scaleVolume]
  exact Command.scaleVolume_comm _ _ command

/-- Nothing is dispensed after scaling to zero, whatever was boosted. -/
theorem scaleCommandsUniformly_zero_scaleCommands (scales : ScaleFactors)
    (commands : Commands) :
    scaleCommandsUniformly (scaleCommands commands scales store) 0 =
      scaleCommandsUniformly commands 0 := by
  simp only [scaleCommands, scaleCommandsUniformly, Commands.mapEach_mapEach]
  refine Commands.mapEach_congr fun command _ => ?_
  simp only [Function.comp_apply, scaleCommandVolume_eq, scaleCommand_eq]
  cases command <;> simp [Command.scaleVolume]

theorem boost_scaleCommandsUniformly {factor : Rat} (nonnegative : 0 ≤ factor)
    (p : Rat) (commands : Commands) :
    scaleCommands (scaleCommandsUniformly commands factor)
        (effectiveScales p
          (boostPools store (scaleCommandsUniformly commands factor))) store =
      scaleCommandsUniformly (scaleCommands commands
        (effectiveScales p (boostPools store commands)) store) factor := by
  rcases nonnegative.eq_or_lt with zero | positive
  · rw [scaleCommands_comm, ← zero,
      scaleCommandsUniformly_zero_scaleCommands,
      scaleCommandsUniformly_zero_scaleCommands]
  · rw [boostPools_scaleCommandsUniformly, effectiveScales_scale positive,
      scaleCommands_comm]

end Commutation

section MainResults

theorem abs_div_hundred_le_one {boostPct : Percent}
    (inRange : |boostPct| ≤ 100) : |boostPct / 100| ≤ 1 := by
  rw [abs_div, abs_of_pos (by norm_num : (0 : Rat) < 100)]
  exact (div_le_one (by norm_num)).mpr inRange

/-- `boost_recipe` redistributes the volume between two categories and loses
none of it. -/
theorem boostRecipe_redistributes (commands : Commands)
    (store : IngredientStore) (boostPct : Percent)
    (inRange : |boostPct| ≤ 100) :
    ∃ boosted scales, boostRecipe commands boostPct store = .ok boosted ∧
      totalVolume boosted = totalVolume commands ∧
      Commands.Related (Boosted store scales) commands boosted ∧
      (NonnegativeVolumes commands → NonnegativeVolumes boosted) := by
  have atMostOne := abs_div_hundred_le_one inRange
  let scales := effectiveScales (boostPct / 100) (boostPools store commands)
  refine ⟨scaleCommands commands scales store, scales,
    boostRecipe_eq commands inRange store, ?_, ?_, ?_⟩
  · exact totalVolume_boosted store (boostPct / 100) commands
  · exact Commands.related_mapEach (boosted_scaleCommand store scales) commands
  · exact fun nonnegative => nonnegativeVolumes_scaleCommands store
      (effectiveScales_nonneg store atMostOne nonnegative) nonnegative

example : boostRecipe rumPunch 50 rumAndLime =
    .ok [.single (.dispense ⟨1, "rum", 7 / 100⟩),
      .parallel [.dispense ⟨2, "lime", 3 / 100⟩,
        .dispense ⟨3, "mint", 1 / 50⟩],
      .single (.manual ⟨4, "Add ice"⟩), .single .monostate] := by
  decide +kernel

theorem boostRecipe_redistributes_rumPunch :
    ∃ boosted scales, boostRecipe rumPunch (-100) rumAndLime = .ok boosted ∧
      totalVolume boosted = totalVolume rumPunch ∧
      Commands.Related (Boosted rumAndLime scales) rumPunch boosted ∧
      (NonnegativeVolumes rumPunch → NonnegativeVolumes boosted) :=
  boostRecipe_redistributes rumPunch rumAndLime (-100) (by decide +kernel)

/-- Boosting the scaled recipe and scaling the boosted one give the same
commands, on every shortcut of either operation. -/
theorem scaleRecipe_boostRecipe_commute (commands : Commands)
    (store : IngredientStore) (boostPct : Percent)
    (nominalServingVolume targetVolume : Litre)
    (inRange : |boostPct| ≤ 100) (nominalPositive : 0 < nominalServingVolume)
    (targetNonneg : 0 ≤ targetVolume) :
    ∃ result,
      (scaleRecipe commands nominalServingVolume targetVolume >>=
        fun scaled => boostRecipe scaled boostPct store) = .ok result ∧
      (boostRecipe commands boostPct store >>=
        fun boosted => scaleRecipe boosted nominalServingVolume targetVolume) =
          .ok result ∧
      (¬ NearOne (targetVolume / nominalServingVolume) →
        totalVolume result =
          totalVolume commands * targetVolume / nominalServingVolume) := by
  let factor := effectiveFactor nominalServingVolume targetVolume
  let p := boostPct / 100
  let boosted := scaleCommands commands
    (effectiveScales p (boostPools store commands)) store
  have factorNonneg : 0 ≤ factor :=
    effectiveFactor_nonneg nominalPositive targetNonneg
  refine ⟨scaleCommandsUniformly boosted factor, ?_, ?_, ?_⟩
  · rw [scaleRecipe_eq commands nominalPositive targetNonneg]
    change boostRecipe (scaleCommandsUniformly commands factor) boostPct store =
      _
    rw [boostRecipe_eq _ inRange store,
      boost_scaleCommandsUniformly store factorNonneg]
  · rw [boostRecipe_eq commands inRange store]
    exact scaleRecipe_eq boosted nominalPositive targetNonneg
  · intro far
    have sameTotal : totalVolume boosted = totalVolume commands :=
      totalVolume_boosted store p commands
    have plainFactor : factor = targetVolume / nominalServingVolume :=
      if_neg far
    rw [totalVolume_scaleCommandsUniformly, sameTotal, plainFactor,
      mul_div_assoc]

theorem scaleRecipe_boostRecipe_commute_rumPunch :
    ∃ result,
      (scaleRecipe rumPunch (1 / 5) (3 / 10) >>=
        fun scaled => boostRecipe scaled 25 rumAndLime) = .ok result ∧
      (boostRecipe rumPunch 25 rumAndLime >>=
        fun boosted => scaleRecipe boosted (1 / 5) (3 / 10)) = .ok result ∧
      (¬ NearOne (3 / 10 / (1 / 5)) →
        totalVolume result = totalVolume rumPunch * (3 / 10) / (1 / 5)) :=
  scaleRecipe_boostRecipe_commute rumPunch rumAndLime 25 (1 / 5) (3 / 10)
    (by decide +kernel) (by decide +kernel) (by decide +kernel)

end MainResults

end CocktailMaker
