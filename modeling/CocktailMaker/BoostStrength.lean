import CocktailMaker.BoostRecipe
import Mathlib.Order.Monotone.Basic

/-!
# The effect of a boost

`is_recipe_boostable` tells whether a recipe has ingredients of both
categories, so that boosting can move volume between them.  A larger boost
never takes volume out of a boostable command and never adds volume to a
reducible one.
-/

namespace CocktailMaker

open Redistribution

structure BoostSummary where
  hasBoostables : Bool := false
  hasReducables : Bool := false

def summarizeBoostables (acc : BoostSummary) (command : Command)
    (store : IngredientStore) : BoostSummary :=
  if acc.hasBoostables && acc.hasReducables then acc
  else
    match command with
    | .dispense command =>
        match store.findById command.ingredient with
        | some ingredient =>
            match ingredient.boostCategory with
            | .boostable => ⟨true, acc.hasReducables⟩
            | .reducible => ⟨acc.hasBoostables, true⟩
            | .fixed => acc
        | none => acc
    | _ => acc

def isRecipeBoostable (commands : Commands) (store : IngredientStore) : Bool :=
  let boostables := foldCommands commands ({} : BoostSummary)
    fun acc command => summarizeBoostables acc command store
  boostables.hasBoostables && boostables.hasReducables

section Detection

variable (store : IngredientStore)

/-- Some command of the list has the category. -/
def hasCategory (category : BoostCategory) (commands : List Command) : Bool :=
  commands.any fun command => command.category store = some category

@[simp]
theorem hasCategory_nil (category : BoostCategory) :
    hasCategory store category [] = false :=
  rfl

@[simp]
theorem hasCategory_cons (category : BoostCategory) (command : Command)
    (commands : List Command) :
    hasCategory store category (command :: commands) =
      (decide (command.category store = some category) ||
        hasCategory store category commands) :=
  rfl

/-- The early exit leaves the summary that the full computation gives. -/
theorem summarizeBoostables_eq (acc : BoostSummary) (command : Command) :
    summarizeBoostables acc command store =
      ⟨acc.hasBoostables || hasCategory store .boostable [command],
        acc.hasReducables || hasCategory store .reducible [command]⟩ := by
  obtain ⟨hasBoostables, hasReducables⟩ := acc
  unfold summarizeBoostables
  split
  case isTrue both =>
    obtain ⟨rfl, rfl⟩ : hasBoostables = true ∧ hasReducables = true := by
      simpa using both
    rfl
  case isFalse missing =>
    cases command with
    | monostate => simp [Command.category]
    | manual command => simp [Command.category]
    | dispense command =>
        cases found : store.findById command.ingredient with
        | none => simp [Command.category, found]
        | some ingredient =>
            cases category : ingredient.boostCategory <;>
              simp [Command.category, found, category]

theorem foldl_summarizeBoostables (commands : List Command)
    (acc : BoostSummary) :
    commands.foldl
        (fun acc command => summarizeBoostables acc command store) acc =
      ⟨acc.hasBoostables || hasCategory store .boostable commands,
        acc.hasReducables || hasCategory store .reducible commands⟩ := by
  induction commands generalizing acc with
  | nil => simp
  | cons command commands ih =>
      rw [List.foldl_cons, ih, summarizeBoostables_eq]
      simp [Bool.or_assoc]

theorem isRecipeBoostable_eq (commands : Commands) :
    isRecipeBoostable commands store =
      (hasCategory store .boostable commands.leaves &&
        hasCategory store .reducible commands.leaves) := by
  unfold isRecipeBoostable
  rw [foldCommands_eq, foldl_summarizeBoostables]
  simp

theorem volumeIn_of_hasCategory_eq_false {category : BoostCategory}
    {commands : List Command}
    (absent : hasCategory store category commands = false) :
    volumeIn store (some category) commands = 0 := by
  induction commands with
  | nil => rfl
  | cons command commands ih =>
      obtain ⟨notHere, notLater⟩ :
          command.category store ≠ some category ∧
            hasCategory store category commands = false := by
        simpa using absent
      rw [volumeIn_cons, if_neg notHere, ih notLater, add_zero]

theorem dispensed_le_volumeIn {commands : Commands}
    (nonnegative : NonnegativeVolumes commands) {command : Command}
    (member : command ∈ commands.leaves) :
    command.dispensed ≤
      volumeIn store (command.category store) commands.leaves := by
  refine List.single_le_sum ?_ _ ?_
  · intro volume inCategory
    obtain ⟨other, otherInCategory, rfl⟩ := List.mem_map.mp inCategory
    exact nonnegative.dispensed (List.mem_of_mem_filter otherInCategory)
  · exact List.mem_map_of_mem (List.mem_filter.mpr ⟨member, by simp⟩)

end Detection

section Shares

variable {pools : Pools Rat}

/-- The share that is moved after the shortcut near zero. -/
def effectiveShare (p : Rat) : Rat :=
  if |p| < epsilon then 0 else p

theorem effectiveShare_monotone : Monotone effectiveShare := by
  intro smaller larger ordered
  unfold effectiveShare
  split
  case isTrue smallerNearZero =>
    split
    case isTrue largerNearZero => exact le_rfl
    case isFalse largerFar =>
      -- The larger share is far from zero and not far below it.
      obtain ⟨above, -⟩ := abs_lt.mp smallerNearZero
      rcases le_abs.mp (not_lt.mp largerFar) with positive | negative
      · have : (0 : Rat) < epsilon := by norm_num [epsilon]
        linarith
      · linarith
  case isFalse smallerFar =>
    split
    case isTrue largerNearZero =>
      obtain ⟨-, below⟩ := abs_lt.mp largerNearZero
      rcases le_abs.mp (not_lt.mp smallerFar) with positive | negative
      · linarith
      · have : (0 : Rat) < epsilon := by norm_num [epsilon]
        linarith
    case isFalse largerFar => exact ordered

theorem effectiveScales_of_positive (p : Rat) (firstPositive : 0 < pools.first)
    (secondPositive : 0 < pools.second) :
    effectiveScales p pools =
      ⟨(shareFactors (effectiveShare p) pools).first,
        (shareFactors (effectiveShare p) pools).second⟩ := by
  have receives : ¬ receiving p pools ≤ 0 := by
    unfold receiving
    split
    case isTrue => exact not_le.mpr firstPositive
    case isFalse => exact not_le.mpr secondPositive
  unfold effectiveScales effectiveShare
  by_cases nearZero : |p| < epsilon
  · simp only [nearZero, true_or, if_true, shareFactors_zero]
  · simp only [nearZero, receives, or_self, if_false]

/-- Without boostable volume nothing is taken from the reducible one, and
nothing is added to it. -/
theorem effectiveScales_reducible_of_empty (p : Rat)
    (empty : pools.first = 0) : (effectiveScales p pools).reducible = 1 := by
  unfold effectiveScales
  split
  case isTrue => rfl
  case isFalse moving =>
    have receives := fun none => moving (Or.inr none)
    unfold receiving at receives
    unfold shareFactors
    split
    case isTrue positive =>
      rw [if_pos positive] at receives
      exact absurd empty.le receives
    case isFalse negative => simp [empty]

theorem effectiveScales_boostable_of_empty (p : Rat)
    (empty : pools.second = 0) : (effectiveScales p pools).boostable = 1 := by
  unfold effectiveScales
  split
  case isTrue => rfl
  case isFalse moving =>
    have receives := fun none => moving (Or.inr none)
    unfold receiving at receives
    unfold shareFactors
    split
    case isTrue positive => simp [empty]
    case isFalse negative =>
      rw [if_neg negative] at receives
      exact absurd empty.le receives

end Shares

section MainResults

variable (store : IngredientStore)

/-- A command of the category has another volume afterwards. -/
def ChangesVolume (category : BoostCategory) (before after : Commands) :
    Prop :=
  ∃ (position : Nat) (command changed : Command),
    before.leaves[position]? = some command ∧
      after.leaves[position]? = some changed ∧
      command.category store = some category ∧
      changed.dispensed ≠ command.dispensed

theorem boost_unchanged {commands : Commands}
    (notBoostable : isRecipeBoostable commands store = false) (p : Rat) :
    scaleCommands commands (effectiveScales p (boostPools store commands))
      store = commands := by
  rw [isRecipeBoostable_eq, Bool.and_eq_false_iff] at notBoostable
  refine Commands.mapEach_eq_self fun command member => ?_
  rw [scaleCommand_eq]
  refine (congrArg (command.scaleVolume ·) ?_).trans command.scaleVolume_one
  have present (category : BoostCategory)
      (inCategory : command.category store = some category) :
      hasCategory store category commands.leaves = true :=
    List.any_eq_true.mpr ⟨command, member, by simpa using inCategory⟩
  rcases inCategory : command.category store with _ | (_ | _ | _)
  · rfl
  · rfl
  · have noReducible : hasCategory store .reducible commands.leaves = false :=
      notBoostable.resolve_left (by simp [present _ inCategory])
    exact effectiveScales_boostable_of_empty p
      (volumeIn_of_hasCategory_eq_false store noReducible)
  · have noBoostable : hasCategory store .boostable commands.leaves = false :=
      notBoostable.resolve_right (by simp [present _ inCategory])
    exact effectiveScales_reducible_of_empty p
      (volumeIn_of_hasCategory_eq_false store noBoostable)

theorem leaves_scaleCommands_getElem? (scales : ScaleFactors)
    {commands : Commands} {position : Nat} {command : Command}
    (found : commands.leaves[position]? = some command) :
    (scaleCommands commands scales store).leaves[position]? =
      some (scaleCommand command scales store) := by
  rw [scaleCommands, Commands.leaves_mapEach, List.getElem?_map, found]
  rfl

/-- A factor other than one shows on a command with a positive volume. -/
theorem changesVolume_of_factor {category : BoostCategory}
    {scales : ScaleFactors} (factor : scales.factorOf category ≠ 1)
    {commands : Commands}
    (positive : ∀ command, Command.dispense command ∈ commands.leaves →
      0 < command.volume)
    (present : hasCategory store category commands.leaves = true) :
    ChangesVolume store category commands
      (scaleCommands commands scales store) := by
  obtain ⟨command, member, inCategory⟩ := List.any_eq_true.mp present
  replace inCategory : command.category store = some category := by
    simpa using inCategory
  obtain ⟨position, found⟩ := List.mem_iff_getElem?.mp member
  refine ⟨position, command, scaleCommand command scales store, found,
    leaves_scaleCommands_getElem? store scales found, inCategory, ?_⟩
  cases command with
  | monostate => cases inCategory
  | manual command => cases inCategory
  | dispense command =>
      rw [scaleCommand_eq, Command.dispensed_scaleVolume, inCategory]
      intro same
      exact factor ((mul_eq_left₀ (positive command member).ne').mp same)

theorem volumeIn_pos {category : BoostCategory} {commands : Commands}
    (positive : ∀ command, Command.dispense command ∈ commands.leaves →
      0 < command.volume)
    (present : hasCategory store category commands.leaves = true) :
    0 < volumeIn store (some category) commands.leaves := by
  obtain ⟨command, member, inCategory⟩ := List.any_eq_true.mp present
  replace inCategory : command.category store = some category := by
    simpa using inCategory
  have nonnegative : NonnegativeVolumes commands :=
    fun dispense dispensed => (positive dispense dispensed).le
  cases command with
  | monostate => cases inCategory
  | manual command => cases inCategory
  | dispense command =>
      rw [← inCategory]
      exact (positive command member).trans_le
        (dispensed_le_volumeIn store nonnegative member)

/-- `is_recipe_boostable` predicts whether boosting does anything. -/
theorem isRecipeBoostable_predicts_boostRecipe (commands : Commands)
    (boostPct : Percent) (inRange : |boostPct| ≤ 100) :
    (isRecipeBoostable commands store = false →
      boostRecipe commands boostPct store = .ok commands) ∧
    (isRecipeBoostable commands store = true →
      (∀ command, Command.dispense command ∈ commands.leaves →
        0 < command.volume) →
      epsilon ≤ |boostPct / 100| →
      ∃ boosted, boostRecipe commands boostPct store = .ok boosted ∧
        ChangesVolume store .boostable commands boosted ∧
        ChangesVolume store .reducible commands boosted) := by
  refine ⟨fun notBoostable => ?_, fun boostable positive far => ?_⟩
  · rw [boostRecipe_eq commands inRange, boost_unchanged store notBoostable]
  · rw [isRecipeBoostable_eq, Bool.and_eq_true] at boostable
    obtain ⟨hasBoostable, hasReducible⟩ := boostable
    have firstPositive : 0 < (boostPools store commands).first :=
      volumeIn_pos store positive hasBoostable
    have secondPositive : 0 < (boostPools store commands).second :=
      volumeIn_pos store positive hasReducible
    have moves : boostPct / 100 ≠ 0 := by
      intro zero
      rw [zero, abs_zero] at far
      exact absurd far (by norm_num [epsilon])
    have factors := shareFactors_ne_one moves firstPositive secondPositive
    have scales := effectiveScales_of_positive (boostPct / 100) firstPositive
      secondPositive
    rw [effectiveShare, if_neg (not_lt.mpr far)] at scales
    refine ⟨_, boostRecipe_eq commands inRange store, ?_, ?_⟩
    · refine changesVolume_of_factor store ?_ positive hasBoostable
      rw [scales]
      exact factors.1
    · refine changesVolume_of_factor store ?_ positive hasReducible
      rw [scales]
      exact factors.2

theorem rumPunch_volume_pos (command : DispenseCommand)
    (member : Command.dispense command ∈ Commands.leaves rumPunch) :
    0 < command.volume := by
  simp [rumPunch, Commands.leaves, RecipeItem.leaves] at member
  rcases member with rfl | rfl | rfl <;> decide +kernel

theorem isRecipeBoostable_predicts_boostRecipe_rumPunch :
    ∃ boosted, boostRecipe rumPunch 1 rumAndLime = .ok boosted ∧
      ChangesVolume rumAndLime .boostable rumPunch boosted ∧
      ChangesVolume rumAndLime .reducible rumPunch boosted :=
  (isRecipeBoostable_predicts_boostRecipe rumAndLime rumPunch 1
    (by decide +kernel)).2 (by decide) rumPunch_volume_pos
    (by decide +kernel)

section Monotonicity

variable {commands : Commands} (nonnegative : NonnegativeVolumes commands)
  {smaller larger : Rat} (ordered : smaller ≤ larger) {command : Command}
  (member : command ∈ commands.leaves)

include nonnegative member

theorem dispensed_eq_zero {category : BoostCategory}
    (inCategory : command.category store = some category)
    (empty : volumeIn store (some category) commands.leaves = 0) :
    command.dispensed = 0 := by
  refine le_antisymm ?_ (nonnegative.dispensed member)
  calc
    command.dispensed ≤ volumeIn store (some category) commands.leaves :=
      inCategory ▸ dispensed_le_volumeIn store nonnegative member
    _ = 0 := empty

include ordered

theorem dispensed_boostable_le
    (boostable : command.category store = some .boostable) :
    command.dispensed *
        (effectiveScales smaller (boostPools store commands)).boostable ≤
      command.dispensed *
        (effectiveScales larger (boostPools store commands)).boostable := by
  have firstNonneg := volumeIn_nonneg store nonnegative (some .boostable)
  have secondNonneg := volumeIn_nonneg store nonnegative (some .reducible)
  rcases firstNonneg.eq_or_lt with firstEmpty | firstPositive
  · rw [dispensed_eq_zero store nonnegative member boostable firstEmpty.symm,
      zero_mul, zero_mul]
  rcases secondNonneg.eq_or_lt with secondEmpty | secondPositive
  · rw [effectiveScales_boostable_of_empty _ secondEmpty.symm,
      effectiveScales_boostable_of_empty _ secondEmpty.symm]
  · rw [effectiveScales_of_positive _ firstPositive secondPositive,
      effectiveScales_of_positive _ firstPositive secondPositive]
    exact mul_le_mul_of_nonneg_left
      (shareFactors_first_monotone firstNonneg secondNonneg
        (effectiveShare_monotone ordered))
      (nonnegative.dispensed member)

theorem dispensed_reducible_le
    (reducible : command.category store = some .reducible) :
    command.dispensed *
        (effectiveScales larger (boostPools store commands)).reducible ≤
      command.dispensed *
        (effectiveScales smaller (boostPools store commands)).reducible := by
  have firstNonneg := volumeIn_nonneg store nonnegative (some .boostable)
  have secondNonneg := volumeIn_nonneg store nonnegative (some .reducible)
  rcases secondNonneg.eq_or_lt with secondEmpty | secondPositive
  · rw [dispensed_eq_zero store nonnegative member reducible secondEmpty.symm,
      zero_mul, zero_mul]
  rcases firstNonneg.eq_or_lt with firstEmpty | firstPositive
  · rw [effectiveScales_reducible_of_empty _ firstEmpty.symm,
      effectiveScales_reducible_of_empty _ firstEmpty.symm]
  · rw [effectiveScales_of_positive _ firstPositive secondPositive,
      effectiveScales_of_positive _ firstPositive secondPositive]
    exact mul_le_mul_of_nonneg_left
      (shareFactors_second_antitone firstNonneg secondNonneg
        (effectiveShare_monotone ordered))
      (nonnegative.dispensed member)

end Monotonicity

/-- A stronger boost never makes a weaker drink. -/
theorem boostRecipe_monotone (commands : Commands)
    (nonnegative : NonnegativeVolumes commands) (weaker stronger : Percent)
    (ordered : weaker ≤ stronger) (weakerInRange : |weaker| ≤ 100)
    (strongerInRange : |stronger| ≤ 100) :
    ∃ weak strong, boostRecipe commands weaker store = .ok weak ∧
      boostRecipe commands stronger store = .ok strong ∧
      ∀ (position : Nat) (command : Command),
        commands.leaves[position]? = some command →
        ∃ inWeak inStrong : Command, weak.leaves[position]? = some inWeak ∧
          strong.leaves[position]? = some inStrong ∧
          (command.category store = some .boostable →
            inWeak.dispensed ≤ inStrong.dispensed) ∧
          (command.category store = some .reducible →
            inStrong.dispensed ≤ inWeak.dispensed) := by
  let pools := boostPools store commands
  have orderedShares : weaker / 100 ≤ stronger / 100 :=
    div_le_div_of_nonneg_right ordered (by norm_num)
  refine ⟨_, _, boostRecipe_eq commands weakerInRange store,
    boostRecipe_eq commands strongerInRange store, ?_⟩
  intro position command found
  have member : command ∈ commands.leaves := List.mem_of_getElem? found
  refine ⟨_, _, leaves_scaleCommands_getElem? store _ found,
    leaves_scaleCommands_getElem? store _ found, ?_, ?_⟩
  · intro boostable
    simp only [scaleCommand_eq, Command.dispensed_scaleVolume, boostable]
    exact dispensed_boostable_le store nonnegative orderedShares member
      boostable
  · intro reducible
    simp only [scaleCommand_eq, Command.dispensed_scaleVolume, reducible]
    exact dispensed_reducible_le store nonnegative orderedShares member
      reducible

theorem boostRecipe_monotone_rumPunch :
    ∃ weak strong, boostRecipe rumPunch (-50) rumAndLime = .ok weak ∧
      boostRecipe rumPunch 50 rumAndLime = .ok strong ∧
      ∀ (position : Nat) (command : Command),
        (Commands.leaves rumPunch)[position]? = some command →
        ∃ inWeak inStrong : Command, weak.leaves[position]? = some inWeak ∧
          strong.leaves[position]? = some inStrong ∧
          (command.category rumAndLime = some .boostable →
            inWeak.dispensed ≤ inStrong.dispensed) ∧
          (command.category rumAndLime = some .reducible →
            inStrong.dispensed ≤ inWeak.dispensed) :=
  boostRecipe_monotone rumAndLime rumPunch
    (fun command member => (rumPunch_volume_pos command member).le)
    (-50) 50 (by decide +kernel) (by decide +kernel) (by decide +kernel)

end MainResults

end CocktailMaker
