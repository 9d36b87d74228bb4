import CocktailMaker.Quantities
import Mathlib.Algebra.BigOperators.Group.List.Basic
import Mathlib.Algebra.BigOperators.Ring.List
import Mathlib.Algebra.Order.BigOperators.Group.List

/-!
# Recipes and ingredients

The commands of a recipe form a tree of depth two: an item is a command or a
group of commands that run in parallel.  This file gives the tree its map over
all commands, the list of its commands, and the relation between two trees
that have the same shape.  The store holds each ingredient under its id.
-/

namespace CocktailMaker

abbrev CommandId := Int

abbrev IngredientId := String

structure ManualCommand where
  id : CommandId
  instruction : String
  deriving DecidableEq

/-- A volume is a number of litres, exact unless another type is given. -/
structure DispenseCommand (Volume : Type := Rat) where
  id : CommandId
  ingredient : IngredientId
  volume : Volume
  deriving DecidableEq

/-- The variant `Command`. -/
inductive Command (Volume : Type := Rat)
  | monostate
  | manual (command : ManualCommand)
  | dispense (command : DispenseCommand Volume)
  deriving DecidableEq

/-- The id under which `process_command` reports; a `monostate` does not. -/
def Command.id? : Command → Option CommandId
  | .monostate => none
  | .manual command => some command.id
  | .dispense command => some command.id

/-- An item of a recipe: a `Command` or a `ParallelCommand`. -/
inductive RecipeItem (Volume : Type := Rat)
  | single (command : Command Volume)
  | parallel (commands : List (Command Volume))
  deriving DecidableEq

abbrev Commands (Volume : Type := Rat) :=
  List (RecipeItem Volume)

section Trees

variable {Volume : Type}

/-- Transform every command, whether it stands alone or in a group. -/
def RecipeItem.mapEach (change : Command Volume → Command Volume) :
    RecipeItem Volume → RecipeItem Volume
  | .single command => .single (change command)
  | .parallel commands => .parallel (commands.map change)

def Commands.mapEach (change : Command Volume → Command Volume)
    (commands : Commands Volume) : Commands Volume :=
  commands.map (RecipeItem.mapEach change)

def RecipeItem.leaves : RecipeItem Volume → List (Command Volume)
  | .single command => [command]
  | .parallel commands => commands

/-- All commands in the order of the recipe. -/
def Commands.leaves (commands : Commands Volume) : List (Command Volume) :=
  commands.flatMap RecipeItem.leaves

@[simp]
theorem RecipeItem.leaves_mapEach (change : Command Volume → Command Volume)
    (item : RecipeItem Volume) :
    (item.mapEach change).leaves = item.leaves.map change := by
  cases item <;> rfl

@[simp]
theorem Commands.leaves_mapEach (change : Command Volume → Command Volume)
    (commands : Commands Volume) :
    (commands.mapEach change).leaves = commands.leaves.map change := by
  simp [Commands.leaves, Commands.mapEach, List.flatMap_map, List.map_flatMap]

theorem RecipeItem.mapEach_mapEach (first second : Command → Command)
    (item : RecipeItem) :
    (item.mapEach first).mapEach second = item.mapEach (second ∘ first) := by
  cases item <;> simp [RecipeItem.mapEach]

theorem Commands.mapEach_mapEach (first second : Command → Command)
    (commands : Commands) :
    (commands.mapEach first).mapEach second =
      commands.mapEach (second ∘ first) := by
  simp [Commands.mapEach, RecipeItem.mapEach_mapEach]

theorem Commands.mapEach_congr {first second : Command → Command}
    {commands : Commands}
    (agree : ∀ command ∈ commands.leaves, first command = second command) :
    commands.mapEach first = commands.mapEach second := by
  refine List.map_congr_left fun item member => ?_
  have onItem : ∀ command ∈ item.leaves, first command = second command :=
    fun command inItem =>
      agree command (List.mem_flatMap.mpr ⟨item, member, inItem⟩)
  cases item with
  | single command =>
      exact congrArg RecipeItem.single (onItem command (List.mem_singleton_self _))
  | parallel commands =>
      exact congrArg RecipeItem.parallel (List.map_congr_left onItem)

theorem Commands.mapEach_eq_self {change : Command → Command}
    {commands : Commands}
    (fixed : ∀ command ∈ commands.leaves, change command = command) :
    commands.mapEach change = commands := by
  calc
    commands.mapEach change = commands.mapEach id :=
      Commands.mapEach_congr fixed
    _ = commands := by
      have identity : RecipeItem.mapEach (id : Command → Command) = id := by
        funext item
        cases item <;> simp [RecipeItem.mapEach]
      simp [Commands.mapEach, identity]

/-- Two items of one kind whose commands are related in order. -/
inductive RecipeItem.Related (Relation : Command → Command → Prop) :
    RecipeItem → RecipeItem → Prop
  | single {before after : Command} (related : Relation before after) :
      RecipeItem.Related Relation (.single before) (.single after)
  | parallel {before after : List Command}
      (related : List.Forall₂ Relation before after) :
      RecipeItem.Related Relation (.parallel before) (.parallel after)

/-- Two trees of the same shape whose commands are related one by one. -/
def Commands.Related (Relation : Command → Command → Prop) :
    Commands → Commands → Prop :=
  List.Forall₂ (RecipeItem.Related Relation)

theorem Commands.related_mapEach {Relation : Command → Command → Prop}
    {change : Command → Command}
    (related : ∀ command, Relation command (change command))
    (commands : Commands) :
    Commands.Related Relation commands (commands.mapEach change) := by
  refine List.forall₂_map_right_iff.mpr (List.forall₂_same.mpr ?_)
  rintro (command | group) -
  · exact .single (related command)
  · exact .parallel (List.forall₂_map_right_iff.mpr
      (List.forall₂_same.mpr fun command _ => related command))

theorem Commands.Related.leaves {Relation : Command → Command → Prop}
    {before after : Commands} (related : Commands.Related Relation before after) :
    List.Forall₂ Relation before.leaves after.leaves := by
  refine List.rel_flatMap related fun first second item => ?_
  cases item with
  | single related => exact .cons related .nil
  | parallel related => exact related

theorem forall₂_trans {Node : Type*} {Relation : Node → Node → Prop}
    (trans : ∀ first second third, Relation first second →
      Relation second third → Relation first third)
    {first second third : List Node} (before : List.Forall₂ Relation first second)
    (after : List.Forall₂ Relation second third) :
    List.Forall₂ Relation first third := by
  induction before generalizing third with
  | nil => exact after
  | cons related rest ih =>
      cases after with
      | cons relatedAfter restAfter =>
          exact .cons (trans _ _ _ related relatedAfter) (ih restAfter)

theorem Commands.Related.trans {Relation : Command → Command → Prop}
    {first second third : Commands}
    (before : Commands.Related Relation first second)
    (after : Commands.Related Relation second third)
    (trans : ∀ first second third, Relation first second →
      Relation second third → Relation first third) :
    Commands.Related Relation first third := by
  refine forall₂_trans (fun _ _ _ before after => ?_) before after
  cases before with
  | single related =>
      cases after with
      | single relatedAfter => exact .single (trans _ _ _ related relatedAfter)
  | parallel related =>
      cases after with
      | parallel relatedAfter =>
          exact .parallel (forall₂_trans trans related relatedAfter)

end Trees

section Volumes

/-- The volume that a command dispenses. -/
def Command.dispensed : Command → Litre
  | .dispense command => command.volume
  | _ => 0

/-- The total dispensed volume. -/
def totalVolume (commands : Commands) : Litre :=
  (commands.leaves.map Command.dispensed).sum

/-- No command dispenses a negative volume. -/
def NonnegativeVolumes (commands : Commands) : Prop :=
  ∀ command, Command.dispense command ∈ commands.leaves → 0 ≤ command.volume

theorem NonnegativeVolumes.dispensed {commands : Commands}
    (nonnegative : NonnegativeVolumes commands) {command : Command}
    (member : command ∈ commands.leaves) : 0 ≤ command.dispensed := by
  cases command with
  | dispense command => exact nonnegative command member
  | monostate => exact le_rfl
  | manual command => exact le_rfl

/-- The command with its volume multiplied; other commands stay. -/
def Command.scaleVolume (factor : Rat) : Command → Command
  | .dispense command =>
      .dispense { command with volume := command.volume * factor }
  | command => command

@[simp]
theorem Command.dispensed_scaleVolume (factor : Rat) (command : Command) :
    (command.scaleVolume factor).dispensed = command.dispensed * factor := by
  cases command <;> simp [Command.scaleVolume, Command.dispensed]

@[simp]
theorem Command.scaleVolume_one (command : Command) :
    command.scaleVolume 1 = command := by
  cases command <;> simp [Command.scaleVolume]

theorem NonnegativeVolumes.scaleVolumes {commands : Commands}
    (nonnegative : NonnegativeVolumes commands) {factor : Command → Rat}
    (factorNonneg : ∀ command, 0 ≤ factor command) :
    NonnegativeVolumes
      (commands.mapEach fun command => command.scaleVolume (factor command)) := by
  intro dispense member
  rw [Commands.leaves_mapEach] at member
  obtain ⟨command, inRecipe, scaled⟩ := List.mem_map.mp member
  cases command with
  | dispense command =>
      injection scaled with scaled
      rw [← scaled]
      exact mul_nonneg (nonnegative command inRecipe) (factorNonneg _)
  | monostate => injection scaled
  | manual command => injection scaled

theorem Command.scaleVolume_comm (first second : Rat) (command : Command) :
    (command.scaleVolume first).scaleVolume second =
      (command.scaleVolume second).scaleVolume first := by
  cases command <;> simp [Command.scaleVolume, mul_right_comm]

end Volumes

section Ingredients

inductive BoostCategory
  | fixed
  | boostable
  | reducible
  deriving DecidableEq

inductive IngredientType
  | alcohol
  | juice
  | syrup
  | soda
  | water
  | dairy
  | bitters
  | puree
  | other
  deriving DecidableEq

structure Ingredient where
  id : IngredientId
  displayName : String
  type : IngredientType
  boostCategory : BoostCategory
  deriving DecidableEq

/-- The map from ids to ingredients, in the order of insertion. -/
structure IngredientStore where
  ingredients : List Ingredient
  distinct : (ingredients.map Ingredient.id).Nodup

/-- `init_ingredients` replaces what the store held before. -/
def initIngredients (ingredients : List Ingredient) :
    Except Failure IngredientStore :=
  if distinct : (ingredients.map Ingredient.id).Nodup then
    .ok ⟨ingredients, distinct⟩
  else
    .error (.assertion "emplaced")

def IngredientStore.findById (store : IngredientStore) (id : IngredientId) :
    Option Ingredient :=
  store.ingredients.find? fun ingredient => ingredient.id = id

/-- A store and a recipe with a command of every kind. -/
def rumAndLime : IngredientStore where
  ingredients :=
    [⟨"rum", "White rum", .alcohol, .boostable⟩,
      ⟨"lime", "Lime juice", .juice, .reducible⟩,
      ⟨"mint", "Mint syrup", .syrup, .fixed⟩]
  distinct := by decide

def rumPunch : Commands :=
  [.single (.dispense ⟨1, "rum", 2 / 50⟩),
    .parallel [.dispense ⟨2, "lime", 3 / 50⟩, .dispense ⟨3, "mint", 1 / 50⟩],
    .single (.manual ⟨4, "Add ice"⟩), .single .monostate]

end Ingredients

end CocktailMaker
