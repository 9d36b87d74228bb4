import CocktailMaker.BoostRecipe
import CocktailMaker.ParseRecipe
import CocktailMaker.ScaleRecipe
import Mathlib.Data.List.Nodup

/-!
# The ids of the commands

`init_recipes` visits the commands of a recipe in the order of the document and
gives them the ids from one on.  Scaling and boosting rebuild every command and
keep its kind and its id.
-/

namespace CocktailMaker

section Assignment

/-- A node with an id takes the next one; a `monostate` has none. -/
def Command.assignId (nextId : CommandId) : Command → Command × CommandId
  | .monostate => (.monostate, nextId)
  | .manual command => (.manual { command with id := nextId }, nextId + 1)
  | .dispense command =>
      (.dispense { command with id := nextId }, nextId + 1)

/-- Visit the children of a range in order. -/
def visitEach {Node : Type*} (visit : CommandId → Node → Node × CommandId)
    (nextId : CommandId) : List Node → List Node × CommandId
  | [] => ([], nextId)
  | child :: children =>
      let visited := visit nextId child
      let rest := visitEach visit visited.2 children
      (visited.1 :: rest.1, rest.2)

def RecipeItem.assignIds (nextId : CommandId) :
    RecipeItem → RecipeItem × CommandId
  | .single command =>
      let visited := command.assignId nextId
      (.single visited.1, visited.2)
  | .parallel commands =>
      let visited := visitEach Command.assignId nextId commands
      (.parallel visited.1, visited.2)

def assignUniqueCommandIds (recipe : Recipe) : Recipe :=
  { recipe with
    commands := (visitEach RecipeItem.assignIds 1 recipe.commands).1 }

structure RecipeStore where
  recipes : List Recipe := []

def RecipeStore.initRecipes (store : RecipeStore) (recipes : List Recipe) :
    RecipeStore :=
  recipes.foldl
    (fun store recipe => ⟨store.recipes ++ [assignUniqueCommandIds recipe]⟩)
    store

theorem RecipeStore.recipes_initRecipes (store : RecipeStore)
    (recipes : List Recipe) :
    (store.initRecipes recipes).recipes =
      store.recipes ++ recipes.map assignUniqueCommandIds := by
  unfold initRecipes
  induction recipes generalizing store with
  | nil => simp
  | cons recipe recipes ih =>
      rw [List.foldl_cons, ih]
      simp

end Assignment

section Numbering

/-- The ids of the commands that have one, in order. -/
def commandIds (commands : List Command) : List CommandId :=
  commands.filterMap Command.id?

/-- The ids `start`, `start + 1`, ... -/
def consecutive (start : CommandId) (count : Nat) : List CommandId :=
  (List.range count).map fun (offset : Nat) => start + offset

theorem consecutive_add (start : CommandId) (first second : Nat) :
    consecutive start (first + second) =
      consecutive start first ++ consecutive (start + first) second := by
  simp [consecutive, List.range_add, Function.comp_def, add_assoc]

theorem consecutive_nodup (start : CommandId) (count : Nat) :
    (consecutive start count).Nodup :=
  List.Nodup.map (fun first second same => by simpa using same)
    List.nodup_range

/-- A visit that numbers the commands of a node from `nextId` on. -/
structure Numbered {Node : Type*} (leaves : Node → List Command)
    (nextId : CommandId) (node : Node) (visited : Node × CommandId) :
    Prop where
  ids : commandIds (leaves visited.1) =
    consecutive nextId (commandIds (leaves node)).length
  next : visited.2 = nextId + (commandIds (leaves node)).length

theorem numbered_assignId (nextId : CommandId) (command : Command) :
    Numbered (fun command => [command]) nextId command
      (command.assignId nextId) := by
  cases command with
  | monostate => exact ⟨rfl, (add_zero nextId).symm⟩
  | manual command =>
      exact ⟨congrArg (fun id => [id]) (add_zero nextId).symm, rfl⟩
  | dispense command =>
      exact ⟨congrArg (fun id => [id]) (add_zero nextId).symm, rfl⟩

theorem numbered_visitEach {Node : Type*} {leaves : Node → List Command}
    {visit : CommandId → Node → Node × CommandId}
    (each : ∀ nextId node, Numbered leaves nextId node (visit nextId node))
    (nextId : CommandId) (nodes : List Node) :
    Numbered (List.flatMap leaves) nextId nodes
      (visitEach visit nextId nodes) := by
  induction nodes generalizing nextId with
  | nil => exact ⟨rfl, (add_zero nextId).symm⟩
  | cons node nodes ih =>
      obtain ⟨nodeIds, nodeNext⟩ := each nextId node
      obtain ⟨restIds, restNext⟩ := ih (visit nextId node).2
      have split (node : Node) (nodes : List Node) :
          commandIds ((node :: nodes).flatMap leaves) =
            commandIds (leaves node) ++ commandIds (nodes.flatMap leaves) := by
        rw [List.flatMap_cons, commandIds, List.filterMap_append]
        rfl
      constructor
      · rw [split, List.length_append, consecutive_add]
        simp only [visitEach]
        rw [split, nodeIds, restIds, nodeNext]
      · rw [split, List.length_append, Nat.cast_add, ← add_assoc, ← nodeNext]
        exact restNext

theorem numbered_assignIds (nextId : CommandId) (item : RecipeItem) :
    Numbered RecipeItem.leaves nextId item (item.assignIds nextId) := by
  cases item with
  | single command =>
      obtain ⟨ids, next⟩ := numbered_assignId nextId command
      exact ⟨ids, next⟩
  | parallel commands =>
      obtain ⟨ids, next⟩ :=
        numbered_visitEach numbered_assignId nextId commands
      simp only [List.flatMap_singleton'] at ids next
      exact ⟨ids, next⟩

theorem commandIds_assignUniqueCommandIds (recipe : Recipe) :
    commandIds (assignUniqueCommandIds recipe).commands.leaves =
      consecutive 1 (commandIds recipe.commands.leaves).length :=
  (numbered_visitEach numbered_assignIds 1 recipe.commands).ids

end Numbering

section Steps

/-- Two commands that differ in nothing but their ids. -/
inductive Renumbered : Command → Command → Prop
  | monostate : Renumbered .monostate .monostate
  | manual (before after : CommandId) (instruction : String) :
      Renumbered (.manual ⟨before, instruction⟩)
        (.manual ⟨after, instruction⟩)
  | dispense (before after : CommandId) (ingredient : IngredientId)
      (volume : Litre) :
      Renumbered (.dispense ⟨before, ingredient, volume⟩)
        (.dispense ⟨after, ingredient, volume⟩)

theorem renumbered_assignId (nextId : CommandId) (command : Command) :
    Renumbered command (command.assignId nextId).1 := by
  cases command with
  | monostate => exact .monostate
  | manual command => exact .manual command.id nextId command.instruction
  | dispense command =>
      exact .dispense command.id nextId command.ingredient command.volume

theorem forall₂_visitEach {Node : Type*} {Relation : Node → Node → Prop}
    {visit : CommandId → Node → Node × CommandId}
    (each : ∀ nextId node, Relation node (visit nextId node).1)
    (nextId : CommandId) (nodes : List Node) :
    List.Forall₂ Relation nodes (visitEach visit nextId nodes).1 := by
  induction nodes generalizing nextId with
  | nil => exact .nil
  | cons node nodes ih => exact .cons (each nextId node) (ih _)

theorem renumbered_assignUniqueCommandIds (recipe : Recipe) :
    Commands.Related Renumbered recipe.commands
      (assignUniqueCommandIds recipe).commands := by
  refine forall₂_visitEach (fun nextId item => ?_) 1 recipe.commands
  cases item with
  | single command => exact .single (renumbered_assignId nextId command)
  | parallel commands =>
      exact .parallel (forall₂_visitEach renumbered_assignId nextId commands)

/-- Two commands of the same kind with the same id, of which only the volume
may differ. -/
inductive SameStep : Command → Command → Prop
  | monostate : SameStep .monostate .monostate
  | manual (command : ManualCommand) :
      SameStep (.manual command) (.manual command)
  | dispense (id : CommandId) (ingredient : IngredientId)
      (before after : Litre) :
      SameStep (.dispense ⟨id, ingredient, before⟩)
        (.dispense ⟨id, ingredient, after⟩)

theorem sameStep_scaleVolume (factor : Rat) (command : Command) :
    SameStep command (command.scaleVolume factor) := by
  cases command with
  | monostate => exact .monostate
  | manual command => exact .manual command
  | dispense command =>
      exact .dispense command.id command.ingredient command.volume _

theorem SameStep.id?_eq {before after : Command}
    (same : SameStep before after) : before.id? = after.id? := by
  cases same <;> rfl

theorem SameStep.trans {first second third : Command}
    (before : SameStep first second) (after : SameStep second third) :
    SameStep first third := by
  cases before with
  | monostate => exact after
  | manual command => exact after
  | dispense id ingredient =>
      cases after
      exact .dispense id ingredient _ _

theorem SameStep.commandIds_eq {before after : List Command}
    (same : List.Forall₂ SameStep before after) :
    commandIds before = commandIds after := by
  induction same with
  | nil => rfl
  | cons same rest ih =>
      simp only [commandIds, List.filterMap_cons, same.id?_eq] at ih ⊢
      rw [ih]

theorem Commands.sameSteps_refl (commands : Commands) :
    Commands.Related SameStep commands commands := by
  have related := Commands.related_mapEach (sameStep_scaleVolume 1) commands
  rwa [Commands.mapEach_eq_self fun command _ => command.scaleVolume_one]
    at related

theorem sameSteps_scaleCommandsUniformly (commands : Commands)
    (factor : Rat) :
    Commands.Related SameStep commands
      (scaleCommandsUniformly commands factor) := by
  refine Commands.related_mapEach (fun command => ?_) commands
  rw [scaleCommandVolume_eq]
  exact sameStep_scaleVolume factor command

theorem sameSteps_scaleCommands (commands : Commands) (scales : ScaleFactors)
    (store : IngredientStore) :
    Commands.Related SameStep commands
      (scaleCommands commands scales store) := by
  refine Commands.related_mapEach (fun command => ?_) commands
  rw [scaleCommand_eq]
  exact sameStep_scaleVolume _ command

theorem sameSteps_of_scaleRecipe {commands scaled : Commands}
    {nominalServingVolume targetVolume : Litre}
    (returned :
      scaleRecipe commands nominalServingVolume targetVolume = .ok scaled) :
    Commands.Related SameStep commands scaled := by
  simp only [scaleRecipe] at returned
  obtain ⟨-, -, returned⟩ := except_bind_eq_ok.mp returned
  obtain ⟨-, -, returned⟩ := except_bind_eq_ok.mp returned
  obtain ⟨factor, -, returned⟩ := except_bind_eq_ok.mp returned
  split at returned
  case isTrue near =>
    exact Except.ok.inj returned ▸ Commands.sameSteps_refl commands
  case isFalse far =>
    exact Except.ok.inj returned ▸
      sameSteps_scaleCommandsUniformly commands factor

theorem sameSteps_of_boostRecipe {commands boosted : Commands}
    {boostPct : Percent} {store : IngredientStore}
    (returned : boostRecipe commands boostPct store = .ok boosted) :
    Commands.Related SameStep commands boosted := by
  simp only [boostRecipe] at returned
  obtain ⟨-, -, returned⟩ := except_bind_eq_ok.mp returned
  split at returned
  case isTrue nearZero =>
    exact Except.ok.inj returned ▸ Commands.sameSteps_refl commands
  case isFalse far =>
    obtain ⟨scales, -, returned⟩ := except_bind_eq_ok.mp returned
    exact Except.ok.inj returned ▸
      sameSteps_scaleCommands commands scales store

end Steps

end CocktailMaker
