import CocktailMaker.JsonDocument
import CocktailMaker.Recipe

/-!
# Loading a recipe

`parse_recipe` reads a recipe from a JSON document and checks its ingredients
against the store.  Its numbers are doubles, and how they become volumes is
left open.
-/

namespace CocktailMaker

abbrev RecipeId := String

/-- A path, split the way `std::filesystem::path` does. -/
structure RecipePath where
  parent : String
  stem : String
  extension : String
  deriving DecidableEq

def RecipePath.replaceExtension (path : RecipePath) (extension : String) :
    RecipePath :=
  { path with extension := extension }

structure Recipe (Volume : Type := Rat) where
  id : RecipeId
  displayName : String
  description : String
  tags : List String
  imagePath : RecipePath
  nominalServingVolume : Volume
  commands : Commands Volume
  deriving DecidableEq

/-- The exceptions of `parse_recipe`. -/
inductive ParseError
  | simdjson (reason : JsonError)
  | runtime (message : String)
  deriving DecidableEq

section Parsing

/-- `value()`, which throws the error of a result. -/
def value {Value : Type} (result : Except JsonError Value) :
    Except ParseError Value :=
  result.mapError ParseError.simdjson

/-- The commands so far and the id of the next one. -/
structure ParsedSteps (Volume : Type := Rat) where
  nextCommandId : CommandId
  commands : Commands Volume

/-- `double * units::milli_litre`, in exact litres. -/
def exactLitres (double : Float) : Litre :=
  milliLitre (Binary64.toRat double)

variable {Volume : Type} (litres : Float → Volume)
  (ingredientStore : IngredientStore)

/-- The fields of a dispense step. -/
def parseDispense (id : CommandId) (stepObj : List (String × Json)) :
    Except ParseError (Command Volume) := do
  let ingredient ← value (Json.field stepObj "ingredient").getString
  if (ingredientStore.findById ingredient).isNone then
    throw (.runtime ("Ingredient '" ++ ingredient ++ "' not found in store"))
  let volume ← value (Json.field stepObj "volume").getDouble
  return .dispense ⟨id, ingredient, litres volume⟩

/-- A step of a parallel block: the id of the next command and the block so
far. -/
def parseInnerStep (parsed : CommandId × List (Command Volume))
    (innerVal : Json) :
    Except ParseError (CommandId × List (Command Volume)) := do
  let innerObj ← value innerVal.getObject
  let innerKind ← value (Json.field innerObj "kind").getString
  if innerKind ≠ "dispense" then
    throw (.runtime "Only dispense steps are allowed inside a parallel block")
  let command ← parseDispense litres ingredientStore parsed.1 innerObj
  return (parsed.1 + 1, parsed.2 ++ [command])

def parseStep (parsed : ParsedSteps Volume) (stepVal : Json) :
    Except ParseError (ParsedSteps Volume) := do
  let stepObj ← value stepVal.getObject
  let kind ← value (Json.field stepObj "kind").getString
  if kind = "dispense" then
    let command ←
      parseDispense litres ingredientStore parsed.nextCommandId stepObj
    return ⟨parsed.nextCommandId + 1, parsed.commands ++ [.single command]⟩
  else if kind = "manual" then
    let text ← value (Json.field stepObj "text").getString
    return ⟨parsed.nextCommandId + 1, parsed.commands ++
      [.single (.manual ⟨parsed.nextCommandId, text⟩)]⟩
  else if kind = "parallel" then
    let parallelSteps ← value (Json.field stepObj "steps").getArray
    let block ← parallelSteps.foldlM (parseInnerStep litres ingredientStore)
      (parsed.nextCommandId, [])
    return ⟨block.1, parsed.commands ++ [.parallel block.2]⟩
  else
    throw (.runtime ("Unknown recipe step kind: '" ++ kind ++ "'"))

/-- The tags are optional, but each of them must be a string. -/
def parseTags (obj : List (String × Json)) : Except ParseError (List String) :=
  match (Json.field obj "tags").getArray with
  | .ok tagsArr => tagsArr.mapM fun tagVal => value tagVal.getString
  | .error _ => .ok []

/-- The volumes are doubles in millilitres, which `litres` converts. -/
def parseRecipe (doc : Json) (filePath : RecipePath) :
    Except ParseError (Recipe Volume) := do
  let obj ← value doc.getObject
  let displayName ← value (Json.field obj "name").getString
  let description :=
    (Json.field obj "description").getString.toOption.getD ""
  let tags ← parseTags obj
  let nominalVolMl :=
    (Json.field obj "nominal_serving_volume").getDouble.toOption.getD 0
  let stepsArr ← value (Json.field obj "steps").getArray
  let parsed ← stepsArr.foldlM (parseStep litres ingredientStore) ⟨1, []⟩
  return {
    id := filePath.stem
    displayName := displayName
    description := description
    tags := tags
    imagePath := filePath.replaceExtension ".png"
    nominalServingVolume := litres nominalVolMl
    commands := parsed.commands }

end Parsing

section Documents

/-- The double that is read from a field, if it is a number. -/
def numberIn (fields : List (String × Json)) (key : String) : Option Float :=
  (Json.field fields key).getDouble.toOption

/-- The nominal serving volume that a document names, in millilitres. -/
def nominalNumber (doc : Json) : Float :=
  match doc.getObject with
  | .ok obj => (numberIn obj "nominal_serving_volume").getD 0
  | .error _ => 0

/-- The ingredient and the volume in millilitres that a dispense step names. -/
def namedDispense (step : Json) : List (IngredientId × Float) :=
  match step.getObject with
  | .ok stepObj =>
      match (Json.field stepObj "ingredient").getString,
        numberIn stepObj "volume" with
      | .ok ingredient, some volume => [(ingredient, volume)]
      | _, _ => []
  | .error _ => []

/-- What a step names to be dispensed: a dispense step has one, a parallel
block those of its steps. -/
def stepDispenses (step : Json) : List (IngredientId × Float) :=
  match step.getObject with
  | .ok stepObj =>
      match (Json.field stepObj "kind").getString with
      | .ok kind =>
          if kind = "dispense" then namedDispense step
          else if kind = "parallel" then
            match (Json.field stepObj "steps").getArray with
            | .ok steps => steps.flatMap namedDispense
            | .error _ => []
          else []
      | .error _ => []
  | .error _ => []

/-- What the dispense steps of a document name. -/
def documentDispenses (doc : Json) : List (IngredientId × Float) :=
  match doc.getObject with
  | .ok obj =>
      match (Json.field obj "steps").getArray with
      | .ok steps => steps.flatMap stepDispenses
      | .error _ => []
  | .error _ => []

/-- All volumes that the dispense steps of a document name. -/
def volumeNumbers (doc : Json) : List Float :=
  (documentDispenses doc).map Prod.snd

end Documents

section Accepted

variable {Volume : Type} {litres : Float → Volume}
  {ingredientStore : IngredientStore}

@[simp]
theorem value_eq_ok {Value : Type} {result : Except JsonError Value}
    {read : Value} : value result = .ok read ↔ result = .ok read := by
  cases result <;> simp [value, Except.mapError]

/-- The ingredient and the volume of a command: one or none. -/
def Command.dispenses : Command Volume → List (IngredientId × Volume)
  | .dispense command => [(command.ingredient, command.volume)]
  | _ => []

/-- What the commands dispense, in order. -/
def Commands.dispenses (commands : Commands Volume) :
    List (IngredientId × Volume) :=
  commands.leaves.flatMap Command.dispenses

/-- The volumes that the commands dispense, in order. -/
def Commands.volumes (commands : Commands Volume) : List Volume :=
  commands.dispenses.map Prod.snd

theorem mem_dispenses {commands : Commands Volume} {ingredient : IngredientId}
    {volume : Volume} :
    (ingredient, volume) ∈ commands.dispenses ↔
      ∃ dispense, .dispense dispense ∈ commands.leaves ∧
        dispense.ingredient = ingredient ∧ dispense.volume = volume := by
  constructor
  · intro member
    obtain ⟨command, inRecipe, named⟩ := List.mem_flatMap.mp member
    cases command with
    | monostate => cases named
    | manual command => cases named
    | dispense dispense =>
        obtain ⟨rfl, rfl⟩ := Prod.mk.inj (List.mem_singleton.mp named)
        exact ⟨dispense, inRecipe, rfl, rfl⟩
  · rintro ⟨dispense, inRecipe, rfl, rfl⟩
    exact List.mem_flatMap.mpr ⟨_, inRecipe, List.mem_singleton_self _⟩

theorem dispenses_concat (commands : Commands Volume)
    (item : RecipeItem Volume) :
    Commands.dispenses (commands ++ [item]) =
      commands.dispenses ++ item.leaves.flatMap Command.dispenses := by
  simp [Commands.dispenses, Commands.leaves]

/-- The volume as it is converted. -/
def converted (litres : Float → Volume) (named : IngredientId × Float) :
    IngredientId × Volume :=
  (named.1, litres named.2)

theorem dispenses_of_parseDispense {id : CommandId} {step : Json}
    {stepObj : List (String × Json)} {command : Command Volume}
    (isObject : step.getObject = .ok stepObj)
    (parsed : parseDispense litres ingredientStore id stepObj = .ok command) :
    command.dispenses = (namedDispense step).map (converted litres) := by
  unfold parseDispense at parsed
  obtain ⟨ingredient, named, parsed⟩ := except_bind_eq_ok.mp parsed
  split at parsed
  · obtain ⟨done, thrown, -⟩ := except_bind_eq_ok.mp parsed
    cases thrown
  · obtain ⟨volume, read, parsed⟩ := except_bind_eq_ok.mp parsed
    obtain rfl := Except.ok.inj parsed
    rw [value_eq_ok] at named read
    have isNumber : numberIn stepObj "volume" = some volume := by
      rw [numberIn, read]
      rfl
    simp [Command.dispenses, namedDispense, isObject, named, isNumber,
      converted]

theorem dispenses_of_parseInnerStep
    {state next : CommandId × List (Command Volume)}
    {innerVal : Json}
    (parsed : parseInnerStep litres ingredientStore state innerVal = .ok next) :
    next.2.flatMap Command.dispenses =
      state.2.flatMap Command.dispenses ++
        (namedDispense innerVal).map (converted litres) := by
  unfold parseInnerStep at parsed
  obtain ⟨innerObj, isObject, parsed⟩ := except_bind_eq_ok.mp parsed
  obtain ⟨innerKind, -, parsed⟩ := except_bind_eq_ok.mp parsed
  split at parsed
  · obtain ⟨done, thrown, -⟩ := except_bind_eq_ok.mp parsed
    cases thrown
  · obtain ⟨command, parsedCommand, parsed⟩ := except_bind_eq_ok.mp parsed
    obtain rfl := Except.ok.inj parsed
    simp [dispenses_of_parseDispense (value_eq_ok.mp isObject) parsedCommand]

theorem dispenses_of_parseInnerSteps (parallelSteps : List Json) :
    ∀ {state last : CommandId × List (Command Volume)},
      parallelSteps.foldlM (parseInnerStep litres ingredientStore) state =
          .ok last →
        last.2.flatMap Command.dispenses =
          state.2.flatMap Command.dispenses ++
            (parallelSteps.flatMap namedDispense).map (converted litres) := by
  induction parallelSteps with
  | nil =>
      intro state last parsed
      obtain rfl := Except.ok.inj parsed
      simp
  | cons innerVal parallelSteps ih =>
      intro state last parsed
      rw [List.foldlM_cons] at parsed
      obtain ⟨next, first, rest⟩ := except_bind_eq_ok.mp parsed
      rw [ih rest, dispenses_of_parseInnerStep first]
      simp

theorem dispenses_of_parseStep {state next : ParsedSteps Volume}
    {stepVal : Json}
    (parsed : parseStep litres ingredientStore state stepVal = .ok next) :
    next.commands.dispenses =
      state.commands.dispenses ++
        (stepDispenses stepVal).map (converted litres) := by
  unfold parseStep at parsed
  obtain ⟨stepObj, isObject, parsed⟩ := except_bind_eq_ok.mp parsed
  obtain ⟨kind, isKind, parsed⟩ := except_bind_eq_ok.mp parsed
  rw [value_eq_ok] at isObject isKind
  simp only [stepDispenses, isObject, isKind]
  split at parsed
  case isTrue isDispense =>
    obtain ⟨command, parsedCommand, parsed⟩ := except_bind_eq_ok.mp parsed
    obtain rfl := Except.ok.inj parsed
    rw [dispenses_concat, if_pos isDispense, RecipeItem.leaves,
      List.flatMap_singleton,
      dispenses_of_parseDispense isObject parsedCommand]
  case isFalse notDispense =>
    rw [if_neg notDispense]
    split at parsed
    case isTrue isManual =>
      obtain ⟨text, -, parsed⟩ := except_bind_eq_ok.mp parsed
      obtain rfl := Except.ok.inj parsed
      rw [dispenses_concat, if_neg (by simp [isManual])]
      rfl
    case isFalse notManual =>
      split at parsed
      case isTrue isParallel =>
        obtain ⟨parallelSteps, isArray, parsed⟩ := except_bind_eq_ok.mp parsed
        obtain ⟨block, parsedBlock, parsed⟩ := except_bind_eq_ok.mp parsed
        obtain rfl := Except.ok.inj parsed
        rw [dispenses_concat, if_pos isParallel, RecipeItem.leaves,
          dispenses_of_parseInnerSteps parallelSteps parsedBlock]
        simp [value_eq_ok.mp isArray]
      case isFalse unknown => cases parsed

theorem dispenses_of_parseSteps (stepsArr : List Json) :
    ∀ {state last : ParsedSteps Volume},
      stepsArr.foldlM (parseStep litres ingredientStore) state = .ok last →
        last.commands.dispenses =
          state.commands.dispenses ++
            (stepsArr.flatMap stepDispenses).map (converted litres) := by
  induction stepsArr with
  | nil =>
      intro state last parsed
      obtain rfl := Except.ok.inj parsed
      simp
  | cons stepVal stepsArr ih =>
      intro state last parsed
      rw [List.foldlM_cons] at parsed
      obtain ⟨next, first, rest⟩ := except_bind_eq_ok.mp parsed
      rw [ih rest, dispenses_of_parseStep first]
      simp

/-- An accepted recipe dispenses what its document names. -/
theorem parseRecipe_dispenses {doc : Json} {filePath : RecipePath}
    {recipe : Recipe Volume}
    (parsed : parseRecipe litres ingredientStore doc filePath = .ok recipe) :
    recipe.nominalServingVolume = litres (nominalNumber doc) ∧
      recipe.commands.dispenses =
        (documentDispenses doc).map (converted litres) := by
  unfold parseRecipe at parsed
  obtain ⟨obj, isObject, parsed⟩ := except_bind_eq_ok.mp parsed
  obtain ⟨displayName, -, parsed⟩ := except_bind_eq_ok.mp parsed
  obtain ⟨tags, -, parsed⟩ := except_bind_eq_ok.mp parsed
  obtain ⟨stepsArr, isArray, parsed⟩ := except_bind_eq_ok.mp parsed
  obtain ⟨steps, parsedSteps, parsed⟩ := except_bind_eq_ok.mp parsed
  obtain rfl := Except.ok.inj parsed
  rw [value_eq_ok] at isObject isArray
  constructor
  · simp only [nominalNumber, isObject, numberIn]
  · simp only [documentDispenses, isObject, isArray]
    exact dispenses_of_parseSteps stepsArr parsedSteps

theorem parseRecipe_volumes {doc : Json} {filePath : RecipePath}
    {recipe : Recipe Volume}
    (parsed : parseRecipe litres ingredientStore doc filePath = .ok recipe) :
    recipe.commands.volumes = (volumeNumbers doc).map litres := by
  rw [Commands.volumes, (parseRecipe_dispenses parsed).2, volumeNumbers,
    List.map_map, List.map_map]
  rfl

end Accepted

end CocktailMaker
