import CocktailMaker.CommandRows
import CocktailMaker.GlassStore
import CocktailMaker.StationConfig

/-!
# Initialising the application

`Application::init` loads the glasses, the ingredients and the recipes from
three directories and reads the saved configuration last.  An exception ends it
where it is thrown; `main` logs it and runs the application with what there is
by then.
-/

namespace CocktailMaker

/-- `RecipeStore::find_by_id`: the first recipe with the id. -/
def RecipeStore.findById (store : RecipeStore) (id : RecipeId) :
    Option Recipe :=
  KeyedRows.find Recipe.id id store.recipes

/-- `RecipeStore::find_by_index` takes a C++ `int`. -/
def RecipeStore.findByIndex (store : RecipeStore) (index : Int) :
    Option Recipe :=
  if index < 0 then none else store.recipes[index.toNat]?

namespace ApplicationInit

section Directories

variable {Byte : Type*}

/-- An entry of a directory, whose name is split at its extension. -/
structure DirectoryEntry (Byte : Type*) where
  stem : String
  extension : String
  isRegularFile : Bool
  file : File Byte

def DirectoryEntry.isJson (entry : DirectoryEntry Byte) : Bool :=
  entry.isRegularFile && entry.extension == ".json"

/-- A directory lists no name twice. -/
structure Directory (Byte : Type*) where
  entries : List (DirectoryEntry Byte)
  distinct : (entries.map fun entry => (entry.stem, entry.extension)).Nodup

/-- What a path names. -/
inductive Location (Byte : Type*)
  | directory (listing : Directory Byte)
  | unlistable
  | file (entry : DirectoryEntry Byte)
  | nothing

/-- The files that a loader reads. -/
def Directory.jsonFiles (listing : Directory Byte) :
    List (DirectoryEntry Byte) :=
  listing.entries.filter DirectoryEntry.isJson

/-- The directories under `db`, and the two files in the working directory. -/
structure Storage (Byte : Type*) where
  glasses : Location Byte
  ingredients : Location Byte
  recipes : Location Byte
  activeVolumes : File Byte
  stationConfig : File Byte

end Directories

section Loaders

/-- An error of `simdjson`. -/
inductive SimdjsonError
  | ioError
  | parse (reason : JsonError)

/-- The exceptions of the loaders. -/
inductive Thrown
  | filesystemError (path : String)
  | runtimeError (message : String)
  deriving DecidableEq

variable {Byte : Type*} {Value : Type} (errorMessage : SimdjsonError → String)
  (codec : JsonCodec Byte)

/-- `padded_string::load`, then `iterate`. -/
def readDocument : File Byte → Except SimdjsonError Json
  | .missing => .error .ioError
  | .unreadable => .error .ioError
  | .content bytes => (codec.iterate bytes).mapError .parse

/-- The `try` block around one file.  `failed` and `other` format the messages
of its handlers. -/
def loadFile (parse : Json → Except ParseError Value)
    (failed other : String → String) (file : File Byte) :
    Except Thrown Value :=
  match readDocument codec file with
  | .error reason => .error (.runtimeError (failed (errorMessage reason)))
  | .ok doc =>
      match parse doc with
      | .ok value => .ok value
      | .error (.simdjson reason) =>
          .error (.runtimeError (failed (errorMessage (.parse reason))))
      | .error (.runtime message) => .error (.runtimeError (other message))

/-- The loop over a directory. -/
def loadEntries (load : DirectoryEntry Byte → Except Thrown Value)
    (entries : List (DirectoryEntry Byte)) : Except Thrown (List Value) :=
  entries.foldlM (fun values entry =>
    if entry.isJson then do
      let value ← load entry
      return values ++ [value]
    else return values) []

def pathOf (dir : String) (entry : DirectoryEntry Byte) : String :=
  dir ++ "/" ++ entry.stem ++ entry.extension

/-- `directory_iterator` throws for anything but a directory that can be
listed. -/
def loadDirectory (load : DirectoryEntry Byte → Except Thrown Value)
    (dir : String) : Location Byte → Except Thrown (List Value)
  | .directory listing => loadEntries load listing.entries
  | .unlistable => .error (.filesystemError dir)
  | .file _ => .error (.filesystemError dir)
  | .nothing => .error (.filesystemError dir)

def parseIngredientType (str : String) : Except ParseError IngredientType :=
  match str with
  | "alcohol" => .ok .alcohol
  | "juice" => .ok .juice
  | "syrup" => .ok .syrup
  | "soda" => .ok .soda
  | "water" => .ok .water
  | "dairy" => .ok .dairy
  | "bitters" => .ok .bitters
  | "puree" => .ok .puree
  | "other" => .ok .other
  | _ => .error (.runtime ("Unknown ingredient type: '" ++ str ++ "'"))

def parseBoostCategory (str : String) : Except ParseError BoostCategory :=
  match str with
  | "fixed" => .ok .fixed
  | "boostable" => .ok .boostable
  | "reducible" => .ok .reducible
  | _ => .error (.runtime ("Unknown boost category: '" ++ str ++ "'"))

def parseIngredient (doc : Json) : Except ParseError Ingredient := do
  let obj ← value doc.getObject
  let id ← value (Json.field obj "id").getString
  let displayName ← value (Json.field obj "display_name").getString
  let typeStr ← value (Json.field obj "type").getString
  let type ← parseIngredientType typeStr
  let boostStr ← value (Json.field obj "boost").getString
  let boostCategory ← parseBoostCategory boostStr
  return { id, displayName, type, boostCategory }

/-- The values of the icon are read, each of its type. -/
def parseIcon (iconObj : List (String × Json)) : Except ParseError Unit := do
  let _ ← value (Json.field iconObj "viewbox_width").getDouble
  let _ ← value (Json.field iconObj "viewbox_height").getDouble
  let _ ← value (Json.field iconObj "outline").getString
  match (Json.field iconObj "rim").getArray with
  | .error _ => return
  | .ok rimArr =>
      let _ ← rimArr.mapM fun rimStr => value rimStr.getString
      return

def parseGlass (doc : Json) : Except ParseError Glass := do
  let obj ← value doc.getObject
  let id ← value (Json.field obj "id").getString
  let displayName ← value (Json.field obj "display_name").getString
  let volumes ← value (Json.field obj "common_volumes_ml").getArray
  let commonVolumes ← volumes.mapM fun vol => do
    let ml ← value vol.getInt64
    return milliLitre ml
  let iconObj ← value (Json.field obj "icon").getObject
  parseIcon iconObj
  return { id, displayName, commonVolumes, activeVolumes := [] }

/-- A glass file is only caught for errors of `simdjson`. -/
def loadGlassesFromDir (dir : String) :
    Location Byte → Except Thrown (List Glass) :=
  loadDirectory (fun entry =>
    loadFile errorMessage codec parseGlass
      (fun what => "Failed to parse " ++ pathOf dir entry ++ ": " ++ what)
      (fun what => what) entry.file) dir

def loadIngredientsFromDir (dir : String) :
    Location Byte → Except Thrown (List Ingredient) :=
  loadDirectory (fun entry =>
    loadFile errorMessage codec parseIngredient
      (fun what => "Failed to parse ingredient file " ++ pathOf dir entry ++
        ": " ++ what)
      (fun what => "Error in file " ++ pathOf dir entry ++ ": " ++ what)
      entry.file) dir

variable (ingredientStore : IngredientStore)

/-- `load_single_file`. -/
def loadRecipe (dir : String) (entry : DirectoryEntry Byte) :
    Except Thrown Recipe :=
  loadFile errorMessage codec
    (fun doc => parseRecipe exactLitres ingredientStore doc
      ⟨dir, entry.stem, entry.extension⟩)
    (fun what => "Failed to parse recipe " ++ pathOf dir entry ++ ": " ++ what)
    (fun what => "Error loading recipe " ++ pathOf dir entry ++ ": " ++ what)
    entry.file

/-- The path may also be a single file, and anything else has no recipes. -/
def loadRecipesFromDir (dir : String) :
    Location Byte → Except Thrown (List Recipe)
  | .directory listing =>
      loadEntries (loadRecipe errorMessage codec ingredientStore dir)
        listing.entries
  | .unlistable => .error (.filesystemError dir)
  | .file entry =>
      loadEntries (loadRecipe errorMessage codec ingredientStore dir) [entry]
  | .nothing => .ok []

end Loaders

section Model

/-- The stores of the application. -/
structure Application where
  glassStore : GlassStore
  ingredientStore : IngredientStore
  recipeStore : RecipeStore
  stationConfig : StationConfig ingredientStore

/-- The stores of a new application are empty. -/
def Application.new : Application where
  glassStore := .empty
  ingredientStore := ⟨[], List.nodup_nil⟩
  recipeStore := {}
  stationConfig := .empty

/-- `init` ends, perhaps with an exception, or an assertion ends the process. -/
inductive Outcome
  | ended (application : Application) (thrown : Option Thrown)
  | aborted (failure : Failure)

variable {Byte : Type*} (errorMessage : SimdjsonError → String)
  (codec : JsonCodec Byte)

def init (dbDir : String) (storage : Storage Byte) : Outcome :=
  match loadGlassesFromDir errorMessage codec (dbDir ++ "/glasses")
      storage.glasses with
  | .error thrown => .ended .new (some thrown)
  | .ok glasses =>
  let glassStore := GlassStore.initGlasses glasses codec storage.activeVolumes
  match loadIngredientsFromDir errorMessage codec (dbDir ++ "/ingredients")
      storage.ingredients with
  | .error thrown => .ended { Application.new with glassStore } (some thrown)
  | .ok ingredients =>
  match initIngredients ingredients with
  | .error failure => .aborted failure
  | .ok ingredientStore =>
  match loadRecipesFromDir errorMessage codec ingredientStore
      (dbDir ++ "/recipes") storage.recipes with
  | .error thrown =>
      .ended
        { glassStore
          ingredientStore
          recipeStore := {}
          stationConfig := .empty }
        (some thrown)
  | .ok recipes =>
      .ended
        { glassStore
          ingredientStore
          recipeStore := RecipeStore.initRecipes {} recipes
          stationConfig := StationConfig.empty.init codec
            storage.stationConfig }
        none

/-- The files that may hold a recipe. -/
def Storage.recipeFiles (storage : Storage Byte) :
    List (DirectoryEntry Byte) :=
  match storage.recipes with
  | .directory listing => listing.jsonFiles
  | .unlistable => []
  | .file entry => [entry].filter DirectoryEntry.isJson
  | .nothing => []

/-- The recipe is what the parser makes of the file. -/
def ReadFrom (ingredientStore : IngredientStore) (dir : String)
    (entry : DirectoryEntry Byte) (recipe : Recipe) : Prop :=
  ∃ doc, readDocument codec entry.file = .ok doc ∧
    parseRecipe exactLitres ingredientStore doc
      ⟨dir, entry.stem, entry.extension⟩ = .ok recipe

/-- A command of which a loaded recipe is made: it has an id, and what it
dispenses is in the store. -/
def Known (ingredientStore : IngredientStore) : Command → Prop
  | .monostate => False
  | .manual _ => True
  | .dispense command =>
      (ingredientStore.findById command.ingredient).isSome

end Model

section Numbering

variable {ingredientStore : IngredientStore}

theorem visitEach_concat {Node : Type*}
    {visit : CommandId → Node → Node × CommandId} {first next : CommandId}
    {nodes : List Node} (numbered : visitEach visit first nodes = (nodes, next))
    {node : Node} {after : CommandId} (last : visit next node = (node, after)) :
    visitEach visit first (nodes ++ [node]) = (nodes ++ [node], after) := by
  induction nodes generalizing first with
  | nil =>
      cases numbered
      simp [visitEach, last]
  | cons head nodes ih =>
      simp only [visitEach, Prod.mk.injEq, List.cons.injEq] at numbered
      obtain ⟨⟨sameHead, sameRest⟩, sameNext⟩ := numbered
      have rest := ih (Prod.ext sameRest sameNext)
      rw [List.cons_append, visitEach]
      simp only [sameHead, rest]

theorem dispense_of_parseDispense {id : CommandId}
    {stepObj : List (String × Json)} {command : Command}
    (parsed : parseDispense exactLitres ingredientStore id stepObj =
      .ok command) :
    command.assignId id = (command, id + 1) ∧
      Known ingredientStore command := by
  unfold parseDispense at parsed
  obtain ⟨ingredient, -, parsed⟩ := except_bind_eq_ok.mp parsed
  split at parsed
  case isTrue unknown =>
    obtain ⟨done, thrown, -⟩ := except_bind_eq_ok.mp parsed
    cases thrown
  case isFalse known =>
    obtain ⟨volume, -, parsed⟩ := except_bind_eq_ok.mp parsed
    obtain rfl := Except.ok.inj parsed
    refine ⟨rfl, ?_⟩
    rwa [Option.isNone_iff_eq_none, ← Ne, Option.ne_none_iff_isSome] at known

/-- The commands that have been parsed are numbered from `first` on. -/
structure ParsedBlock (ingredientStore : IngredientStore) (first : CommandId)
    (block : CommandId × List Command) : Prop where
  numbered : visitEach Command.assignId first block.2 = (block.2, block.1)
  known : ∀ command ∈ block.2, Known ingredientStore command

theorem parsedBlock_of_parseInnerStep {first : CommandId}
    {block next : CommandId × List Command}
    (before : ParsedBlock ingredientStore first block) {innerVal : Json}
    (parsed : parseInnerStep exactLitres ingredientStore block innerVal =
      .ok next) :
    ParsedBlock ingredientStore first next := by
  unfold parseInnerStep at parsed
  obtain ⟨innerObj, -, parsed⟩ := except_bind_eq_ok.mp parsed
  obtain ⟨innerKind, -, parsed⟩ := except_bind_eq_ok.mp parsed
  split at parsed
  · obtain ⟨done, thrown, -⟩ := except_bind_eq_ok.mp parsed
    cases thrown
  · obtain ⟨command, parsedCommand, parsed⟩ := except_bind_eq_ok.mp parsed
    obtain rfl := Except.ok.inj parsed
    obtain ⟨hasId, known⟩ := dispense_of_parseDispense parsedCommand
    refine ⟨visitEach_concat before.numbered hasId, fun other member => ?_⟩
    rcases List.mem_append.mp member with old | isNew
    · exact before.known other old
    · rwa [List.mem_singleton.mp isNew]

theorem parsedBlock_of_parseInnerSteps {first : CommandId}
    (parallelSteps : List Json) {block last : CommandId × List Command}
    (before : ParsedBlock ingredientStore first block)
    (parsed : parallelSteps.foldlM
      (parseInnerStep exactLitres ingredientStore) block = .ok last) :
    ParsedBlock ingredientStore first last := by
  induction parallelSteps generalizing block with
  | nil => exact Except.ok.inj parsed ▸ before
  | cons innerVal parallelSteps ih =>
      rw [List.foldlM_cons] at parsed
      obtain ⟨next, step, rest⟩ := except_bind_eq_ok.mp parsed
      exact ih (parsedBlock_of_parseInnerStep before step) rest

/-- The items that have been parsed are numbered as the store would do it. -/
structure ParsedItems (ingredientStore : IngredientStore)
    (parsed : ParsedSteps) : Prop where
  numbered : visitEach RecipeItem.assignIds 1 parsed.commands =
    (parsed.commands, parsed.nextCommandId)
  known : ∀ command ∈ parsed.commands.leaves,
    Known ingredientStore command

theorem ParsedItems.concat {state : ParsedSteps}
    (before : ParsedItems ingredientStore state) {item : RecipeItem}
    {next : CommandId}
    (hasIds : item.assignIds state.nextCommandId = (item, next))
    (known : ∀ command ∈ item.leaves, Known ingredientStore command) :
    ParsedItems ingredientStore ⟨next, state.commands ++ [item]⟩ where
  numbered := visitEach_concat before.numbered hasIds
  known command member := by
    rw [Commands.leaves, List.flatMap_append, List.flatMap_singleton] at member
    rcases List.mem_append.mp member with old | isNew
    · exact before.known command old
    · exact known command isNew

theorem parsedItems_of_parseStep {state next : ParsedSteps}
    (before : ParsedItems ingredientStore state) {stepVal : Json}
    (parsed : parseStep exactLitres ingredientStore state stepVal = .ok next) :
    ParsedItems ingredientStore next := by
  unfold parseStep at parsed
  obtain ⟨stepObj, -, parsed⟩ := except_bind_eq_ok.mp parsed
  obtain ⟨kind, -, parsed⟩ := except_bind_eq_ok.mp parsed
  split at parsed
  case isTrue isDispense =>
    obtain ⟨command, parsedCommand, parsed⟩ := except_bind_eq_ok.mp parsed
    obtain rfl := Except.ok.inj parsed
    obtain ⟨hasId, known⟩ := dispense_of_parseDispense parsedCommand
    apply before.concat
    · rw [RecipeItem.assignIds, hasId]
    · intro other member
      rwa [List.mem_singleton.mp member]
  case isFalse notDispense =>
    split at parsed
    case isTrue isManual =>
      obtain ⟨text, -, parsed⟩ := except_bind_eq_ok.mp parsed
      obtain rfl := Except.ok.inj parsed
      apply before.concat
      · rfl
      · intro other member
        rw [List.mem_singleton.mp member]
        trivial
    case isFalse notManual =>
      split at parsed
      case isTrue isParallel =>
        obtain ⟨parallelSteps, -, parsed⟩ := except_bind_eq_ok.mp parsed
        obtain ⟨block, parsedBlock, parsed⟩ := except_bind_eq_ok.mp parsed
        obtain rfl := Except.ok.inj parsed
        have blockParsed : ParsedBlock ingredientStore state.nextCommandId
            block :=
          parsedBlock_of_parseInnerSteps parallelSteps
            ⟨rfl, fun _ member => absurd member List.not_mem_nil⟩ parsedBlock
        apply before.concat
        · rw [RecipeItem.assignIds, blockParsed.numbered]
        · exact blockParsed.known
      case isFalse unknown => cases parsed

theorem parsedItems_of_parseSteps (stepsArr : List Json)
    {state last : ParsedSteps} (before : ParsedItems ingredientStore state)
    (parsed : stepsArr.foldlM (parseStep exactLitres ingredientStore) state =
      .ok last) :
    ParsedItems ingredientStore last := by
  induction stepsArr generalizing state with
  | nil => exact Except.ok.inj parsed ▸ before
  | cons stepVal stepsArr ih =>
      rw [List.foldlM_cons] at parsed
      obtain ⟨next, step, rest⟩ := except_bind_eq_ok.mp parsed
      exact ih (parsedItems_of_parseStep before step) rest

/-- The parser numbers the commands as the store does, so that storing a
parsed recipe changes nothing. -/
theorem assignUniqueCommandIds_of_parseRecipe {doc : Json}
    {filePath : RecipePath} {recipe : Recipe}
    (parsed : parseRecipe exactLitres ingredientStore doc filePath =
      .ok recipe) :
    recipe.id = filePath.stem ∧
      assignUniqueCommandIds recipe = recipe ∧
      ∀ command ∈ recipe.commands.leaves,
        Known ingredientStore command := by
  unfold parseRecipe at parsed
  obtain ⟨obj, -, parsed⟩ := except_bind_eq_ok.mp parsed
  obtain ⟨displayName, -, parsed⟩ := except_bind_eq_ok.mp parsed
  obtain ⟨tags, -, parsed⟩ := except_bind_eq_ok.mp parsed
  obtain ⟨stepsArr, -, parsed⟩ := except_bind_eq_ok.mp parsed
  obtain ⟨steps, parsedSteps, parsed⟩ := except_bind_eq_ok.mp parsed
  obtain rfl := Except.ok.inj parsed
  have items : ParsedItems ingredientStore steps :=
    parsedItems_of_parseSteps stepsArr
      ⟨rfl, fun _ member => absurd member List.not_mem_nil⟩ parsedSteps
  refine ⟨rfl, ?_, items.known⟩
  simp only [assignUniqueCommandIds, items.numbered]

end Numbering

section Loading

variable {Byte : Type*} {Value : Type} {errorMessage : SimdjsonError → String}
  {codec : JsonCodec Byte}

theorem loadFile_eq_ok {parse : Json → Except ParseError Value}
    {failed other : String → String} {file : File Byte} {loaded : Value}
    (returned : loadFile errorMessage codec parse failed other file =
      .ok loaded) :
    ∃ doc, readDocument codec file = .ok doc ∧ parse doc = .ok loaded := by
  unfold loadFile at returned
  cases read : readDocument codec file with
  | error reason => simp [read] at returned
  | ok doc =>
      cases parsed : parse doc with
      | error reason => cases reason <;> simp [read, parsed] at returned
      | ok value =>
          simp only [read, parsed, Except.ok.injEq] at returned
          exact ⟨doc, rfl, returned ▸ parsed⟩

/-- Every file is loaded, in the order of the directory, or none is. -/
theorem forall₂_of_loadEntries
    {load : DirectoryEntry Byte → Except Thrown Value}
    {entries : List (DirectoryEntry Byte)} {values : List Value}
    (loaded : loadEntries load entries = .ok values) :
    List.Forall₂ (fun entry value => load entry = .ok value)
      (entries.filter DirectoryEntry.isJson) values := by
  have accumulated (before : List Value)
      (folded : entries.foldlM (fun values entry =>
        if entry.isJson then do
          let value ← load entry
          return values ++ [value]
        else return values) before = .ok values) :
      ∃ added, values = before ++ added ∧
        List.Forall₂ (fun entry value => load entry = .ok value)
          (entries.filter DirectoryEntry.isJson) added := by
    clear loaded
    induction entries generalizing before with
    | nil => exact ⟨[], by simpa using (Except.ok.inj folded).symm, .nil⟩
    | cons entry entries ih =>
        rw [List.foldlM_cons] at folded
        obtain ⟨next, head, rest⟩ := except_bind_eq_ok.mp folded
        obtain ⟨added, isAdded, each⟩ := ih next rest
        cases isJson : entry.isJson with
        | false =>
            rw [if_neg (by simp [isJson])] at head
            obtain rfl := Except.ok.inj head
            rw [List.filter_cons_of_neg (by simp [isJson])]
            exact ⟨added, isAdded, each⟩
        | true =>
            rw [if_pos isJson] at head
            obtain ⟨value, returned, head⟩ := except_bind_eq_ok.mp head
            obtain rfl := Except.ok.inj head
            rw [List.filter_cons_of_pos isJson]
            refine ⟨value :: added, ?_, .cons returned each⟩
            rw [isAdded, List.append_assoc, List.singleton_append]
  obtain ⟨added, isAdded, each⟩ := accumulated [] loaded
  rwa [isAdded, List.nil_append]

theorem readFrom_of_loadRecipe {ingredientStore : IngredientStore}
    {dir : String} {entry : DirectoryEntry Byte} {recipe : Recipe}
    (loaded : loadRecipe errorMessage codec ingredientStore dir entry =
      .ok recipe) : ReadFrom codec ingredientStore dir entry recipe :=
  loadFile_eq_ok loaded

theorem readFrom_of_loadRecipesFromDir {ingredientStore : IngredientStore}
    {dir : String} {storage : Storage Byte} {recipes : List Recipe}
    (loaded : loadRecipesFromDir errorMessage codec ingredientStore dir
      storage.recipes = .ok recipes) :
    List.Forall₂ (ReadFrom codec ingredientStore dir) storage.recipeFiles
      recipes := by
  unfold Storage.recipeFiles
  cases location : storage.recipes with
  | directory listing =>
      rw [location] at loaded
      exact (forall₂_of_loadEntries loaded).imp
        fun _ _ => readFrom_of_loadRecipe
  | unlistable =>
      rw [location] at loaded
      cases loaded
  | file entry =>
      rw [location] at loaded
      exact (forall₂_of_loadEntries loaded).imp
        fun _ _ => readFrom_of_loadRecipe
  | nothing =>
      rw [location] at loaded
      cases loaded
      exact .nil

/-- Two files of a directory that hold recipes differ in their stems. -/
theorem stems_nodup (storage : Storage Byte) :
    (storage.recipeFiles.map DirectoryEntry.stem).Nodup := by
  unfold Storage.recipeFiles
  cases storage.recipes with
  | directory listing =>
      have distinct := (listing.distinct.of_map).filter DirectoryEntry.isJson
      refine List.Nodup.map_on ?_ distinct
      intro first firstMember second secondMember sameStem
      simp only [Directory.jsonFiles, List.mem_filter, DirectoryEntry.isJson,
        Bool.and_eq_true, beq_iff_eq] at firstMember secondMember
      apply List.inj_on_of_nodup_map listing.distinct firstMember.1
        secondMember.1
      rw [sameStem, firstMember.2.2, secondMember.2.2]
  | unlistable => exact List.nodup_nil
  | file entry => cases isJson : entry.isJson <;> simp [isJson]
  | nothing => exact List.nodup_nil

theorem exists_file_of_mem {ingredientStore : IngredientStore} {dir : String}
    {files : List (DirectoryEntry Byte)} {recipes : List Recipe}
    (loaded : List.Forall₂ (ReadFrom codec ingredientStore dir) files recipes)
    {recipe : Recipe} (member : recipe ∈ recipes) :
    ∃ entry, ReadFrom codec ingredientStore dir entry recipe := by
  induction loaded with
  | nil => cases member
  | @cons entry first _ _ head _ ih =>
      rcases List.mem_cons.mp member with rfl | later
      · exact ⟨entry, head⟩
      · exact ih later

theorem recipes_of_loadRecipesFromDir {ingredientStore : IngredientStore}
    {dir : String} {storage : Storage Byte} {recipes : List Recipe}
    (loaded : loadRecipesFromDir errorMessage codec ingredientStore dir
      storage.recipes = .ok recipes) :
    (RecipeStore.initRecipes {} recipes).recipes = recipes := by
  rw [RecipeStore.recipes_initRecipes, List.nil_append]
  refine (List.map_congr_left fun recipe member => ?_).trans (List.map_id' _)
  obtain ⟨entry, doc, -, parsed⟩ :=
    exists_file_of_mem (readFrom_of_loadRecipesFromDir loaded) member
  exact (assignUniqueCommandIds_of_parseRecipe parsed).2.1

end Loading

section Results

variable {Byte : Type*} {errorMessage : SimdjsonError → String}
  {codec : JsonCodec Byte} {dbDir : String} {storage : Storage Byte}
  {application : Application} {thrown : Option Thrown}

/-- Where `init` ends: without recipes and without an assignment, or with
everything loaded. -/
theorem init_cases
    (ended : init errorMessage codec dbDir storage =
      .ended application thrown) :
    (thrown.isSome ∧ application.recipeStore.recipes = [] ∧
        application.stationConfig.mapping = ∅) ∨
      (thrown = none ∧ ∃ recipes,
        loadRecipesFromDir errorMessage codec application.ingredientStore
          (dbDir ++ "/recipes") storage.recipes = .ok recipes ∧
        application.recipeStore.recipes = recipes) := by
  unfold init at ended
  split at ended
  case h_1 glassError _ =>
    cases ended
    exact .inl ⟨rfl, rfl, rfl⟩
  case h_2 glasses _ =>
    split at ended
    case h_1 ingredientError _ =>
      cases ended
      exact .inl ⟨rfl, rfl, rfl⟩
    case h_2 ingredients _ =>
      split at ended
      case h_1 failure _ => cases ended
      case h_2 ingredientStore _ =>
        split at ended
        case h_1 recipeError _ =>
          cases ended
          exact .inl ⟨rfl, rfl, rfl⟩
        case h_2 recipes loaded =>
          cases ended
          exact .inr ⟨rfl, recipes, loaded,
            recipes_of_loadRecipesFromDir loaded⟩

theorem ids_of_readFrom {ingredientStore : IngredientStore} {dir : String}
    {files : List (DirectoryEntry Byte)} {recipes : List Recipe}
    (loaded : List.Forall₂ (ReadFrom codec ingredientStore dir) files
      recipes) : recipes.map Recipe.id = files.map DirectoryEntry.stem := by
  induction loaded with
  | nil => rfl
  | cons head rest ih =>
      obtain ⟨doc, -, parsed⟩ := head
      rw [List.map_cons, List.map_cons, ih,
        (assignUniqueCommandIds_of_parseRecipe parsed).1]

/-- However `init` ends, no two recipes have one id. -/
theorem nodup_ids_of_init
    (ended : init errorMessage codec dbDir storage =
      .ended application thrown) :
    (application.recipeStore.recipes.map Recipe.id).Nodup := by
  rcases init_cases ended with ⟨-, none, -⟩ | ⟨-, recipes, loaded, isLoaded⟩
  · rw [none]
    exact List.nodup_nil
  · have read := readFrom_of_loadRecipesFromDir loaded
    rw [isLoaded, ids_of_readFrom read]
    exact stems_nodup storage

/-- All recipes are offered or none is.  After an exception there is no recipe
and no assignment; otherwise every file with a recipe has been read against the
ingredients of the store, and the id of each recipe that is offered leads back
to it. -/
theorem recipes_all_or_none
    (ended : init errorMessage codec dbDir storage =
      .ended application thrown) :
    (thrown.isSome ∧ application.recipeStore.recipes = [] ∧
        application.stationConfig.mapping = ∅) ∨
      (thrown = none ∧
        List.Forall₂ (ReadFrom codec application.ingredientStore
          (dbDir ++ "/recipes")) storage.recipeFiles
          application.recipeStore.recipes ∧
        ∀ index recipe,
          application.recipeStore.findByIndex index = some recipe →
            application.recipeStore.findById recipe.id = some recipe) := by
  rcases init_cases ended with failed | ⟨noError, recipes, loaded, isLoaded⟩
  · exact .inl failed
  · have read := readFrom_of_loadRecipesFromDir loaded
    rw [← isLoaded] at read
    refine .inr ⟨noError, read, fun index recipe found => ?_⟩
    have member : recipe ∈ application.recipeStore.recipes := by
      unfold RecipeStore.findByIndex at found
      split at found
      · cases found
      · exact List.mem_of_getElem? found
    exact KeyedRows.find_of_mem (nodup_ids_of_init ended) member

/-- A directory entry with a document in it. -/
def jsonFile (stem : String) (document : Json) : DirectoryEntry JsonToken where
  stem := stem
  extension := ".json"
  isRegularFile := true
  file := .content (JsonToken.ofJson document)

def ingredientDocument (id type boost : String) : Json :=
  .object [("id", .string id), ("display_name", .string id),
    ("type", .string type), ("boost", .string boost)]

def dispenseStep (ingredient : String) : Json :=
  .object [("kind", .string "dispense"), ("ingredient", .string ingredient),
    ("volume", .integer 20)]

/-- Rum and lime at the same time. -/
def daiquiriDocument : Json :=
  .object [("name", .string "Daiquiri"),
    ("steps", .array [.object [("kind", .string "parallel"),
      ("steps", .array [dispenseStep "rum", dispenseStep "lime"])]])]

/-- No glasses, two ingredients and a recipe next to a picture. -/
def daiquiriStorage : Storage JsonToken where
  glasses := .directory ⟨[], List.nodup_nil⟩
  ingredients := .directory
    { entries :=
        [jsonFile "rum" (ingredientDocument "rum" "alcohol" "boostable"),
        jsonFile "lime" (ingredientDocument "lime" "juice" "reducible")]
      distinct := by decide }
  recipes := .directory
    { entries := [⟨"daiquiri", ".png", true, .unreadable⟩,
        jsonFile "daiquiri" daiquiriDocument]
      distinct := by decide }
  activeVolumes := .missing
  stationConfig := .missing

theorem recipes_all_or_none_daiquiri : ∃ application,
    init (fun _ => "") JsonToken.codec "db" daiquiriStorage =
        .ended application none ∧
      application.recipeStore.recipes ≠ [] ∧
      ∀ index recipe,
        application.recipeStore.findByIndex index = some recipe →
          application.recipeStore.findById recipe.id = some recipe := by
  have ended : init (fun _ => "") JsonToken.codec "db" daiquiriStorage =
      .ended _ none := rfl
  rcases recipes_all_or_none ended with ⟨isError, _⟩ | ⟨_, _, leads⟩
  · cases isError
  · exact ⟨_, ended, List.cons_ne_nil _ _, leads⟩

/-- Scaling and boosting dispense nothing that the recipe does not. -/
theorem Known.sameStep {ingredientStore : IngredientStore}
    {before after : Command} (same : SameStep before after)
    (known : Known ingredientStore before) : Known ingredientStore after := by
  cases same with
  | monostate => exact known
  | manual command => exact known
  | dispense id ingredient volume scaled => exact known

theorem known_of_forall₂ {ingredientStore : IngredientStore}
    {before after : List Command} (same : List.Forall₂ SameStep before after)
    (known : ∀ command ∈ before, Known ingredientStore command) :
    ∀ command ∈ after, Known ingredientStore command := by
  induction same with
  | nil => exact known
  | cons head rest ih =>
      rw [List.forall_mem_cons] at known ⊢
      exact ⟨known.1.sameStep head, ih known.2⟩

theorem Known.isSome_transformCommand {ingredientStore : IngredientStore}
    {command : Command} (known : Known ingredientStore command)
    (formatMilliLitre : Int → String) :
    (CommandRows.transformCommand formatMilliLitre command
      ingredientStore).isSome := by
  cases command with
  | monostate => cases known
  | manual command => rfl
  | dispense command =>
      obtain ⟨ingredient, found⟩ := Option.isSome_iff_exists.mp known
      simp only [CommandRows.transformCommand, found, Option.isSome_some]

theorem forall₂_rows {ingredientStore : IngredientStore}
    {commands : List Command}
    (known : ∀ command ∈ commands, Known ingredientStore command)
    (formatMilliLitre : Int → String) :
    List.Forall₂ (fun command row =>
      CommandRows.transformCommand formatMilliLitre command ingredientStore =
        some row) commands
      (commands.filterMap fun command =>
        CommandRows.transformCommand formatMilliLitre command
          ingredientStore) := by
  induction commands with
  | nil => exact .nil
  | cons command commands ih =>
      rw [List.forall_mem_cons] at known
      obtain ⟨row, shown⟩ := Option.isSome_iff_exists.mp
        (known.1.isSome_transformCommand formatMilliLitre)
      simp only [List.filterMap_cons, shown]
      exact .cons shown (ih known.2)

theorem ids_of_rows {ingredientStore : IngredientStore}
    {formatMilliLitre : Int → String} {commands : List Command}
    {rows : List CommandRows.CommandRow}
    (shown : List.Forall₂ (fun command row =>
      CommandRows.transformCommand formatMilliLitre command ingredientStore =
        some row) commands rows) :
    rows.map CommandRows.CommandRow.id = commandIds commands := by
  induction shown with
  | nil => rfl
  | cons head rest ih =>
      rw [List.map_cons, ih, commandIds, commandIds, List.filterMap_cons_some
        (CommandRows.transformCommand_row head).1]

/-- Whatever was in the files, every command of a recipe that is offered has a
row on the screen, however the recipe is scaled and boosted, and the ids of the
rows count from one. -/
theorem loaded_recipe_shown (formatMilliLitre : Int → String)
    (ended : init errorMessage codec dbDir storage = .ended application thrown)
    {recipe : Recipe} (offered : recipe ∈ application.recipeStore.recipes)
    {commands : Commands}
    (derived : CommandRows.Derived application.ingredientStore recipe.commands
      commands) :
    List.Forall₂ (fun command row =>
        CommandRows.transformCommand formatMilliLitre command
          application.ingredientStore = some row) commands.leaves
        (CommandRows.transform formatMilliLitre commands
          application.ingredientStore) ∧
      (CommandRows.transform formatMilliLitre commands
        application.ingredientStore).map CommandRows.CommandRow.id =
          consecutive 1 commands.leaves.length := by
  rcases init_cases ended with ⟨_, noRecipe, _⟩ |
    ⟨_, recipes, loaded, isLoaded⟩
  · rw [noRecipe] at offered
    cases offered
  · obtain ⟨entry, doc, -, parsed⟩ := exists_file_of_mem
      (readFrom_of_loadRecipesFromDir loaded) (isLoaded ▸ offered)
    obtain ⟨-, stored, knownParsed⟩ :=
      assignUniqueCommandIds_of_parseRecipe parsed
    have same := derived.sameSteps.leaves
    have known := known_of_forall₂ same knownParsed
    have rows := forall₂_rows known formatMilliLitre
    rw [CommandRows.transform_eq]
    have sameIds := ids_of_rows rows
    have counted :
        (commandIds commands.leaves).length = commands.leaves.length := by
      rw [← sameIds, List.length_map, rows.length_eq]
    have ids := commandIds_assignUniqueCommandIds recipe
    rw [stored, SameStep.commandIds_eq same, counted] at ids
    exact ⟨rows, sameIds.trans ids⟩

theorem loaded_recipe_shown_daiquiri : ∃ application recipe,
    init (fun _ => "") JsonToken.codec "db" daiquiriStorage =
        .ended application none ∧
      recipe ∈ application.recipeStore.recipes ∧
      (CommandRows.transform (fun _ => "") recipe.commands
        application.ingredientStore).map CommandRows.CommandRow.id =
          consecutive 1 2 := by
  have ended : init (fun _ => "") JsonToken.codec "db" daiquiriStorage =
      .ended _ none := rfl
  exact ⟨_, _, ended, List.mem_cons_self,
    (loaded_recipe_shown (fun _ => "") ended List.mem_cons_self .stored).2⟩

end Results

end ApplicationInit

end CocktailMaker
