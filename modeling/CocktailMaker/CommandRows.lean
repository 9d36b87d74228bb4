import CocktailMaker.CommandIds
import CocktailMaker.ExecuteRecipe
import CocktailMaker.KeyedRows

/-!
# The list of commands on the screen

`transform` flattens the commands of a recipe to a list of rows and leaves out
what it cannot show.  While the recipe is processed, `update_command_status`
looks for the first row with the id of a command and changes its status.
-/

namespace CocktailMaker

namespace CommandRows

/-- The enumeration `CommandStatus` of the user interface. -/
inductive RowStatus
  | notStarted
  | inProgress
  | finished
  deriving DecidableEq

/-- The structure `Command` of the user interface. -/
structure CommandRow where
  id : CommandId
  status : RowStatus
  text : String
  value : String := ""
  deriving DecidableEq

/-- `value_cast<std::int32_t>` drops the fraction. -/
def toInt32 (value : Rat) : Int :=
  value.num.tdiv value.den

section Transformation

variable (formatMilliLitre : Int → String)

/-- `formatMilliLitre` formats a quantity of millilitres. -/
def transformCommand (command : Command) (store : IngredientStore) :
    Option CommandRow :=
  match command with
  | .manual command =>
      some
        { id := command.id
          status := .notStarted
          text := command.instruction }
  | .dispense command =>
      match store.findById command.ingredient with
      | none => none
      | some ingredient =>
          let volume :=
            formatMilliLitre (toInt32 (Litre.inMilliLitre command.volume))
          some
            { id := command.id
              status := .notStarted
              text := ingredient.displayName
              value := volume }
  | .monostate => none

def pushIfValid (store : IngredientStore) (model : List CommandRow)
    (command : Command) : List CommandRow :=
  match transformCommand formatMilliLitre command store with
  | some transformed => model ++ [transformed]
  | none => model

def transform (commands : Commands) (store : IngredientStore) :
    List CommandRow :=
  commands.foldl (fun model item =>
    match item with
    | .single command => pushIfValid formatMilliLitre store model command
    | .parallel commands =>
        commands.foldl (pushIfValid formatMilliLitre store) model) []

variable {formatMilliLitre}

theorem transformCommand_row {command : Command} {store : IngredientStore}
    {row : CommandRow}
    (shown : transformCommand formatMilliLitre command store = some row) :
    command.id? = some row.id ∧ row.status = .notStarted := by
  cases command with
  | monostate => cases shown
  | manual command =>
      injection shown with shown
      subst shown
      exact ⟨rfl, rfl⟩
  | dispense command =>
      simp only [transformCommand] at shown
      cases found : store.findById command.ingredient with
      | none => simp [found] at shown
      | some ingredient =>
          simp only [found, Option.some.injEq] at shown
          subst shown
          exact ⟨rfl, rfl⟩

variable (formatMilliLitre)

theorem foldl_pushIfValid (store : IngredientStore) (commands : List Command)
    (model : List CommandRow) :
    commands.foldl (pushIfValid formatMilliLitre store) model =
      model ++ commands.filterMap fun command =>
        transformCommand formatMilliLitre command store := by
  induction commands generalizing model with
  | nil => simp
  | cons command commands ih =>
      rw [List.foldl_cons, ih, List.filterMap_cons, pushIfValid]
      cases transformCommand formatMilliLitre command store <;> simp

/-- The rows are those of the commands that can be shown, in order. -/
theorem transform_eq (commands : Commands) (store : IngredientStore) :
    transform formatMilliLitre commands store =
      commands.leaves.filterMap fun command =>
        transformCommand formatMilliLitre command store := by
  have folded : transform formatMilliLitre commands store =
      foldCommands commands [] (pushIfValid formatMilliLitre store) := by
    refine congrArg (fun step => List.foldl step [] commands) ?_
    funext model item
    cases item <;> rfl
  rw [folded, foldCommands_eq, foldl_pushIfValid, List.nil_append]

theorem ids_transform_sublist (commands : Commands)
    (store : IngredientStore) :
    ((transform formatMilliLitre commands store).map CommandRow.id).Sublist
      (commandIds commands.leaves) := by
  rw [transform_eq]
  induction commands.leaves with
  | nil => exact .slnil
  | cons command commands ih =>
      simp only [List.filterMap_cons, commandIds] at ih ⊢
      cases shown : transformCommand formatMilliLitre command store with
      | none =>
          cases command.id? with
          | none => exact ih
          | some id => exact ih.cons id
      | some row =>
          simp only [(transformCommand_row shown).1, List.map_cons]
          exact ih.cons_cons row.id

end Transformation

section Updates

/-- The status of the row for the status of the command. -/
def uiStatus : CommandStatus → RowStatus
  | .unknown => .notStarted
  | .inProgress => .inProgress
  | .finished => .finished

def updateCommandStatus (id : CommandId) (status : CommandStatus) :
    List CommandRow → List CommandRow
  | [] => []
  | row :: rows =>
      if row.id = id then { row with status := uiStatus status } :: rows
      else row :: updateCommandStatus id status rows

/-- Perform updates in order. -/
def performUpdates (updates : List (CommandId × CommandStatus))
    (rows : List CommandRow) : List CommandRow :=
  updates.foldl
    (fun rows (id, status) => updateCommandStatus id status rows) rows

/-- The row as `transform` makes it. -/
def CommandRow.initial (row : CommandRow) : CommandRow :=
  { row with status := .notStarted }

theorem CommandRow.id_comp_initial :
    CommandRow.id ∘ CommandRow.initial = CommandRow.id :=
  rfl

@[simp]
theorem map_initial_updateCommandStatus (id : CommandId)
    (status : CommandStatus) (rows : List CommandRow) :
    (updateCommandStatus id status rows).map CommandRow.initial =
      rows.map CommandRow.initial := by
  induction rows with
  | nil => rfl
  | cons row rows ih =>
      unfold updateCommandStatus
      split
      case isTrue same => rfl
      case isFalse other => rw [List.map_cons, List.map_cons, ih]

theorem map_initial_performUpdates
    (updates : List (CommandId × CommandStatus)) (rows : List CommandRow) :
    (performUpdates updates rows).map CommandRow.initial =
      rows.map CommandRow.initial := by
  unfold performUpdates
  induction updates generalizing rows with
  | nil => rfl
  | cons update updates ih =>
      rw [List.foldl_cons, ih, map_initial_updateCommandStatus]

/-- When the ids differ, the search for the first row finds the only one. -/
theorem updateCommandStatus_eq_map {rows : List CommandRow}
    (distinct : (rows.map CommandRow.id).Nodup) (id : CommandId)
    (status : CommandStatus) :
    updateCommandStatus id status rows =
      rows.map fun row =>
        if row.id = id then { row with status := uiStatus status }
        else row := by
  induction rows with
  | nil => rfl
  | cons row rows ih =>
      obtain ⟨notLater, distinctRest⟩ := List.nodup_cons.mp distinct
      unfold updateCommandStatus
      split
      case isTrue same =>
        have unchanged : ∀ other ∈ rows,
            (if other.id = id then { other with status := uiStatus status }
              else other) = other := by
          intro other member
          refine if_neg fun sameLater => notLater ?_
          exact List.mem_map.mpr ⟨other, member, sameLater.trans same.symm⟩
        rw [List.map_cons, if_pos same, List.map_congr_left unchanged,
          List.map_id']
      case isFalse other =>
        rw [List.map_cons, if_neg other, ih distinctRest]

end Updates

section MainResult

variable (formatMilliLitre : Int → String) (store : IngredientStore)

/-- The trees that scaling and boosting make of a recipe, in any order. -/
inductive Derived (recipe : Commands) : Commands → Prop
  | stored : Derived recipe recipe
  | scaled {commands scaled : Commands} (derived : Derived recipe commands)
      (nominalServingVolume targetVolume : Litre)
      (returned :
        scaleRecipe commands nominalServingVolume targetVolume = .ok scaled) :
      Derived recipe scaled
  | boosted {commands boosted : Commands} (derived : Derived recipe commands)
      (boostPct : Percent)
      (returned : boostRecipe commands boostPct store = .ok boosted) :
      Derived recipe boosted

/-- Whatever the rows have shown before, the next update changes the status of
the row of the command with the id, and no other row. -/
def UpdatesOneRow (commands : Commands) : Prop :=
  ∀ (updates : List (CommandId × CommandStatus)) (id : CommandId)
    (status : CommandStatus),
    let rows :=
      performUpdates updates (transform formatMilliLitre commands store)
    let updated := updateCommandStatus id status rows
    updated.length = rows.length ∧
      ∀ (position : Nat) (row : CommandRow), rows[position]? = some row →
        (∃ command ∈ commands.leaves, command.id? = some row.id ∧
          transformCommand formatMilliLitre command store =
            some row.initial) ∧
        (row.id ≠ id → updated[position]? = some row) ∧
        (row.id = id →
          updated[position]? = some { row with status := uiStatus status } ∧
          ∀ (other : Nat) (otherRow : CommandRow),
            rows[other]? = some otherRow → otherRow.id = id →
              other = position)

variable {store}

theorem Derived.sameSteps {recipe commands : Commands}
    (derived : Derived store recipe commands) :
    Commands.Related SameStep recipe commands := by
  induction derived with
  | stored => exact Commands.sameSteps_refl recipe
  | scaled derived nominalServingVolume targetVolume returned ih =>
      exact ih.trans (sameSteps_of_scaleRecipe returned)
        fun _ _ _ before after => before.trans after
  | boosted derived boostPct returned ih =>
      exact ih.trans (sameSteps_of_boostRecipe returned)
        fun _ _ _ before after => before.trans after

variable (store)

theorem command_of_row {commands : Commands} {rows : List CommandRow}
    (initially : rows.map CommandRow.initial =
      (transform formatMilliLitre commands store).map CommandRow.initial)
    {row : CommandRow} (member : row ∈ rows) :
    ∃ command ∈ commands.leaves, command.id? = some row.id ∧
      transformCommand formatMilliLitre command store = some row.initial := by
  have shown : row.initial ∈
      (transform formatMilliLitre commands store).map CommandRow.initial :=
    initially ▸ List.mem_map_of_mem member
  rw [transform_eq] at shown
  obtain ⟨first, transformed, sameRow⟩ := List.mem_map.mp shown
  obtain ⟨command, inRecipe, shownAs⟩ := List.mem_filterMap.mp transformed
  obtain ⟨sameId, notStarted⟩ := transformCommand_row shownAs
  have initial : first.initial = first := by
    rw [CommandRow.initial, ← notStarted]
  rw [initial] at sameRow
  subst sameRow
  exact ⟨command, inRecipe, sameId, shownAs⟩

theorem updatesOneRow_of_nodup {commands : Commands}
    (distinct : (commandIds commands.leaves).Nodup) :
    UpdatesOneRow formatMilliLitre store commands := by
  intro updates id status rows updated
  have initially : rows.map CommandRow.initial =
      (transform formatMilliLitre commands store).map CommandRow.initial :=
    map_initial_performUpdates updates _
  have sameIds : rows.map CommandRow.id =
      (transform formatMilliLitre commands store).map CommandRow.id := by
    simpa only [List.map_map, CommandRow.id_comp_initial] using
      congrArg (List.map CommandRow.id) initially
  have distinctRows : (rows.map CommandRow.id).Nodup :=
    sameIds ▸ (ids_transform_sublist formatMilliLitre commands store).nodup
      distinct
  have mapped := updateCommandStatus_eq_map distinctRows id status
  refine ⟨by simp only [updated, mapped, List.length_map], ?_⟩
  intro position row found
  have updatedRow : updated[position]? =
      some (if row.id = id then { row with status := uiStatus status }
        else row) := by
    simp only [updated, mapped, List.getElem?_map, found, Option.map_some]
  refine ⟨?_, ?_, ?_⟩
  · exact command_of_row formatMilliLitre store initially
      (List.mem_of_getElem? found)
  · intro differs
    rwa [if_neg differs] at updatedRow
  · intro same
    rw [if_pos same] at updatedRow
    refine ⟨updatedRow, fun other otherRow otherFound sameOther => ?_⟩
    exact KeyedRows.index_eq_of_key_eq distinctRows otherFound found
      (sameOther.trans same.symm)

/-- Command ids identify the steps of a recipe in the store, in every tree
that scaling and boosting make of it, and in the list on the screen. -/
theorem commandIds_identify_steps (before : RecipeStore)
    (recipes : List Recipe) :
    (∃ stored, (before.initRecipes recipes).recipes =
        before.recipes ++ stored ∧
      List.Forall₂ (fun given kept : Recipe =>
        Commands.Related Renumbered given.commands kept.commands ∧
        commandIds kept.commands.leaves =
          consecutive 1 (commandIds given.commands.leaves).length ∧
        (commandIds kept.commands.leaves).Nodup ∧
        ∀ shown, Derived store kept.commands shown →
          Commands.Related SameStep kept.commands shown ∧
          UpdatesOneRow formatMilliLitre store shown) recipes stored) ∧
    (∀ commands nominalServingVolume targetVolume,
      0 < nominalServingVolume → 0 ≤ targetVolume →
      ∃ scaled,
        scaleRecipe commands nominalServingVolume targetVolume = .ok scaled ∧
        Commands.Related SameStep commands scaled) ∧
    (∀ commands boostPct, |boostPct| ≤ 100 →
      ∃ boosted, boostRecipe commands boostPct store = .ok boosted ∧
        Commands.Related SameStep commands boosted) := by
  refine ⟨⟨recipes.map assignUniqueCommandIds,
    before.recipes_initRecipes recipes, ?_⟩, ?_, ?_⟩
  · refine List.forall₂_map_right_iff.mpr
      (List.forall₂_same.mpr fun recipe _ => ?_)
    have ids := commandIds_assignUniqueCommandIds recipe
    have distinct :
        (commandIds (assignUniqueCommandIds recipe).commands.leaves).Nodup :=
      ids ▸ consecutive_nodup 1 _
    refine ⟨renumbered_assignUniqueCommandIds recipe, ids, distinct,
      fun shown derived => ?_⟩
    have same := derived.sameSteps
    refine ⟨same, updatesOneRow_of_nodup formatMilliLitre store ?_⟩
    exact SameStep.commandIds_eq same.leaves ▸ distinct
  · intro commands nominalServingVolume targetVolume positive nonnegative
    have returned := scaleRecipe_eq commands positive nonnegative
    exact ⟨_, returned, sameSteps_of_scaleRecipe returned⟩
  · intro commands boostPct inRange
    have returned := boostRecipe_eq commands inRange store
    exact ⟨_, returned, sameSteps_of_boostRecipe returned⟩

end MainResult

end CommandRows

end CocktailMaker
