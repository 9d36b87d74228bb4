import CocktailMaker.ConsecutiveRecipes
import CocktailMaker.MixProgress

/-!
# What becomes of recipes that follow each other

A recipe that is processed ends with every command executed, with the error of
one of its commands, or stopped after it was told to.  Every recipe but the
last has been told to stop, and what is queued to a Pod is a command of the
recipe it is queued for.
-/

namespace CocktailMaker

namespace RecipeOutcome

variable {Error : Type*}

section Recipes

/-- Nobody is woken by a flag that is not set. -/
def SetWhenWoken (flag : AwaitableBool) : Prop :=
  flag.wait = .woken ∨ flag.Satisfied → flag.value = true

theorem setWhenWoken_startWait (flag : AwaitableBool) (stopRequested : Bool) :
    SetWhenWoken (flag.startWait stopRequested) := by
  obtain ⟨value, wait⟩ := flag
  cases value <;> cases stopRequested <;>
    simp [SetWhenWoken, AwaitableBool.startWait, AwaitableBool.Satisfied]

theorem setWhenWoken_stopWait {flag : AwaitableBool}
    (setWhenWoken : SetWhenWoken flag) : SetWhenWoken flag.stopWait := by
  obtain ⟨value, wait⟩ := flag
  cases wait <;>
    simp_all [SetWhenWoken, AwaitableBool.stopWait, AwaitableBool.Satisfied]

/-- The invariant of a recipe that is processed: it is stopped only after an
abort, and its processing has completed as its commands have. -/
structure Sound (task : RecipeTask Error) : Prop where
  consistent : task.Consistent
  woken : SetWhenWoken task.mix.abort
  processed : ∀ completion, task.mix.processed = some completion →
    task.mix.executing.outcome = some completion
  stopped : task.mix.processed = some .stopped → task.mix.abort.value = true

variable {task next : RecipeTask Error} {delivery : Option Delivery}
  {mix : RecipeRun Error} {event : RecipeRun.Event Error}

theorem sound_initial (commands : Commands) :
    Sound (.initial commands : RecipeTask Error) where
  consistent := RecipeTask.consistent_initial commands
  woken := by simp [RecipeTask.initial, RecipeRun.initial, SetWhenWoken,
    AwaitableBool.Satisfied]
  processed := by simp [RecipeTask.initial, RecipeRun.initial]
  stopped := by simp [RecipeTask.initial, RecipeRun.initial]

theorem Sound.setAbort (sound : Sound task) : Sound task.setAbort where
  consistent := (RecipeTask.goesOn_setAbort sound.consistent).consistent
  woken _ := rfl
  processed := sound.processed
  stopped _ := rfl

@[simp]
theorem abort_abortReaches : mix.abortReaches.abort = mix.abort := by
  unfold RecipeRun.abortReaches
  split <;> rfl

theorem commands_abortReaches
    (consistent : ExecuteCommands.Consistent mix.executing) :
    mix.abortReaches.executing.commands = mix.executing.commands := by
  unfold RecipeRun.abortReaches
  split
  · rfl
  · dsimp only
    cases stepped : mix.executing.step .requestStop with
    | none => rfl
    | some stopped =>
        exact (ExecuteCommands.consistent_step consistent stepped).2.1

theorem commands_step (consistent : RecipeRun.Consistent task.mix)
    (stepped : task.mix.step event = some mix) :
    mix.executing.commands = task.mix.executing.commands := by
  cases event with
  | execute event =>
      obtain ⟨_, executing, isStep, rfl⟩ := RecipeRun.step_execute stepped
      exact (ExecuteCommands.consistent_step consistent.executing isStep).2.1
  | startWait =>
      obtain ⟨_, flag, ⟨_, rfl⟩ | ⟨_, rfl⟩⟩ := RecipeRun.step_startWait stepped
      · exact commands_abortReaches consistent.executing
      · rfl
  | abort =>
      cases stepped
      rfl
  | wake =>
      obtain ⟨flag, _, rfl⟩ := RecipeRun.step_wake stepped
      exact commands_abortReaches consistent.executing
  | processed =>
      obtain ⟨completion, _, _, rfl⟩ := RecipeRun.step_processed stepped
      rw [RecipeRun.executing_process]
  | finish =>
      obtain ⟨_, rfl⟩ := RecipeRun.step_finish stepped
      rfl

theorem abort_process (completion : Completion Error) :
    (mix.process completion).abort = mix.abort ∨
      (mix.process completion).abort = mix.abort.stopWait := by
  unfold RecipeRun.process
  split
  · exact .inl rfl
  · exact .inr rfl

theorem abort_step (notAbort : event ≠ .abort)
    (woken : SetWhenWoken task.mix.abort)
    (stepped : task.mix.step event = some mix) :
    mix.abort.value = task.mix.abort.value ∧ SetWhenWoken mix.abort := by
  cases event with
  | execute event =>
      obtain ⟨_, executing, _, rfl⟩ := RecipeRun.step_execute stepped
      exact ⟨rfl, woken⟩
  | startWait =>
      simp only [RecipeRun.step, Option.ite_none_right_eq_some] at stepped
      obtain ⟨_, stepped⟩ := stepped
      have isFlag : mix.abort =
          task.mix.abort.startWait task.mix.result.isSome := by
        split at stepped <;> cases stepped
        · exact abort_abortReaches
        · rfl
      rw [isFlag]
      exact ⟨rfl, setWhenWoken_startWait _ _⟩
  | abort => exact absurd rfl notAbort
  | wake =>
      simp only [RecipeRun.step, Option.ite_none_right_eq_some] at stepped
      obtain ⟨isWoken, stepped⟩ := stepped
      cases stepped
      rw [abort_abortReaches]
      exact ⟨rfl, fun _ => woken (.inl isWoken)⟩
  | processed =>
      obtain ⟨completion, _, _, rfl⟩ := RecipeRun.step_processed stepped
      rcases abort_process completion with same | stopped
      · rw [same]
        exact ⟨rfl, woken⟩
      · rw [stopped]
        exact ⟨rfl, setWhenWoken_stopWait woken⟩
  | finish =>
      obtain ⟨_, rfl⟩ := RecipeRun.step_finish stepped
      exact ⟨rfl, woken⟩

theorem Sound.turn (sound : Sound task) (notAbort : event ≠ .abort)
    (stepped : task.mix.step event = some mix) :
    Sound { task with mix } where
  consistent := (RecipeTask.goesOn_mix sound.consistent stepped).consistent
  woken := (abort_step notAbort sound.woken stepped).2
  processed completion isProcessed := by
    by_cases processes : event = .processed
    · subst processes
      obtain ⟨isCompletion, completed, unprocessed, rfl⟩ :=
        RecipeRun.step_processed stepped
      have same := (RecipeRun.process_result sound.consistent.mix unprocessed
        completed).1.symm.trans isProcessed
      rw [RecipeRun.executing_process, completed, same]
    · rw [RecipeRun.processed_step processes stepped] at isProcessed
      have completed := sound.processed completion isProcessed
      rw [RecipeRun.executing_step (by simp [completed]) stepped]
      exact completed
  stopped isProcessed := by
    rw [(abort_step notAbort sound.woken stepped).1]
    by_cases processes : event = .processed
    · subst processes
      obtain ⟨completion, completed, unprocessed, rfl⟩ :=
        RecipeRun.step_processed stepped
      have same := (RecipeRun.process_result sound.consistent.mix unprocessed
        completed).1.symm.trans isProcessed
      obtain rfl := Option.some.inj same
      exact sound.woken (.inr (RecipeRun.satisfied_of_stopped
        sound.consistent.mix unprocessed completed))
    · rw [RecipeRun.processed_step processes stepped] at isProcessed
      exact sound.stopped isProcessed

/-- What a turn does to a recipe. -/
structure Turned (task next : RecipeTask Error) : Prop where
  sound : Sound next
  value : next.mix.abort.value = task.mix.abort.value
  commands : next.mix.executing.commands = task.mix.executing.commands
  stays : ∀ completion, task.mix.processed = some completion →
    next.mix.processed = some completion

theorem turned_step (sound : Sound task) {event : RecipeTask.Event Error}
    (stepped : task.step event = some (next, delivery)) : Turned task next := by
  have goesOn := RecipeTask.goesOn_step sound.consistent stepped
  cases event with
  | proceed event =>
      have notAbort : event ≠ .abort := by
        rintro rfl
        cases stepped
      obtain ⟨_, mix, isStep, rfl⟩ := RecipeTask.step_proceed stepped
      exact ⟨sound.turn notAbort isStep,
        (abort_step notAbort sound.woken isStep).1,
        commands_step sound.consistent.mix isStep,
        fun _ isProcessed => RecipeRun.processed_stays isProcessed isStep⟩
  | queueCommand member pod =>
      obtain ⟨rfl, _⟩ := RecipeTask.step_queueCommand stepped
      exact ⟨sound, rfl, rfl, fun _ => id⟩
  | beginSafeState pods =>
      obtain ⟨_, _, _, _, rfl⟩ := RecipeTask.step_beginSafeState stepped
      exact ⟨⟨goesOn.consistent, sound.woken, sound.processed, sound.stopped⟩,
        rfl, rfl, fun _ => id⟩
  | commandPod pod accepted =>
      obtain ⟨_, _, _, rfl, _⟩ := RecipeTask.step_commandPod stepped
      exact ⟨⟨goesOn.consistent, sound.woken, sound.processed, sound.stopped⟩,
        rfl, rfl, fun _ => id⟩

/-- Every command has been executed. -/
def AllExecuted (executing : ExecuteCommands Error) : Prop :=
  ∀ position command, commandAt executing.commands position = some command →
    command.id? ≠ none → ⟨position, .executed .value⟩ ∈ executing.trace

/-- A command has failed with the error. -/
def FailedWith (executing : ExecuteCommands Error) (error : Error) :
    Prop :=
  ∃ position command,
    commandAt executing.commands position = some command ∧
      ⟨position, .executed (.error error)⟩ ∈ executing.trace

theorem Sound.allExecuted (sound : Sound task)
    (succeeded : task.mix.processed = some .value) :
    AllExecuted task.mix.executing := by
  have consistent := sound.consistent.mix.executing
  have through := (consistent.ended .value
    (sound.processed .value succeeded)).value rfl |>.1
  intro position command found hasId
  obtain ⟨id, hasId⟩ := Option.ne_none_iff_exists'.mp hasId
  have isBehind : position.item < task.mix.executing.item := by
    by_contra ahead
    rw [List.getElem?_eq_none_iff] at through
    have nothing := List.getElem?_eq_none
      (through.trans (Nat.not_lt.mp ahead))
    rw [commandAt, nothing] at found
    cases found
  exact (consistent.traced.through isBehind found hasId).1

theorem Sound.failedWith (sound : Sound task) {error : Error}
    (failed : task.mix.processed = some (.error error)) :
    FailedWith task.mix.executing error := by
  have consistent := sound.consistent.mix.executing
  have first := (consistent.ended (.error error)
    (sound.processed _ failed)).error error rfl
  have isThrown := List.mem_of_head? first
  simp only [thrown, List.mem_filterMap] at isThrown
  obtain ⟨⟨position, call⟩, member, isError⟩ := isThrown
  have isCall : call = .executed (.error error) := by
    split at isError
    · next same =>
        cases isError
        cases same
        rfl
    · cases isError
  subst isCall
  obtain ⟨before, after, split⟩ := List.append_of_mem member
  obtain ⟨command, found, -⟩ := consistent.traced.split_callsAt split
  exact ⟨position, command, found, member⟩

end Recipes

section Processing

def commandsOf (bridge : ProcessContextBridge Error) : List Commands :=
  bridge.recipes.map fun task => task.mix.executing.commands

/-- Every recipe but the last has been told to stop, and so has the last one
when there is no active recipe. -/
structure Supervised (bridge : ProcessContextBridge Error) : Prop where
  sound : ∀ task ∈ bridge.recipes, Sound task
  aborted : ∀ number, bridge.activeRecipeAbort ≠ some number →
    ∀ task ∈ bridge.recipes[number]?, task.mix.abort.value = true
  active : ∀ number ∈ bridge.activeRecipeAbort,
    number + 1 = bridge.recipes.length ∧
      ∀ task ∈ bridge.recipes[number]?, task.mix.abort.value = false
  dispensed : ∀ queued ∈ bridge.queued, ∀ command,
    queued.delivery.order = .dispense command →
      ∃ commands ∈ (commandsOf bridge)[queued.recipe]?,
        .dispense command ∈ commands.leaves

variable {bridge : ProcessContextBridge Error}

theorem supervised_initial :
    Supervised (.initial : ProcessContextBridge Error) where
  sound := by simp [ProcessContextBridge.initial]
  aborted := by simp [ProcessContextBridge.initial]
  active := by simp [ProcessContextBridge.initial]
  dispensed := by simp [ProcessContextBridge.initial]

theorem activeRecipeAbort_abortActiveRecipe :
    bridge.abortActiveRecipe.activeRecipeAbort = none := by
  unfold ProcessContextBridge.abortActiveRecipe
  split
  · assumption
  · rfl

theorem queued_abortActiveRecipe :
    bridge.abortActiveRecipe.queued = bridge.queued := by
  unfold ProcessContextBridge.abortActiveRecipe
  split <;> rfl

theorem getElem?_abortActiveRecipe (number : Nat) :
    bridge.abortActiveRecipe.recipes[number]? =
      bridge.recipes[number]?.map fun task =>
        if bridge.activeRecipeAbort = some number then task.setAbort
        else task := by
  unfold ProcessContextBridge.abortActiveRecipe
  split
  · next isNone => simp [isNone]
  · next active isActive =>
      rw [List.getElem?_modify, isActive]
      simp only [Option.some.injEq]
      rfl

theorem commandsOf_abortActiveRecipe :
    commandsOf bridge.abortActiveRecipe = commandsOf bridge := by
  apply List.ext_getElem?
  intro number
  simp only [commandsOf, List.getElem?_map, getElem?_abortActiveRecipe,
    Option.map_map]
  congr 1
  funext task
  simp only [Function.comp_apply]
  split <;> rfl

theorem Supervised.abortActiveRecipe (supervised : Supervised bridge) :
    Supervised bridge.abortActiveRecipe where
  sound task isRecipe := by
    obtain ⟨number, isTask⟩ := List.mem_iff_getElem?.mp isRecipe
    rw [getElem?_abortActiveRecipe, Option.map_eq_some_iff] at isTask
    obtain ⟨before, isBefore, rfl⟩ := isTask
    have sound := supervised.sound before (List.mem_of_getElem? isBefore)
    split
    · exact sound.setAbort
    · exact sound
  aborted number _ task isTask := by
    rw [Option.mem_def, getElem?_abortActiveRecipe,
      Option.map_eq_some_iff] at isTask
    obtain ⟨before, isBefore, rfl⟩ := isTask
    split
    · rfl
    · next notActive => exact supervised.aborted number notActive before isBefore
  active number isActive := by
    rw [activeRecipeAbort_abortActiveRecipe] at isActive
    cases isActive
  dispensed := by
    rw [queued_abortActiveRecipe, commandsOf_abortActiveRecipe]
    exact supervised.dispensed

theorem commandsOf_startRecipeProcessing (commands : Commands) :
    commandsOf (bridge.startRecipeProcessing commands) =
      commandsOf bridge ++ [commands] := by
  have appended : commandsOf (bridge.startRecipeProcessing commands) =
      commandsOf bridge.abortActiveRecipe ++ [commands] := List.map_append
  rw [appended, commandsOf_abortActiveRecipe]

theorem Supervised.startRecipeProcessing (supervised : Supervised bridge)
    (commands : Commands) :
    Supervised (bridge.startRecipeProcessing commands) := by
  have aborted := supervised.abortActiveRecipe
  constructor
  · intro task isRecipe
    rcases List.mem_append.mp isRecipe with isOld | isNew
    · exact aborted.sound task isOld
    · rw [List.mem_singleton.mp isNew]
      exact sound_initial commands
  · intro number notActive task isTask
    have notLast : number ≠ bridge.abortActiveRecipe.recipes.length :=
      fun isLast => notActive (congrArg some isLast.symm)
    simp only [ProcessContextBridge.startRecipeProcessing,
      Option.mem_def] at isTask
    have inside := (List.getElem?_eq_some_iff.mp isTask).1
    rw [List.length_append, List.length_singleton] at inside
    rw [List.getElem?_append_left (by omega)] at isTask
    refine aborted.aborted number ?_ task isTask
    rw [activeRecipeAbort_abortActiveRecipe]
    nofun
  · intro number isActive
    obtain rfl := Option.some.inj isActive
    refine ⟨?_, fun task isTask => ?_⟩
    · simp [ProcessContextBridge.startRecipeProcessing]
    · simp only [ProcessContextBridge.startRecipeProcessing, Option.mem_def,
        List.getElem?_append_right (le_refl _), Nat.sub_self] at isTask
      cases isTask
      rfl
  · intro queued isQueued command isDispense
    rw [commandsOf_startRecipeProcessing]
    obtain ⟨ordered, isOrdered, member⟩ :=
      aborted.dispensed queued isQueued command isDispense
    rw [commandsOf_abortActiveRecipe] at isOrdered
    have inside := (List.getElem?_eq_some_iff.mp isOrdered).1
    refine ⟨ordered, ?_, member⟩
    rwa [List.getElem?_append_left inside]

theorem mem_leaves_of_commandAt {commands : Commands} {position : Position}
    {command : Command} (found : commandAt commands position = some command) :
    command ∈ commands.leaves := by
  rw [← MixProgress.map_snd_places]
  exact List.mem_map_of_mem (MixProgress.mem_places.mpr found)

/-- Only a command of the recipe is queued to a Pod. -/
theorem mem_leaves_of_queued {task next : RecipeTask Error}
    {event : RecipeTask.Event Error} {delivery : Delivery}
    {command : DispenseCommand}
    (stepped : task.step event = some (next, some delivery))
    (isDispense : delivery.order = .dispense command) :
    .dispense command ∈ task.mix.executing.commands.leaves := by
  obtain ⟨member, pod, rfl⟩ := RecipeTask.queueCommand_of_command stepped
    (by simp [isDispense])
  simp only [RecipeTask.step] at stepped
  split at stepped
  · next other isExecuting =>
      cases stepped
      cases isDispense
      unfold RecipeTask.executing at isExecuting
      split at isExecuting
      · exact mem_leaves_of_commandAt isExecuting
      · cases isExecuting
  · cases stepped

section Turn

variable {number : Nat} {task next : RecipeTask Error}
  {delivery : Option Delivery}

theorem commandsOf_afterTurn (isTask : bridge.recipes[number]? = some task)
    (turned : Turned task next) :
    commandsOf (bridge.afterTurn number next delivery) = commandsOf bridge := by
  apply List.ext_getElem?
  intro other
  simp only [commandsOf, ProcessContextBridge.afterTurn, List.getElem?_map]
  by_cases same : number = other
  · subst same
    have inside := (List.getElem?_eq_some_iff.mp isTask).1
    simp only [List.getElem?_set_self inside, isTask, Option.map_some,
      turned.commands]
  · rw [List.getElem?_set_ne same]

theorem Supervised.turn (supervised : Supervised bridge)
    (isTask : bridge.recipes[number]? = some task) (turned : Turned task next)
    (ordered : ∀ queued ∈ delivery, ∀ command,
      queued.order = .dispense command →
        .dispense command ∈ task.mix.executing.commands.leaves) :
    Supervised (bridge.afterTurn number next delivery) := by
  have inside := (List.getElem?_eq_some_iff.mp isTask).1
  -- Every recipe has the flag that a recipe has had before.
  have sameValue : ∀ (other : Nat) (changed : RecipeTask Error),
      (bridge.recipes.set number next)[other]? = some changed →
        ∃ before, bridge.recipes[other]? = some before ∧
          changed.mix.abort.value = before.mix.abort.value := by
    intro other changed isChanged
    by_cases same : number = other
    · subst same
      rw [List.getElem?_set_self inside, Option.some.injEq] at isChanged
      exact ⟨task, isTask, isChanged ▸ turned.value⟩
    · rw [List.getElem?_set_ne same] at isChanged
      exact ⟨changed, isChanged, rfl⟩
  constructor
  · intro changed isRecipe
    rcases List.mem_or_eq_of_mem_set isRecipe with isOld | rfl
    · exact supervised.sound changed isOld
    · exact turned.sound
  · intro other notActive changed isChanged
    obtain ⟨before, isBefore, value⟩ := sameValue other changed isChanged
    rw [value]
    exact supervised.aborted other notActive before isBefore
  · intro other isActive
    obtain ⟨isLast, unset⟩ := supervised.active other isActive
    refine ⟨isLast.trans List.length_set.symm, fun changed isChanged => ?_⟩
    obtain ⟨before, isBefore, value⟩ := sameValue other changed isChanged
    rw [value]
    exact unset before isBefore
  · intro queued isQueued command isDispense
    rw [commandsOf_afterTurn isTask turned]
    rcases List.mem_append.mp isQueued with isOld | isNew
    · exact supervised.dispensed queued isOld command isDispense
    · simp only [Option.mem_toList, Option.map_eq_some_iff] at isNew
      obtain ⟨made, isMade, rfl⟩ := isNew
      refine ⟨task.mix.executing.commands, ?_,
        ordered made isMade command isDispense⟩
      simp [commandsOf, isTask]

end Turn

end Processing

end RecipeOutcome

end CocktailMaker
