import CocktailMaker.PodMessage
import CocktailMaker.RecipeProcessing

/-!
# Recipes that follow each other

`start_recipe_processing` sets the abort flag of the recipe that is processed
and spawns the processing of the next one, without waiting for anything.  The
first recipe is stopped in turns of its own, and so is the safe-state command
that follows.  This file lets any number of recipes proceed in any order of
their turns and records what they queue to the Pods.  A recipe does not reach
into a later one when every recipe that queues a command finds the recipes
before it settled; nothing in the code waits for that.
-/

namespace CocktailMaker

open LabelledRun

/-- What a recipe has a Pod do.  A request to dispense is known by the command
that it is made for: it is for the volume of the command or, after a refill,
for the rest of it. -/
inductive PodOrder
  | dispense (command : DispenseCommand)
  | emergencyStop
  deriving DecidableEq

/-- A message that is queued to a Pod. -/
structure Delivery where
  pod : PodId
  order : PodOrder
  deriving DecidableEq

/-- `force_safe_state_all_pods`, with the Pods that it has still to command. -/
inductive SafeState
  | notBegun
  | commanding (pods : List PodId)
  deriving DecidableEq

/-- What `start_recipe_processing` spawns: the race, and the safe-state command
behind it. -/
structure RecipeTask (Error : Type*) where
  mix : RecipeRun Error
  safeState : SafeState
  deriving DecidableEq

namespace RecipeTask

variable {Error : Type*}

def initial (commands : Commands) : RecipeTask Error :=
  ⟨.initial commands, .notBegun⟩

/-- A turn of the race; a command under way asks a Pod to dispense, and again
after a refill; `force_safe_state_all_pods` begins and locks the Pods that are
registered; or it commands one of them, whose session takes the message or
throws. -/
inductive Event (Error : Type*)
  | proceed (event : RecipeRun.Event Error)
  | queueCommand (member : Nat) (pod : PodId)
  | beginSafeState (pods : List PodId)
  | commandPod (pod : PodId) (accepted : Bool)
  deriving DecidableEq

/-- The command of a member of the item at hand, while it is executed. -/
def executing (task : RecipeTask Error) (member : Nat) : Option Command :=
  match task.mix.executing.outcome,
      ExecuteCommands.phaseOf task.mix.executing.activity member with
  | none, .executing =>
      commandAt task.mix.executing.commands
        ⟨task.mix.executing.item, member⟩
  | _, _ => none

/-- The task after a turn, and what it has queued.  Only the bridge sets the
abort flag. -/
def step (task : RecipeTask Error) :
    Event Error → Option (RecipeTask Error × Option Delivery)
  | .proceed .abort => none
  | .proceed event =>
      (task.mix.step event).map fun mix => ({ task with mix }, none)
  | .queueCommand member pod =>
      match task.executing member with
      | some (.dispense command) => some (task, some ⟨pod, .dispense command⟩)
      | _ => none
  | .beginSafeState pods =>
      if task.mix.ended = true ∧ task.mix.safeStateSpawned = true ∧
          task.safeState = .notBegun then
        some ({ task with safeState := .commanding pods }, none)
      else none
  | .commandPod pod accepted =>
      match task.safeState with
      | .commanding pods =>
          if pod ∈ pods then
            some ({ task with safeState := .commanding (pods.erase pod) },
              if accepted = true then some ⟨pod, .emergencyStop⟩ else none)
          else none
      | .notBegun => none

/-- `*active_recipe_abort_ = true`. -/
def setAbort (task : RecipeTask Error) : RecipeTask Error :=
  { task with mix := { task.mix with abort := task.mix.abort.set } }

/-- The race has ended without a stop, or the safe-state command has gone out
to every Pod. -/
def Settled (task : RecipeTask Error) : Prop :=
  task.mix.result = some .value ∨ task.safeState = .commanding []

instance (task : RecipeTask Error) : Decidable task.Settled :=
  inferInstanceAs (Decidable (_ ∨ _))

/-- The invariant of a task: the processing goes on behind the commands, and
the safe-state command behind a race that was stopped. -/
structure Consistent (task : RecipeTask Error) : Prop where
  mix : RecipeRun.Consistent task.mix
  completed : task.mix.processed ≠ none → task.mix.executing.outcome ≠ none
  commanded : task.safeState ≠ .notBegun →
    task.mix.processed ≠ none ∧ task.mix.result = some .stopped

/-- What a turn does to a task, whatever it is. -/
structure GoesOn (task next : RecipeTask Error) : Prop where
  consistent : next.Consistent
  settled : task.Settled → next.Settled

section Turns

variable {task next : RecipeTask Error} {delivery : Option Delivery}

theorem consistent_initial (commands : Commands) :
    Consistent (initial commands : RecipeTask Error) where
  mix := RecipeRun.consistent_initial commands
  completed := by simp [initial, RecipeRun.initial]
  commanded := by simp [initial]

theorem GoesOn.refl (consistent : task.Consistent) : GoesOn task task :=
  ⟨consistent, id⟩

/-- The processing of a settled task is over, and so are its commands. -/
theorem Settled.completed (settled : task.Settled)
    (consistent : task.Consistent) :
    task.mix.executing.outcome ≠ none := by
  refine consistent.completed ?_
  rcases settled with isValue | isCommanded
  · intro unprocessed
    cases (consistent.mix.unprocessed unprocessed _ isValue).1
  · exact (consistent.commanded (by simp [isCommanded])).1

theorem goesOn_mix (consistent : task.Consistent)
    {event : RecipeRun.Event Error} {mix : RecipeRun Error}
    (stepped : task.mix.step event = some mix) :
    GoesOn task { task with mix } := by
  have processedStays : task.mix.processed ≠ none → mix.processed ≠ none := by
    intro isProcessed
    obtain ⟨completion, processed⟩ := Option.ne_none_iff_exists'.mp isProcessed
    rw [RecipeRun.processed_stays processed stepped]
    simp
  refine ⟨⟨RecipeRun.consistent_step consistent.mix stepped, ?_, ?_⟩, ?_⟩
  · intro isProcessed
    dsimp only at isProcessed ⊢
    by_cases processes : event = .processed
    · subst processes
      obtain ⟨completion, completed, _, rfl⟩ :=
        RecipeRun.step_processed stepped
      rw [RecipeRun.executing_process, completed]
      simp
    · rw [RecipeRun.processed_step processes stepped] at isProcessed
      have completed := consistent.completed isProcessed
      rw [RecipeRun.executing_step completed stepped]
      exact completed
  · intro isCommanded
    obtain ⟨isProcessed, isStopped⟩ := consistent.commanded isCommanded
    exact ⟨processedStays isProcessed, RecipeRun.result_step isStopped stepped⟩
  · rintro (isValue | isCommanded)
    · exact .inl (RecipeRun.result_step isValue stepped)
    · exact .inr isCommanded

theorem goesOn_setAbort (consistent : task.Consistent) :
    GoesOn task task.setAbort :=
  goesOn_mix consistent (rfl : task.mix.step .abort = some _)

theorem step_proceed {event : RecipeRun.Event Error}
    (stepped : task.step (.proceed event) = some (next, delivery)) :
    delivery = none ∧ ∃ mix, task.mix.step event = some mix ∧
      next = { task with mix } := by
  cases event
  case abort => cases stepped
  all_goals
    simp only [step, Option.map_eq_some_iff, Prod.mk.injEq] at stepped
    obtain ⟨mix, isStep, rfl, rfl⟩ := stepped
    exact ⟨rfl, mix, isStep, rfl⟩

theorem step_queueCommand {member : Nat} {pod : PodId}
    (stepped : task.step (.queueCommand member pod) = some (next, delivery)) :
    next = task ∧ task.mix.executing.outcome = none := by
  simp only [step] at stepped
  split at stepped
  · next command isExecuting =>
      cases stepped
      refine ⟨rfl, ?_⟩
      unfold executing at isExecuting
      split at isExecuting
      · next unfinished _ => exact unfinished
      · cases isExecuting
  · cases stepped

theorem step_beginSafeState {pods : List PodId}
    (stepped : task.step (.beginSafeState pods) = some (next, delivery)) :
    task.mix.ended = true ∧ task.mix.safeStateSpawned = true ∧
      task.safeState = .notBegun ∧ delivery = none ∧
      next = { task with safeState := .commanding pods } := by
  simp only [step, Option.ite_none_right_eq_some] at stepped
  obtain ⟨⟨ended, spawned, notBegun⟩, stepped⟩ := stepped
  cases stepped
  exact ⟨ended, spawned, notBegun, rfl, rfl⟩

theorem step_commandPod {pod : PodId} {accepted : Bool}
    (stepped : task.step (.commandPod pod accepted) = some (next, delivery)) :
    ∃ pods, task.safeState = .commanding pods ∧ pod ∈ pods ∧
      next = { task with safeState := .commanding (pods.erase pod) } ∧
      ∀ queued ∈ delivery, queued.order = .emergencyStop := by
  simp only [step] at stepped
  split at stepped
  · next pods isCommanding =>
      simp only [Option.ite_none_right_eq_some, Option.some.injEq,
        Prod.mk.injEq] at stepped
      obtain ⟨isPending, rfl, rfl⟩ := stepped
      refine ⟨pods, isCommanding, isPending, rfl, ?_⟩
      intro queued isQueued
      simp only [Option.mem_def, Option.ite_none_right_eq_some,
        Option.some.injEq] at isQueued
      rw [← isQueued.2]
  · cases stepped

theorem goesOn_step (consistent : task.Consistent) {event : Event Error}
    (stepped : task.step event = some (next, delivery)) :
    GoesOn task next := by
  cases event with
  | proceed event =>
      obtain ⟨_, mix, isStep, rfl⟩ := step_proceed stepped
      exact goesOn_mix consistent isStep
  | queueCommand member pod =>
      obtain ⟨rfl, _⟩ := step_queueCommand stepped
      exact .refl consistent
  | beginSafeState pods =>
      obtain ⟨ended, spawned, notBegun, _, rfl⟩ := step_beginSafeState stepped
      obtain ⟨isProcessed, spawnedIff⟩ := consistent.mix.ended ended
      refine ⟨⟨consistent.mix, consistent.completed, fun _ =>
        ⟨isProcessed, spawnedIff.mp spawned⟩⟩, ?_⟩
      rintro (isValue | isCommanded)
      · exact .inl isValue
      · rw [notBegun] at isCommanded
        cases isCommanded
  | commandPod pod accepted =>
      obtain ⟨pods, isCommanding, isPending, rfl, _⟩ :=
        step_commandPod stepped
      refine ⟨⟨consistent.mix, consistent.completed, fun _ =>
        consistent.commanded (by simp [isCommanding])⟩, ?_⟩
      rintro (isValue | isCommanded)
      · exact .inl isValue
      · rw [isCommanding, SafeState.commanding.injEq] at isCommanded
        simp [isCommanded] at isPending

theorem Settled.queues_nothing (settled : task.Settled)
    (consistent : task.Consistent) {event : Event Error}
    (stepped : task.step event = some (next, delivery)) : delivery = none := by
  cases event with
  | proceed event => exact (step_proceed stepped).1
  | queueCommand member pod =>
      exact absurd (step_queueCommand stepped).2 (settled.completed consistent)
  | beginSafeState pods => exact (step_beginSafeState stepped).2.2.2.1
  | commandPod pod accepted =>
      obtain ⟨pods, isCommanding, isPending, _⟩ := step_commandPod stepped
      rcases settled with isValue | isCommanded
      · have isStopped :=
          (consistent.commanded (by simp [isCommanding])).2
        rw [isValue] at isStopped
        cases isStopped
      · rw [isCommanding, SafeState.commanding.injEq] at isCommanded
        simp [isCommanded] at isPending

/-- Only a command under way asks a Pod to dispense. -/
theorem queueCommand_of_command {event : Event Error} {queued : Delivery}
    (stepped : task.step event = some (next, some queued))
    (isCommand : queued.order ≠ .emergencyStop) :
    ∃ member pod, event = .queueCommand member pod := by
  cases event with
  | proceed event => cases (step_proceed stepped).1
  | queueCommand member pod => exact ⟨member, pod, rfl⟩
  | beginSafeState pods => cases (step_beginSafeState stepped).2.2.2.1
  | commandPod pod accepted =>
      obtain ⟨_, _, _, _, isStop⟩ := step_commandPod stepped
      exact absurd (isStop queued rfl) isCommand

end Turns

end RecipeTask

/-- A delivery of the recipe that was started as number `recipe`. -/
structure Queued where
  recipe : Nat
  delivery : Delivery
  deriving DecidableEq

/-- The recipes in the order in which they were started, which of them
`active_recipe_abort_` belongs to, and every message queued to a Pod. -/
structure ProcessContextBridge (Error : Type*) where
  recipes : List (RecipeTask Error)
  activeRecipeAbort : Option Nat
  queued : List Queued
  deriving DecidableEq

namespace ProcessContextBridge

variable {Error : Type*}

def initial : ProcessContextBridge Error :=
  ⟨[], none, []⟩

/-- A request that was posted to the io thread, or a turn of a recipe. -/
inductive Event (Error : Type*)
  | startRecipeProcessing (commands : Commands)
  | abortActiveRecipe
  | recipe (number : Nat) (event : RecipeTask.Event Error)
  deriving DecidableEq

def abortActiveRecipe (bridge : ProcessContextBridge Error) :
    ProcessContextBridge Error :=
  match bridge.activeRecipeAbort with
  | none => bridge
  | some active =>
      { bridge with
        recipes := bridge.recipes.modify active RecipeTask.setAbort
        activeRecipeAbort := none }

/-- Start a recipe, whose commands have been scaled and boosted. -/
def startRecipeProcessing (bridge : ProcessContextBridge Error)
    (commands : Commands) : ProcessContextBridge Error :=
  let aborted := bridge.abortActiveRecipe
  { aborted with
    recipes := aborted.recipes ++ [.initial commands]
    activeRecipeAbort := some aborted.recipes.length }

/-- The bridge after a turn of a recipe. -/
def afterTurn (bridge : ProcessContextBridge Error) (number : Nat)
    (task : RecipeTask Error) (delivery : Option Delivery) :
    ProcessContextBridge Error :=
  { bridge with
    recipes := bridge.recipes.set number task
    queued := bridge.queued ++ (delivery.map (Queued.mk number)).toList }

def step (bridge : ProcessContextBridge Error) :
    Event Error → Option (ProcessContextBridge Error)
  | .startRecipeProcessing commands =>
      some (bridge.startRecipeProcessing commands)
  | .abortActiveRecipe => some bridge.abortActiveRecipe
  | .recipe number event =>
      match bridge.recipes[number]? with
      | none => none
      | some task =>
          (task.step event).map fun (task, delivery) =>
            bridge.afterTurn number task delivery

/-- Once a command of a recipe has been queued to a Pod, nothing of an earlier
recipe is: no command and no `EmergencyStop`. -/
def NoInterference (bridge : ProcessContextBridge Error) : Prop :=
  bridge.queued.Pairwise fun earlier later =>
    earlier.delivery.order ≠ .emergencyStop → earlier.recipe ≤ later.recipe

instance (bridge : ProcessContextBridge Error) :
    Decidable bridge.NoInterference :=
  inferInstanceAs (Decidable (List.Pairwise _ _))

/-- The recipes before one are settled. -/
def SettledBefore (bridge : ProcessContextBridge Error) (number : Nat) : Prop :=
  ∀ earlier < number, ∀ task ∈ bridge.recipes[earlier]?, task.Settled

instance (bridge : ProcessContextBridge Error) (number : Nat) :
    Decidable (bridge.SettledBefore number) :=
  inferInstanceAs (Decidable (∀ earlier < number, _))

/-- A recipe that queues a command finds the recipes before it settled. -/
def FindsSettled (bridge : ProcessContextBridge Error) : Event Error → Prop
  | .recipe number (.queueCommand _ _) => bridge.SettledBefore number
  | _ => True

instance (bridge : ProcessContextBridge Error) :
    DecidablePred bridge.FindsSettled
  | .recipe number (.queueCommand _ _) =>
      inferInstanceAs (Decidable (bridge.SettledBefore number))
  | .recipe _ (.proceed _) => inferInstanceAs (Decidable True)
  | .recipe _ (.beginSafeState _) => inferInstanceAs (Decidable True)
  | .recipe _ (.commandPod _ _) => inferInstanceAs (Decidable True)
  | .startRecipeProcessing _ => inferInstanceAs (Decidable True)
  | .abortActiveRecipe => inferInstanceAs (Decidable True)

/-- The invariant of a run in which commands are queued behind settled recipes
only: what is settled once stays settled. -/
structure Orderly (bridge : ProcessContextBridge Error) : Prop where
  consistent : ∀ task ∈ bridge.recipes, task.Consistent
  started : ∀ queued ∈ bridge.queued, queued.recipe < bridge.recipes.length
  settled : ∀ queued ∈ bridge.queued,
    queued.delivery.order ≠ .emergencyStop →
      bridge.SettledBefore queued.recipe
  noInterference : bridge.NoInterference

section Turns

variable {bridge next : ProcessContextBridge Error}

theorem orderly_initial : Orderly (initial : ProcessContextBridge Error) where
  consistent := by simp [initial]
  started := by simp [initial]
  settled := by simp [initial]
  noInterference := List.Pairwise.nil

theorem orderly_of_goesOn (orderly : Orderly bridge)
    (sameQueue : next.queued = bridge.queued)
    (sameLength : next.recipes.length = bridge.recipes.length)
    (goesOn : ∀ number : Nat, ∀ task ∈ next.recipes[number]?,
      ∃ before ∈ bridge.recipes[number]?, RecipeTask.GoesOn before task) :
    Orderly next where
  consistent task isRecipe := by
    obtain ⟨number, isTask⟩ := List.mem_iff_getElem?.mp isRecipe
    obtain ⟨before, _, went⟩ := goesOn number task isTask
    exact went.consistent
  started := by
    rw [sameQueue, sameLength]
    exact orderly.started
  settled := by
    rw [sameQueue]
    intro queued isQueued isCommand earlier isEarlier task isTask
    obtain ⟨before, isBefore, went⟩ := goesOn earlier task isTask
    exact went.settled
      (orderly.settled queued isQueued isCommand earlier isEarlier before
        isBefore)
  noInterference := by
    unfold NoInterference
    rw [sameQueue]
    exact orderly.noInterference

theorem Orderly.abortActiveRecipe (orderly : Orderly bridge) :
    Orderly bridge.abortActiveRecipe := by
  unfold ProcessContextBridge.abortActiveRecipe
  split
  · exact orderly
  · next active _ =>
      refine orderly_of_goesOn orderly rfl (List.length_modify _ _ _) ?_
      intro number task isTask
      simp only [List.getElem?_modify, Option.map_eq_map, Option.mem_def,
        Option.map_eq_some_iff] at isTask
      obtain ⟨before, isBefore, rfl⟩ := isTask
      have consistent :=
        orderly.consistent before (List.mem_of_getElem? isBefore)
      refine ⟨before, isBefore, ?_⟩
      split
      · exact RecipeTask.goesOn_setAbort consistent
      · exact .refl consistent

/-- A new recipe is no predecessor of any that has queued a message. -/
theorem Orderly.append (orderly : Orderly bridge) (commands : Commands)
    (active : Option Nat) :
    Orderly { bridge with
      recipes := bridge.recipes ++ [.initial commands]
      activeRecipeAbort := active } where
  consistent task isRecipe := by
    rcases List.mem_append.mp isRecipe with isOld | isNew
    · exact orderly.consistent task isOld
    · rw [List.mem_singleton.mp isNew]
      exact RecipeTask.consistent_initial commands
  started queued isQueued := by
    have before := orderly.started queued isQueued
    simp only [List.length_append, List.length_singleton]
    omega
  settled queued isQueued isCommand earlier isEarlier task isTask := by
    have started := orderly.started queued isQueued
    simp only [List.getElem?_append_left (isEarlier.trans started)] at isTask
    exact orderly.settled queued isQueued isCommand earlier isEarlier task
      isTask
  noInterference := orderly.noInterference

theorem Orderly.set (orderly : Orderly bridge) {number : Nat}
    {before task : RecipeTask Error}
    (isBefore : bridge.recipes[number]? = some before)
    (goesOn : RecipeTask.GoesOn before task) :
    Orderly { bridge with recipes := bridge.recipes.set number task } := by
  refine orderly_of_goesOn orderly rfl List.length_set ?_
  intro other changed isChanged
  by_cases same : number = other
  · subst same
    have inside := (List.getElem?_eq_some_iff.mp isBefore).1
    simp only [List.getElem?_set_self inside, Option.mem_def,
      Option.some.injEq] at isChanged
    exact ⟨before, isBefore, isChanged ▸ goesOn⟩
  · simp only [List.getElem?_set_ne same, Option.mem_def] at isChanged
    exact ⟨changed, isChanged,
      .refl (orderly.consistent changed (List.mem_of_getElem? isChanged))⟩

/-- A recipe queues a message that no later recipe has overtaken. -/
theorem Orderly.queue (orderly : Orderly bridge) {number : Nat}
    (started : number < bridge.recipes.length) (delivery : Delivery)
    (notOvertaken : ∀ queued ∈ bridge.queued,
      queued.delivery.order ≠ .emergencyStop → queued.recipe ≤ number)
    (settled : delivery.order ≠ .emergencyStop →
      bridge.SettledBefore number) :
    Orderly { bridge with
      queued := bridge.queued ++ [⟨number, delivery⟩] } where
  consistent := orderly.consistent
  started queued isQueued := by
    rcases List.mem_append.mp isQueued with isOld | isNew
    · exact orderly.started queued isOld
    · rw [List.mem_singleton.mp isNew]
      exact started
  settled queued isQueued isCommand := by
    rcases List.mem_append.mp isQueued with isOld | isNew
    · exact orderly.settled queued isOld isCommand
    · obtain rfl := List.mem_singleton.mp isNew
      exact settled isCommand
  noInterference := by
    refine List.pairwise_append.mpr
      ⟨orderly.noInterference, List.pairwise_singleton _ _, ?_⟩
    intro earlier isEarlier later isLater
    rw [List.mem_singleton.mp isLater]
    exact notOvertaken earlier isEarlier

/-- A turn of a recipe keeps the order when the recipe finds the ones before it
settled, as far as it queues a command. -/
theorem orderly_recipe (orderly : Orderly bridge) {number : Nat}
    {event : RecipeTask.Event Error}
    (findsSettled : bridge.FindsSettled (.recipe number event))
    (stepped : bridge.step (.recipe number event) = some next) :
    Orderly next := by
  simp only [step] at stepped
  split at stepped
  · cases stepped
  · next before isBefore =>
      simp only [Option.map_eq_some_iff] at stepped
      obtain ⟨⟨task, delivery⟩, turn, rfl⟩ := stepped
      have consistent :=
        orderly.consistent before (List.mem_of_getElem? isBefore)
      have goesOn := RecipeTask.goesOn_step consistent turn
      have changed := orderly.set isBefore goesOn
      cases delivery with
      | none => simpa [afterTurn] using changed
      | some delivery =>
          have started : number < bridge.recipes.length :=
            (List.getElem?_eq_some_iff.mp isBefore).1
          refine changed.queue (by simpa using started) delivery ?_ ?_
          · -- A later recipe that queued a command left this one settled.
            intro queued isQueued isCommand
            by_contra overtaken
            have settled := orderly.settled queued isQueued isCommand number
              (Nat.lt_of_not_le overtaken) before isBefore
            cases settled.queues_nothing consistent turn
          · intro isCommand
            obtain ⟨member, pod, rfl⟩ :=
              RecipeTask.queueCommand_of_command turn isCommand
            intro earlier isEarlier other isOther
            simp only [List.getElem?_set_ne (Nat.ne_of_gt isEarlier)]
              at isOther
            exact findsSettled earlier isEarlier other isOther

theorem orderly_step (orderly : Orderly bridge) {event : Event Error}
    (findsSettled : bridge.FindsSettled event)
    (stepped : bridge.step event = some next) : Orderly next := by
  cases event with
  | startRecipeProcessing commands =>
      cases stepped
      exact orderly.abortActiveRecipe.append commands _
  | abortActiveRecipe =>
      cases stepped
      exact orderly.abortActiveRecipe
  | recipe number event => exact orderly_recipe orderly findsSettled stepped

end Turns

section Runs

/-- Recipes do not interfere in any run in which a recipe that queues a command
to a Pod finds the recipes before it settled: their race has ended without a
stop, or their `EmergencyStop` has gone out to every Pod. -/
theorem noInterference_of_findsSettled (events : List (Event Error))
    (findsSettled : EveryStep step FindsSettled initial events) :
    Always step NoInterference initial events := by
  have orderly : Always step Orderly initial events :=
    always_of_everyStep
      (fun _ _ _ orderly settled stepped =>
        orderly_step orderly settled stepped)
      orderly_initial findsSettled
  exact fun visited middle isPrefix ran =>
    (orderly visited middle isPrefix ran).noInterference

/-- The turns in which a recipe comes to dispense with its first command. -/
def beginsToDispense (number : Nat) (pod : PodId) : List (Event String) :=
  [.recipe number (.proceed (.execute .next)),
    .recipe number (.proceed (.execute (.start 0))),
    .recipe number (.queueCommand 0 pod),
    .recipe number (.proceed .startWait)]

/-- The turns in which a recipe that dispenses is stopped, behind the one that
wakes the wait for its abort flag. -/
def stopsDispensing (number : Nat) (pod : PodId) : List (Event String) :=
  [.recipe number (.proceed (.execute (.executed 0 .stopped))),
    .recipe number (.proceed .processed), .recipe number (.proceed .finish),
    .recipe number (.beginSafeState [pod]),
    .recipe number (.commandPod pod true)]

/-- A second recipe that gets its first turn when the first one has been
stopped and the Pod commanded. -/
def takesOver : List (Event String) :=
  .startRecipeProcessing [.single (.dispense ⟨1, "rum", 1⟩)] ::
    beginsToDispense 0 "left" ++
    .startRecipeProcessing [.single (.dispense ⟨1, "gin", 1⟩)] ::
    .recipe 0 (.proceed .wake) :: stopsDispensing 0 "left" ++
    beginsToDispense 1 "left"

theorem noInterference_when_takesOver :
    (run step initial takesOver).isSome = true ∧
      Always step NoInterference initial takesOver :=
  ⟨by decide, noInterference_of_findsSettled takesOver (by decide)⟩

/-- The second recipe has its first turn right behind the wake-up of the first,
whose stopped request to the Pod has still to complete: the Pod is asked to
dispense, and then brought into the safe state. -/
theorem not_noInterference_when_started_while_dispensing :
    ¬ ∀ events : List (Event String),
      Always step NoInterference initial events := by
  intro never
  have noInterference := never
    (.startRecipeProcessing [.single (.dispense ⟨1, "rum", 1⟩)] ::
      beginsToDispense 0 "left" ++
      .startRecipeProcessing [.single (.dispense ⟨1, "gin", 1⟩)] ::
      .recipe 0 (.proceed .wake) :: beginsToDispense 1 "left" ++
      stopsDispensing 0 "left")
    _ _ List.prefix_rfl rfl
  revert noInterference
  decide

end Runs

end ProcessContextBridge

end CocktailMaker
