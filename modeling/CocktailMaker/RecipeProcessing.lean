import CocktailMaker.ExecuteRecipe

/-!
# Processing a recipe until it ends or is aborted

`start_recipe_processing` races the processing of a recipe against a wait for
its abort flag.  The first of the two to complete decides how the race ends,
and only a race that ends stopped spawns the safe-state command.  An error of
a command is caught and shown, so that the processing completes with a value,
whatever the Pods are doing.
-/

namespace CocktailMaker

open LabelledRun

/-- The wait on an `AwaitableBool`.  A waiter that was woken completes when its
posted continuation runs; a wait that has completed was satisfied or
stopped. -/
inductive FlagWait
  | notStarted
  | waiting
  | woken
  | completed (satisfied : Bool)
  deriving DecidableEq

/-- The flag with its only waiter. -/
structure AwaitableBool where
  value : Bool
  wait : FlagWait
  deriving DecidableEq

namespace AwaitableBool

/-- `*flag = true` wakes the waiter. -/
def set (flag : AwaitableBool) : AwaitableBool where
  value := true
  wait :=
    match flag.wait with
    | .waiting => .woken
    | wait => wait

/-- The wait starts: it completes at once if the flag is set or a stop was
requested. -/
def startWait (flag : AwaitableBool) (stopRequested : Bool) :
    AwaitableBool :=
  { flag with
    wait :=
      if flag.value = true then .completed true
      else if stopRequested = true then .completed false
      else .waiting }

/-- A stop request completes a waiter, unless it was woken already. -/
def stopWait (flag : AwaitableBool) : AwaitableBool :=
  { flag with
    wait :=
      match flag.wait with
      | .waiting => .completed false
      | wait => wait }

/-- The wait has been satisfied. -/
def Satisfied (flag : AwaitableBool) : Prop :=
  flag.wait = .completed true

instance (flag : AwaitableBool) : Decidable flag.Satisfied :=
  inferInstanceAs (Decidable (_ = _))

theorem satisfied_set (flag : AwaitableBool) :
    flag.set.Satisfied ↔ flag.Satisfied := by
  unfold Satisfied set
  cases flag.wait <;> simp

theorem set_of_ne_waiting {flag : AwaitableBool}
    (resting : flag.wait ≠ .waiting) :
    flag.set = { flag with value := true } := by
  unfold set
  split
  · next waiting => exact absurd waiting resting
  · rfl

end AwaitableBool

/-- The channel in which a child of `when_any` completes first. -/
inductive RaceResult
  | value
  | stopped
  deriving DecidableEq

/-- A recipe run: the frame of `execute_commands`, the abort flag, how
`async_process_recipe` has gone on, and the state of `when_any`. -/
structure RecipeRun (Error : Type*) where
  executing : ExecuteCommands Error
  abort : AwaitableBool
  processed : Option (Completion Error)
  result : Option RaceResult
  ended : Bool
  safeStateSpawned : Bool
  deriving DecidableEq

namespace RecipeRun

variable {Error : Type*}

def initial (commands : Commands) : RecipeRun Error :=
  ⟨.initial commands, ⟨false, .notStarted⟩, none, none, false, false⟩

/-- Something happens to the commands; the wait for the flag starts;
`abort_active_recipe` runs; a waiter that was woken continues;
`async_process_recipe` continues behind `execute_commands`; or `when_any`
completes behind both of its children. -/
inductive Event (Error : Type*)
  | execute (event : ExecuteCommands.Event Error)
  | startWait
  | abort
  | wake
  | processed
  | finish
  deriving DecidableEq

/-- The wait for the flag is satisfied: `just_stopped`.  If nothing completed
before, that stops the processing. -/
def abortReaches (mix : RecipeRun Error) : RecipeRun Error :=
  match mix.result with
  | some _ => mix
  | none =>
      { mix with
        result := some .stopped
        executing :=
          (mix.executing.step .requestStop).getD mix.executing }

/-- How the processing completes: every exception is caught and shown. -/
def raceResult : Completion Error → RaceResult
  | .stopped => .stopped
  | .value => .value
  | .error _ => .value

/-- `async_process_recipe` goes on: it shows the success or the error and
completes, or it is stopped. -/
def process (mix : RecipeRun Error) (completion : Completion Error) :
    RecipeRun Error :=
  match mix.result with
  | some _ => { mix with processed := some completion }
  | none =>
      { mix with
        processed := some completion
        result := some (raceResult completion)
        abort := mix.abort.stopWait }

/-- `upon_stopped` spawns `force_safe_state_all_pods`. -/
def finish (mix : RecipeRun Error) : RecipeRun Error :=
  { mix with
    ended := true
    safeStateSpawned := decide (mix.result = some .stopped) }

def step (mix : RecipeRun Error) :
    Event Error → Option (RecipeRun Error)
  | .execute .requestStop => none
  | .execute event =>
      (mix.executing.step event).map fun executing => { mix with executing }
  | .startWait =>
      if mix.abort.wait = .notStarted then
        let waiting := { mix with
          abort := mix.abort.startWait mix.result.isSome }
        if waiting.abort.Satisfied then some waiting.abortReaches
        else some waiting
      else none
  | .abort => some { mix with abort := mix.abort.set }
  | .wake =>
      if mix.abort.wait = .woken then
        some { mix with
          abort := { mix.abort with wait := .completed true } }.abortReaches
      else none
  | .processed =>
      match mix.executing.outcome, mix.processed with
      | some completion, none => some (mix.process completion)
      | _, _ => none
  | .finish =>
      match mix.processed, mix.abort.wait, mix.ended with
      | some _, .completed _, false => some mix.finish
      | _, _, _ => none

/-- The run has reached `display_ui_success`. -/
def Succeeded (mix : RecipeRun Error) : Prop :=
  mix.processed = some .value

/-- An unsuccessful run spawns the safe-state command and a successful one does
not. -/
def Safe (mix : RecipeRun Error) : Prop :=
  (mix.Succeeded → mix.safeStateSpawned = false) ∧
    (¬ mix.Succeeded → mix.safeStateSpawned = true)

/-- The abort is in time for how the commands have ended: when the processing
goes on, it has reached the run before an error, and not before a success. -/
def AbortFits (commands : Commands) (events : List (Event Error)) : Prop :=
  ∀ before after mix, events = before ++ .processed :: after →
    run step (initial commands) before = some mix →
      (∀ error, mix.executing.outcome = some (.error error) →
        mix.abort.Satisfied) ∧
      (mix.executing.outcome = some .value → ¬ mix.abort.Satisfied)

/-- The invariant of a recipe run.  As long as the processing has not gone on,
only a satisfied wait has a result; the commands are stopped only after it. -/
structure Consistent (mix : RecipeRun Error) : Prop where
  executing : ExecuteCommands.Consistent mix.executing
  stopRequested : mix.executing.stopRequested = true →
    mix.result = some .stopped
  hasResult : mix.result = none →
    mix.processed = none ∧ ¬ mix.abort.Satisfied
  unprocessed : mix.processed = none → ∀ result, mix.result = some result →
    result = .stopped ∧ mix.abort.Satisfied
  ended : mix.ended = true → mix.processed ≠ none ∧
    (mix.safeStateSpawned = true ↔ mix.result = some .stopped)

section Steps

variable {mix next : RecipeRun Error}

theorem consistent_initial (commands : Commands) :
    Consistent (initial commands : RecipeRun Error) where
  executing := ExecuteCommands.consistent_initial commands
  stopRequested := by simp [initial, ExecuteCommands.initial]
  hasResult := by simp [initial, AwaitableBool.Satisfied]
  unprocessed := by simp [initial]
  ended := by simp [initial]

/-- The wait is satisfied while nothing else is known to have changed. -/
theorem consistent_abortReaches (consistent : Consistent mix)
    {flag : AwaitableBool} (satisfied : flag.Satisfied) :
    Consistent ({ mix with abort := flag }.abortReaches) := by
  unfold abortReaches
  split
  · next result hasResult =>
      refine ⟨consistent.executing, consistent.stopRequested, ?_, ?_,
        consistent.ended⟩
      · intro noResult
        rw [hasResult] at noResult
        cases noResult
      · intro unprocessed other isOther
        exact ⟨(consistent.unprocessed unprocessed other isOther).1, satisfied⟩
  · next noResult =>
      have unprocessed := (consistent.hasResult noResult).1
      refine ⟨?_, fun _ => rfl, by simp, ?_, ?_⟩
      · dsimp only
        cases stepped : mix.executing.step .requestStop with
        | none => exact consistent.executing
        | some stopped =>
            exact (ExecuteCommands.consistent_step consistent.executing
              stepped).1
      · rintro _ _ ⟨⟩
        exact ⟨rfl, satisfied⟩
      · intro ended
        exact absurd unprocessed (consistent.ended ended).1

theorem consistent_execute (consistent : Consistent mix)
    {event : ExecuteCommands.Event Error} (notStop : event ≠ .requestStop)
    {executing : ExecuteCommands Error}
    (stepped : mix.executing.step event = some executing) :
    Consistent { mix with executing } := by
  obtain ⟨kept, _, sameStop⟩ :=
    ExecuteCommands.consistent_step consistent.executing stepped
  refine ⟨kept, ?_, consistent.hasResult, consistent.unprocessed,
    consistent.ended⟩
  rw [sameStop notStop]
  exact consistent.stopRequested

/-- Whether the wait is satisfied is all that the invariant says about it. -/
theorem consistent_abort (consistent : Consistent mix) {flag : AwaitableBool}
    (same : flag.Satisfied ↔ mix.abort.Satisfied) :
    Consistent { mix with abort := flag } := by
  refine ⟨consistent.executing, consistent.stopRequested, ?_, ?_,
    consistent.ended⟩
  · intro noResult
    obtain ⟨unprocessed, notSatisfied⟩ := consistent.hasResult noResult
    exact ⟨unprocessed, fun satisfied => notSatisfied (same.mp satisfied)⟩
  · intro unprocessed result isResult
    obtain ⟨isStopped, satisfied⟩ :=
      consistent.unprocessed unprocessed result isResult
    exact ⟨isStopped, same.mpr satisfied⟩

/-- The commands are stopped only by the abort. -/
theorem satisfied_of_stopped (consistent : Consistent mix)
    (unprocessed : mix.processed = none)
    (completed : mix.executing.outcome = some .stopped) :
    mix.abort.Satisfied := by
  have ended := consistent.executing.ended .stopped completed
  have hasResult := consistent.stopRequested (ended.stopped rfl).2
  exact (consistent.unprocessed unprocessed .stopped hasResult).2

/-- The processing goes on: the race ends stopped exactly when the abort has
reached the run. -/
theorem process_result (consistent : Consistent mix)
    (unprocessed : mix.processed = none) {completion : Completion Error}
    (completed : mix.executing.outcome = some completion) :
    (mix.process completion).processed = some completion ∧
      ∃ result, (mix.process completion).result = some result ∧
        (result = .stopped ↔ mix.abort.Satisfied) := by
  unfold process
  split
  · next result hasResult =>
      have reached := consistent.unprocessed unprocessed result hasResult
      exact ⟨rfl, result, hasResult, by simp [reached]⟩
  · next noResult =>
      have notSatisfied := (consistent.hasResult noResult).2
      refine ⟨rfl, _, rfl, ?_⟩
      cases completion with
      | value => simp [raceResult, notSatisfied]
      | error error => simp [raceResult, notSatisfied]
      | stopped =>
          exact absurd (satisfied_of_stopped consistent unprocessed completed)
            notSatisfied

@[simp]
theorem executing_process (completion : Completion Error) :
    (mix.process completion).executing = mix.executing := by
  unfold process
  split <;> rfl

theorem consistent_process (consistent : Consistent mix)
    (unprocessed : mix.processed = none) {completion : Completion Error}
    (completed : mix.executing.outcome = some completion) :
    Consistent (mix.process completion) := by
  obtain ⟨isProcessed, result, hasResult, _⟩ :=
    process_result consistent unprocessed completed
  have sameEnded : (mix.process completion).ended = mix.ended := by
    unfold process
    split <;> rfl
  refine ⟨by rw [executing_process]; exact consistent.executing, ?_, ?_, ?_, ?_⟩
  · intro stopRequested
    rw [executing_process] at stopRequested
    have stopped := consistent.stopRequested stopRequested
    unfold process
    rw [stopped]
  · intro noResult
    rw [hasResult] at noResult
    cases noResult
  · intro notProcessed
    rw [isProcessed] at notProcessed
    cases notProcessed
  · intro ended
    rw [sameEnded] at ended
    exact absurd unprocessed (consistent.ended ended).1

theorem step_processed (stepped : step mix .processed = some next) :
    ∃ completion, mix.executing.outcome = some completion ∧
      mix.processed = none ∧ next = mix.process completion := by
  simp only [step] at stepped
  split at stepped
  · next completion completed unprocessed =>
      exact ⟨completion, completed, unprocessed,
        (Option.some.inj stepped).symm⟩
  · cases stepped

theorem step_finish (stepped : step mix .finish = some next) :
    mix.processed ≠ none ∧ next = mix.finish := by
  simp only [step] at stepped
  split at stepped
  · next completion _ processed _ _ =>
      refine ⟨?_, (Option.some.inj stepped).symm⟩
      rw [processed]
      simp
  · cases stepped

theorem step_execute {event : ExecuteCommands.Event Error}
    (stepped : step mix (.execute event) = some next) :
    event ≠ .requestStop ∧ ∃ executing,
      mix.executing.step event = some executing ∧
      next = { mix with executing } := by
  cases event <;> simp only [step, Option.map_eq_some_iff, reduceCtorEq]
    at stepped
  all_goals
    obtain ⟨executing, isStep, rfl⟩ := stepped
    exact ⟨by simp, executing, isStep, rfl⟩

theorem step_startWait (stepped : step mix .startWait = some next) :
    mix.abort.wait = .notStarted ∧ ∃ flag : AwaitableBool,
      (flag.Satisfied ∧ next = { mix with abort := flag }.abortReaches) ∨
        (¬ flag.Satisfied ∧ next = { mix with abort := flag }) := by
  simp only [step, Option.ite_none_right_eq_some] at stepped
  obtain ⟨notStarted, stepped⟩ := stepped
  refine ⟨notStarted, mix.abort.startWait mix.result.isSome, ?_⟩
  split at stepped
  · next satisfied =>
      exact .inl ⟨satisfied, (Option.some.inj stepped).symm⟩
  · next notSatisfied =>
      exact .inr ⟨notSatisfied, (Option.some.inj stepped).symm⟩

theorem step_wake (stepped : step mix .wake = some next) :
    ∃ flag : AwaitableBool, flag.Satisfied ∧
      next = { mix with abort := flag }.abortReaches := by
  simp only [step, Option.ite_none_right_eq_some] at stepped
  exact ⟨{ mix.abort with wait := .completed true }, rfl,
    (Option.some.inj stepped.2).symm⟩

@[simp]
theorem processed_abortReaches :
    mix.abortReaches.processed = mix.processed := by
  unfold abortReaches
  split <;> rfl

/-- Only the processing itself goes on. -/
theorem processed_step {event : Event Error} (notProcessed : event ≠ .processed)
    (stepped : step mix event = some next) :
    next.processed = mix.processed := by
  cases event with
  | execute event =>
      obtain ⟨_, executing, _, rfl⟩ := step_execute stepped
      rfl
  | startWait =>
      obtain ⟨_, flag, ⟨_, rfl⟩ | ⟨_, rfl⟩⟩ := step_startWait stepped
      · exact processed_abortReaches
      · rfl
  | abort =>
      cases stepped
      rfl
  | wake =>
      obtain ⟨flag, _, rfl⟩ := step_wake stepped
      exact processed_abortReaches
  | processed => exact absurd rfl notProcessed
  | finish =>
      obtain ⟨_, rfl⟩ := step_finish stepped
      rfl

theorem result_step {result : RaceResult} (hasResult : mix.result = some result)
    {event : Event Error} (stepped : step mix event = some next) :
    next.result = some result := by
  have reached : ∀ flag : AwaitableBool,
      ({ mix with abort := flag }.abortReaches).result = some result := by
    intro flag
    simp only [abortReaches, hasResult]
  cases event with
  | execute event =>
      obtain ⟨_, executing, _, rfl⟩ := step_execute stepped
      exact hasResult
  | startWait =>
      obtain ⟨_, flag, ⟨_, rfl⟩ | ⟨_, rfl⟩⟩ := step_startWait stepped
      · exact reached flag
      · exact hasResult
  | abort =>
      cases stepped
      exact hasResult
  | wake =>
      obtain ⟨flag, _, rfl⟩ := step_wake stepped
      exact reached flag
  | processed =>
      obtain ⟨completion, _, _, rfl⟩ := step_processed stepped
      rw [process, hasResult]
  | finish =>
      obtain ⟨_, rfl⟩ := step_finish stepped
      exact hasResult

theorem processed_stays {completion : Completion Error}
    (processed : mix.processed = some completion) {event : Event Error}
    (stepped : step mix event = some next) :
    next.processed = some completion := by
  by_cases isProcessed : event = .processed
  · subst isProcessed
    obtain ⟨_, _, unprocessed, _⟩ := step_processed stepped
    rw [processed] at unprocessed
    cases unprocessed
  · rw [processed_step isProcessed stepped]
    exact processed

/-- Commands that have completed cannot be stopped any more. -/
theorem executing_abortReaches (completed : mix.executing.outcome ≠ none) :
    mix.abortReaches.executing = mix.executing := by
  have noStep : mix.executing.step .requestStop = none := by
    simp [ExecuteCommands.step, Option.isSome_iff_ne_none, completed]
  unfold abortReaches
  split
  · rfl
  · simp [noStep]

theorem executing_step (completed : mix.executing.outcome ≠ none)
    {event : Event Error} (stepped : step mix event = some next) :
    next.executing = mix.executing := by
  cases event with
  | execute event =>
      obtain ⟨_, executing, isStep, _⟩ := step_execute stepped
      simp [ExecuteCommands.step, Option.isSome_iff_ne_none, completed]
        at isStep
  | startWait =>
      obtain ⟨_, flag, ⟨_, rfl⟩ | ⟨_, rfl⟩⟩ := step_startWait stepped
      · exact executing_abortReaches completed
      · rfl
  | abort =>
      cases stepped
      rfl
  | wake =>
      obtain ⟨flag, _, rfl⟩ := step_wake stepped
      exact executing_abortReaches completed
  | processed =>
      obtain ⟨completion, _, _, rfl⟩ := step_processed stepped
      exact executing_process completion
  | finish =>
      obtain ⟨_, rfl⟩ := step_finish stepped
      rfl

theorem consistent_step (consistent : Consistent mix) {event : Event Error}
    (stepped : step mix event = some next) : Consistent next := by
  cases event with
  | execute event =>
      obtain ⟨notStop, executing, isStep, rfl⟩ := step_execute stepped
      exact consistent_execute consistent notStop isStep
  | startWait =>
      obtain ⟨notStarted, flag, ⟨satisfied, rfl⟩ | ⟨notSatisfied, rfl⟩⟩ :=
        step_startWait stepped
      · exact consistent_abortReaches consistent satisfied
      · refine consistent_abort consistent (iff_of_false notSatisfied ?_)
        simp [AwaitableBool.Satisfied, notStarted]
  | abort =>
      cases stepped
      exact consistent_abort consistent (AwaitableBool.satisfied_set _)
  | wake =>
      obtain ⟨flag, satisfied, rfl⟩ := step_wake stepped
      exact consistent_abortReaches consistent satisfied
  | processed =>
      obtain ⟨completion, completed, unprocessed, rfl⟩ :=
        step_processed stepped
      exact consistent_process consistent unprocessed completed
  | finish =>
      obtain ⟨isProcessed, rfl⟩ := step_finish stepped
      refine ⟨consistent.executing, consistent.stopRequested,
        consistent.hasResult, consistent.unprocessed, fun _ =>
          ⟨isProcessed, ?_⟩⟩
      simp [finish]

end Steps

section Runs

variable {commands : Commands} {events : List (Event Error)}
  {mix next last : RecipeRun Error}

theorem consistent_of_run
    (ran : run step (initial commands) events = some last) :
    Consistent last :=
  invariant_of_run Consistent
    (fun _ _ _ consistent stepped => consistent_step consistent stepped)
    (consistent_initial commands) ran

theorem settled_of_run {completion : Completion Error} {result : RaceResult}
    (processed : mix.processed = some completion)
    (hasResult : mix.result = some result)
    (ran : run step mix events = some last) :
    last.processed = some completion ∧ last.result = some result :=
  invariant_of_run
    (fun mix =>
      mix.processed = some completion ∧ mix.result = some result)
    (fun _ _ _ settled stepped =>
      ⟨processed_stays settled.1 stepped, result_step settled.2 stepped⟩)
    ⟨processed, hasResult⟩ ran

theorem processed_mem (ran : run step (initial commands) events = some last)
    (isProcessed : last.processed ≠ none) : .processed ∈ events := by
  refine history_of_run (fun events mix =>
      mix.processed ≠ none → Event.processed ∈ events) ?_ ?_ ran isProcessed
  · exact fun notNone => absurd rfl notNone
  · intro events mix event next _ ih stepped isProcessed
    by_cases isEvent : event = .processed
    · rw [isEvent]
      exact List.mem_concat_self
    · rw [processed_step isEvent stepped] at isProcessed
      exact List.mem_append_left _ (ih isProcessed)

theorem exists_split_of_ended
    (ran : run step (initial commands) events = some last)
    (ended : last.ended = true) :
    ∃ before after mix, events = before ++ .processed :: after ∧
      run step (initial commands) before = some mix := by
  have isProcessed := ((consistent_of_run ran).ended ended).1
  obtain ⟨before, after, rfl⟩ := List.append_of_mem (processed_mem ran isProcessed)
  obtain ⟨mix, ranBefore, _⟩ := run_append_eq_some.mp ran
  exact ⟨before, after, mix, rfl, ranBefore⟩

/-- What a run that has ended says about the step with which the processing
went on. -/
theorem ended_of_split {before after : List (Event Error)}
    (ranBefore : run step (initial commands) before = some mix)
    (ran : run step (initial commands) (before ++ .processed :: after) =
      some last) (ended : last.ended = true) :
    ∃ completion, mix.executing.outcome = some completion ∧
      last.processed = some completion ∧
      (last.safeStateSpawned = true ↔ mix.abort.Satisfied) ∧
      (completion = .stopped → mix.abort.Satisfied) := by
  obtain ⟨middle, ranMiddle, ranRest⟩ := run_append_eq_some.mp ran
  rw [ranBefore, Option.some.injEq] at ranMiddle
  subst ranMiddle
  obtain ⟨next, stepped, ranAfter⟩ := run_cons_eq_some.mp ranRest
  obtain ⟨completion, completed, unprocessed, rfl⟩ := step_processed stepped
  have consistent := consistent_of_run ranBefore
  obtain ⟨processed, result, hasResult, reached⟩ :=
    process_result consistent unprocessed completed
  obtain ⟨processedLast, resultLast⟩ :=
    settled_of_run processed hasResult ranAfter
  refine ⟨completion, completed, processedLast, ?_, ?_⟩
  · rw [((consistent_of_run ran).ended ended).2, resultLast,
      Option.some.injEq]
    exact reached
  · rintro rfl
    exact satisfied_of_stopped consistent unprocessed completed

/-- A recipe run that has ended is safe exactly when the abort fits: when
`async_process_recipe` goes on behind `execute_commands`, the abort has reached
the run if there was an error, and has not reached it if there was none. -/
theorem safe_iff_abortFits
    (ran : run step (initial commands) events = some last)
    (ended : last.ended = true) :
    last.Safe ↔ AbortFits commands events := by
  constructor
  · rintro ⟨quiet, spawned⟩ before after mix rfl ranBefore
    obtain ⟨completion, completed, processed, spawnedIff, _⟩ :=
      ended_of_split ranBefore ran ended
    rw [completed]
    constructor
    · rintro error ⟨⟩
      refine spawnedIff.mp (spawned ?_)
      rw [Succeeded, processed]
      simp
    · rintro ⟨⟩ satisfied
      have isQuiet := quiet processed
      rw [spawnedIff.mpr satisfied] at isQuiet
      cases isQuiet
  · intro abortFits
    obtain ⟨before, after, mix, rfl, ranBefore⟩ :=
      exists_split_of_ended ran ended
    obtain ⟨completion, completed, processed, spawnedIff, ofStopped⟩ :=
      ended_of_split ranBefore ran ended
    obtain ⟨onError, onValue⟩ := abortFits before after mix rfl ranBefore
    rw [Safe, Succeeded, processed, spawnedIff, ← Bool.not_eq_true, spawnedIff]
    cases completion with
    | value => exact ⟨fun _ => onValue completed, fun failed => absurd rfl failed⟩
    | error error => exact ⟨nofun, fun _ => onError error completed⟩
    | stopped => exact ⟨nofun, fun _ => ofStopped rfl⟩

/-- A guest cancels while two Pods dispense: both are stopped, and then
brought into the safe state. -/
theorem safe_when_guest_cancels :
    ∃ last : RecipeRun String,
      run step (initial [.parallel [.dispense ⟨1, "rum", 1⟩,
          .dispense ⟨2, "lime", 1⟩]])
        [.startWait, .execute .next, .execute .spawn, .execute (.start 0),
          .execute .spawn, .execute (.start 1), .abort, .wake,
          .execute (.executed 1 .stopped), .execute (.executed 0 .stopped),
          .execute .join, .processed, .finish] = some last ∧
      last.safeStateSpawned = true ∧
      AbortFits
        [.parallel [.dispense ⟨1, "rum", 1⟩, .dispense ⟨2, "lime", 1⟩]]
        [.startWait, .execute (.next : ExecuteCommands.Event String),
          .execute .spawn, .execute (.start 0), .execute .spawn,
          .execute (.start 1), .abort, .wake,
          .execute (.executed 1 .stopped), .execute (.executed 0 .stopped),
          .execute .join, .processed, .finish] :=
  ⟨_, rfl, rfl, (safe_iff_abortFits rfl rfl).mp ⟨nofun, fun _ => rfl⟩⟩

/-- A dispenser is empty, and the page that shows the error navigates away from
the mix page: its abort arrives when the race is over, and nobody brings the
Pods into the safe state. -/
theorem not_safe_when_dispenser_empty :
    ¬ ∀ (commands : Commands) (events : List (Event String))
      (last : RecipeRun String),
      run step (initial commands) events = some last → last.ended = true →
        last.Safe := by
  intro allSafe
  have safe := allSafe [.single (.dispense ⟨1, "rum", 1⟩)]
    [.startWait, .execute .next, .execute (.start 0),
      .execute (.executed 0 (.error "empty")), .processed, .abort, .finish]
    _ rfl rfl
  exact Bool.false_ne_true (safe.2 nofun)

end Runs

end RecipeRun

end CocktailMaker
