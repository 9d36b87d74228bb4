import CocktailMaker.LabelledRun
import Mathlib.Data.List.Basic

/-!
# Running tasks concurrently

`join_all` and `gather_all` spawn a vector of tasks into one scope and wait for
all of them.  They differ in what the first error does to the siblings.  This
file models the scope as a transition system over the events that the tasks
and the caller can cause in any order, and determines how both algorithms
complete.
-/

namespace CocktailMaker

open LabelledRun

/-- How an asynchronous task ends. -/
inductive Completion (Error : Type*)
  | value
  | error (error : Error)
  | stopped
  deriving DecidableEq

/-- The completion is `set_stopped`. -/
def Completion.isStopped {Error : Type*} : Completion Error → Bool
  | .stopped => true
  | _ => false

inductive SiblingPolicy
  | stopOnError
  | runToCompletion
  deriving DecidableEq

/-- A task that was spawned into the scope. -/
structure Child (Task Error : Type*) where
  task : Task
  completion : Option (Completion Error)
  deriving DecidableEq

/-- `run_all` returns the first error, or it is stopped. -/
inductive RunAllResult (Error : Type*)
  | returned (firstError : Option Error)
  | stopped
  deriving DecidableEq

/-- How `join_all` and `gather_all` end: they rethrow the error that `run_all`
returns. -/
def RunAllResult.rethrow {Error : Type*} :
    RunAllResult Error → Completion Error
  | .returned none => .value
  | .returned (some error) => .error error
  | .stopped => .stopped

/-- The frame of `run_all`. -/
structure RunAll (Task Error : Type*) where
  policy : SiblingPolicy
  unspawned : List Task
  children : List (Child Task Error)
  firstError : Option Error
  childrenStop : Bool
  parentStop : Bool
  result : Option (RunAllResult Error)
  deriving DecidableEq

namespace RunAll

variable {Task Error : Type*}

def start (policy : SiblingPolicy) (tasks : List Task) : RunAll Task Error :=
  ⟨policy, tasks, [], none, false, false, none⟩

def joinAll (tasks : List Task) : RunAll Task Error :=
  start .stopOnError tasks

def gatherAll (tasks : List Task) : RunAll Task Error :=
  start .runToCompletion tasks

/-- `force_safe_state_all` gathers one `force_safe_state` for every Pod. -/
def forceSafeStateAll {Pod : Type*} (forceSafeState : Pod → Task)
    (pods : List Pod) : RunAll Task Error :=
  gatherAll (pods.map forceSafeState)

/-- What can happen to the scope: the loop spawns the next task, a child ends,
the caller is asked to stop, or the join completes. -/
inductive Event (Error : Type*)
  | spawn
  | complete (child : Nat) (completion : Completion Error)
  | requestStop
  | finish
  deriving DecidableEq

/-- The callback of `upon_error`. -/
def recordError (all : RunAll Task Error) (error : Error) :
    RunAll Task Error :=
  { all with
    firstError := some (all.firstError.getD error)
    childrenStop :=
      all.childrenStop || decide (all.policy = .stopOnError) }

/-- A child ends; only an error has a callback. -/
def completeChild (all : RunAll Task Error) (child : Nat) (task : Task)
    (completion : Completion Error) : RunAll Task Error :=
  let all := { all with
    children := all.children.set child ⟨task, some completion⟩ }
  match completion with
  | .error error => all.recordError error
  | _ => all

/-- Every task has been spawned and has ended. -/
def Joined (all : RunAll Task Error) : Prop :=
  all.unspawned = [] ∧ ∀ child ∈ all.children, child.completion.isSome = true

instance (all : RunAll Task Error) : Decidable all.Joined :=
  decidable_of_iff
    (all.unspawned.isEmpty = true ∧
      ∀ child ∈ all.children, child.completion.isSome = true)
    (by rw [Joined, List.isEmpty_iff])

/-- What follows the join. -/
def afterJoin (all : RunAll Task Error) : RunAllResult Error :=
  if all.firstError.isNone = true ∧ all.parentStop = true then .stopped
  else .returned all.firstError

/-- A child is stopped only after its stop token was triggered. -/
def step (all : RunAll Task Error) : Event Error → Option (RunAll Task Error)
  | .spawn =>
      match all.unspawned with
      | [] => none
      | task :: rest =>
          some { all with
            unspawned := rest, children := all.children ++ [⟨task, none⟩] }
  | .complete child completion =>
      match all.children[child]? with
      | some ⟨task, none⟩ =>
          if completion.isStopped = true → all.childrenStop = true then
            some (all.completeChild child task completion)
          else none
      | _ => none
  | .requestStop =>
      if all.result.isNone = true then
        some { all with parentStop := true, childrenStop := true }
      else none
  | .finish =>
      if all.Joined ∧ all.result.isNone = true then
        some { all with result := some all.afterJoin }
      else none

/-- Some child ended with an error. -/
def Failed (all : RunAll Task Error) : Prop :=
  ∃ child ∈ all.children, ∃ error, child.completion = some (.error error)

/-- The errors of the children, in completion order. -/
def errors (events : List (Event Error)) : List Error :=
  events.filterMap fun
    | .complete _ (.error error) => some error
    | _ => none

section Steps

variable {all next : RunAll Task Error}

theorem step_spawn (stepped : step all .spawn = some next) :
    ∃ task rest, all.unspawned = task :: rest ∧
      next = { all with
        unspawned := rest, children := all.children ++ [⟨task, none⟩] } := by
  simp only [step] at stepped
  split at stepped
  · cases stepped
  · next task rest unspawned =>
      cases stepped
      exact ⟨task, rest, unspawned, rfl⟩

theorem step_complete {child : Nat} {completion : Completion Error}
    (stepped : step all (.complete child completion) = some next) :
    ∃ task, all.children[child]? = some ⟨task, none⟩ ∧
      (completion = .stopped → all.childrenStop = true) ∧
      next = all.completeChild child task completion := by
  simp only [step] at stepped
  split at stepped
  · next task running =>
      simp only [Option.ite_none_right_eq_some] at stepped
      obtain ⟨stoppable, completed⟩ := stepped
      cases completed
      exact ⟨task, running, fun stopped => stoppable (by rw [stopped]; rfl),
        rfl⟩
  · cases stepped

theorem step_requestStop (stepped : step all .requestStop = some next) :
    next = { all with parentStop := true, childrenStop := true } := by
  simp only [step, Option.ite_none_right_eq_some] at stepped
  exact (Option.some.inj stepped.2).symm

theorem step_finish (stepped : step all .finish = some next) :
    all.Joined ∧ next = { all with result := some all.afterJoin } := by
  simp only [step, Option.ite_none_right_eq_some] at stepped
  exact ⟨stepped.1.1, (Option.some.inj stepped.2).symm⟩

@[simp]
theorem completeChild_children (child : Nat) (task : Task)
    (completion : Completion Error) :
    (all.completeChild child task completion).children =
      all.children.set child ⟨task, some completion⟩ := by
  cases completion <;> rfl

@[simp]
theorem completeChild_unspawned (child : Nat) (task : Task)
    (completion : Completion Error) :
    (all.completeChild child task completion).unspawned = all.unspawned := by
  cases completion <;> rfl

@[simp]
theorem completeChild_policy (child : Nat) (task : Task)
    (completion : Completion Error) :
    (all.completeChild child task completion).policy = all.policy := by
  cases completion <;> rfl

@[simp]
theorem completeChild_parentStop (child : Nat) (task : Task)
    (completion : Completion Error) :
    (all.completeChild child task completion).parentStop =
      all.parentStop := by
  cases completion <;> rfl

@[simp]
theorem completeChild_result (child : Nat) (task : Task)
    (completion : Completion Error) :
    (all.completeChild child task completion).result = all.result := by
  cases completion <;> rfl

theorem childrenStop_completeChild {child : Nat} {task : Task}
    {completion : Completion Error} (triggered : all.childrenStop = true) :
    (all.completeChild child task completion).childrenStop = true := by
  cases completion <;> simp [completeChild, recordError, triggered]

theorem mem_completeChild {child : Nat} {task : Task}
    {completion : Completion Error}
    (running : all.children[child]? = some ⟨task, none⟩)
    (member : Child Task Error) :
    member ∈ (all.completeChild child task completion).children ↔
      member = ⟨task, some completion⟩ ∨
        ∃ other ≠ child, all.children[other]? = some member := by
  have inside : child < all.children.length :=
    (List.getElem?_eq_some_iff.mp running).1
  rw [completeChild_children, List.mem_iff_getElem?]
  constructor
  · rintro ⟨other, found⟩
    by_cases same : other = child
    · subst same
      rw [List.getElem?_set_self inside, Option.some.injEq] at found
      exact .inl found.symm
    · rw [List.getElem?_set_ne (Ne.symm same)] at found
      exact .inr ⟨other, same, found⟩
  · rintro (rfl | ⟨other, differs, found⟩)
    · exact ⟨child, List.getElem?_set_self inside⟩
    · exact ⟨other, by rwa [List.getElem?_set_ne (Ne.symm differs)]⟩

theorem failed_completeChild {child : Nat} {task : Task}
    {completion : Completion Error}
    (running : all.children[child]? = some ⟨task, none⟩) :
    (all.completeChild child task completion).Failed ↔
      all.Failed ∨ ∃ error, completion = .error error := by
  constructor
  · rintro ⟨member, isMember, error, failed⟩
    rcases (mem_completeChild running member).mp isMember with
      rfl | ⟨other, _, found⟩
    · exact .inr ⟨error, by simpa using failed⟩
    · exact .inl ⟨member, List.mem_of_getElem? found, error, failed⟩
  · rintro (⟨member, isMember, error, failed⟩ | ⟨error, rfl⟩)
    · obtain ⟨other, found⟩ := List.mem_iff_getElem?.mp isMember
      refine ⟨member, (mem_completeChild running member).mpr
        (.inr ⟨other, ?_, found⟩), error, failed⟩
      rintro rfl
      rw [running, Option.some.injEq] at found
      rw [← found] at failed
      cases failed
    · exact ⟨_, (mem_completeChild running _).mpr (.inl rfl), error, rfl⟩

end Steps

/-- What the events so far say about the scope. -/
structure Tracks (policy : SiblingPolicy) (tasks : List Task)
    (events : List (Event Error)) (all : RunAll Task Error) : Prop where
  policyEq : all.policy = policy
  tasksEq : all.children.map Child.task ++ all.unspawned = tasks
  firstError : all.firstError = (errors events).head?
  parentStop : all.parentStop = true ↔ .requestStop ∈ events
  childrenStop : all.childrenStop = true ↔
    .requestStop ∈ events ∨ (policy = .stopOnError ∧ all.Failed)
  failed : all.Failed ↔ errors events ≠ []
  stopped : ∀ child ∈ all.children, child.completion = some .stopped →
    all.childrenStop = true
  result : ∀ result, all.result = some result →
    all.Joined ∧ result = all.afterJoin

section Runs

variable {policy : SiblingPolicy} {tasks : List Task}
  {events : List (Event Error)} {all next : RunAll Task Error}

theorem tracks_start :
    Tracks policy tasks [] (start policy tasks : RunAll Task Error) where
  policyEq := rfl
  tasksEq := rfl
  firstError := rfl
  parentStop := by simp [start]
  childrenStop := by simp [start, Failed]
  failed := by simp [start, Failed, errors]
  stopped := by simp [start]
  result := by simp [start]

theorem errors_concat (event : Event Error) :
    errors (events ++ [event]) = errors events ++ errors [event] :=
  List.filterMap_append

theorem tracks_spawn (tracks : Tracks policy tasks events all)
    (stepped : step all .spawn = some next) :
    Tracks policy tasks (events ++ [.spawn]) next := by
  obtain ⟨task, rest, unspawned, rfl⟩ := step_spawn stepped
  have sameFailed : Failed { all with
        unspawned := rest, children := all.children ++ [⟨task, none⟩] } ↔
      all.Failed := by
    simp [Failed]
  have sameErrors : errors (events ++ [.spawn]) = errors events := by
    simp [errors]
  constructor
  · exact tracks.policyEq
  · simpa [unspawned] using tracks.tasksEq
  · rw [sameErrors]
    exact tracks.firstError
  · simpa using tracks.parentStop
  · rw [sameFailed]
    simpa using tracks.childrenStop
  · rw [sameFailed, sameErrors]
    exact tracks.failed
  · intro child member stopped
    simp only [List.mem_append, List.mem_singleton] at member
    rcases member with before | rfl
    · exact tracks.stopped child before stopped
    · cases stopped
  · intro result finished
    rw [(tracks.result result finished).1.1] at unspawned
    cases unspawned

theorem tracks_complete (tracks : Tracks policy tasks events all)
    {child : Nat} {completion : Completion Error}
    (stepped : step all (.complete child completion) = some next) :
    Tracks policy tasks (events ++ [.complete child completion]) next := by
  obtain ⟨task, running, stoppable, rfl⟩ := step_complete stepped
  have inside : child < all.children.length :=
    (List.getElem?_eq_some_iff.mp running).1
  have sameTasks : (all.children.set child ⟨task, some completion⟩).map
      Child.task = all.children.map Child.task := by
    have taskEq : (all.children.map Child.task)[child]? = some task := by
      simp [running]
    obtain ⟨bound, rfl⟩ := List.getElem?_eq_some_iff.mp taskEq
    rw [List.map_set, List.set_getElem_self]
  constructor
  · simpa using tracks.policyEq
  · rw [completeChild_children, completeChild_unspawned, sameTasks]
    exact tracks.tasksEq
  · cases completion with
    | error error =>
        simp only [completeChild, recordError, tracks.firstError,
          errors_concat]
        simp [errors, List.head?_append]
    | value => simpa [errors, completeChild] using tracks.firstError
    | stopped => simpa [errors, completeChild] using tracks.firstError
  · simpa using tracks.parentStop
  · rw [failed_completeChild running]
    cases completion with
    | error error =>
        simp [completeChild, recordError, tracks.childrenStop, tracks.policyEq]
        tauto
    | value => simpa [completeChild] using tracks.childrenStop
    | stopped => simpa [completeChild] using tracks.childrenStop
  · rw [failed_completeChild running, tracks.failed, errors_concat]
    cases completion <;> simp [errors]
  · intro member isMember isStopped
    refine childrenStop_completeChild ?_
    rcases (mem_completeChild running member).mp isMember with
      rfl | ⟨other, _, found⟩
    · exact stoppable (Option.some.inj isStopped)
    · exact tracks.stopped member (List.mem_of_getElem? found) isStopped
  · intro result finished
    rw [completeChild_result] at finished
    have ended := (tracks.result result finished).1.2 _
      (List.mem_of_getElem? running)
    cases ended

theorem tracks_requestStop (tracks : Tracks policy tasks events all)
    (stepped : step all .requestStop = some next) :
    Tracks policy tasks (events ++ [.requestStop]) next := by
  have unfinished : all.result = none := by
    simp only [step, Option.ite_none_right_eq_some,
      Option.isNone_iff_eq_none] at stepped
    exact stepped.1
  have eq := step_requestStop stepped
  subst eq
  have sameErrors : errors (events ++ [.requestStop]) = errors events := by
    simp [errors]
  constructor
  · exact tracks.policyEq
  · exact tracks.tasksEq
  · rw [sameErrors]
    exact tracks.firstError
  · simp
  · simp
  · rw [sameErrors]
    exact tracks.failed
  · simp
  · intro result finished
    rw [unfinished] at finished
    cases finished

theorem tracks_finish (tracks : Tracks policy tasks events all)
    (stepped : step all .finish = some next) :
    Tracks policy tasks (events ++ [.finish]) next := by
  obtain ⟨joined, rfl⟩ := step_finish stepped
  have sameErrors : errors (events ++ [.finish]) = errors events := by
    simp [errors]
  constructor
  · exact tracks.policyEq
  · exact tracks.tasksEq
  · rw [sameErrors]
    exact tracks.firstError
  · simpa using tracks.parentStop
  · change all.childrenStop = true ↔ _ ∨ (_ ∧ all.Failed)
    simpa using tracks.childrenStop
  · rw [sameErrors]
    exact tracks.failed
  · exact tracks.stopped
  · intro result finished
    cases finished
    exact ⟨joined, rfl⟩

theorem tracks_of_run
    (ran : run step (start policy tasks) events = some all) :
    Tracks policy tasks events all := by
  refine history_of_run _ tracks_start ?_ ran
  intro events all event next _ tracks stepped
  cases event with
  | spawn => exact tracks_spawn tracks stepped
  | complete child completion => exact tracks_complete tracks stepped
  | requestStop => exact tracks_requestStop tracks stepped
  | finish => exact tracks_finish tracks stepped

/-- How an algorithm completes: after every child, with the first error in
completion order if there is one, stopped if there is none and the caller was
stopped, and otherwise with a value, as every child has. -/
structure OutcomeLaw (tasks : List Task) (events : List (Event Error))
    (all : RunAll Task Error) (completion : Completion Error) : Prop where
  everyChild : all.children.map Child.task = tasks ∧
    ∀ child ∈ all.children, child.completion.isSome = true
  failed : (∃ error, completion = .error error) ↔ all.Failed
  first : ∀ error, completion = .error error →
    (errors events).head? = some error
  stopped : ¬ all.Failed → (completion = .stopped ↔ .requestStop ∈ events)
  value : ¬ all.Failed → .requestStop ∉ events →
    completion = .value ∧ ∀ child ∈ all.children,
      child.completion = some .value

theorem Tracks.all_value (tracks : Tracks policy tasks events all)
    (joined : all.Joined) (noError : ¬ all.Failed)
    (notStopped : .requestStop ∉ events) :
    ∀ child ∈ all.children, child.completion = some .value := by
  intro child member
  obtain ⟨completion, ended⟩ :=
    Option.isSome_iff_exists.mp (joined.2 child member)
  cases completion with
  | value => exact ended
  | error error => exact absurd ⟨child, member, error, ended⟩ noError
  | stopped =>
      rcases tracks.childrenStop.mp (tracks.stopped child member ended) with
        requested | ⟨_, failed⟩
      · exact absurd requested notStopped
      · exact absurd failed noError

theorem outcomeLaw_of_tracks (tracks : Tracks policy tasks events all)
    {result : RunAllResult Error} (finished : all.result = some result) :
    OutcomeLaw tasks events all result.rethrow := by
  obtain ⟨joined, rfl⟩ := tracks.result result finished
  have everyChild : all.children.map Child.task = tasks := by
    rw [← tracks.tasksEq, joined.1, List.append_nil]
  cases firstError : all.firstError with
  | some error =>
      have head : (errors events).head? = some error := by
        rw [← tracks.firstError, firstError]
      have failed : all.Failed := by
        rw [tracks.failed]
        rintro noErrors
        rw [noErrors] at head
        cases head
      have outcome : all.afterJoin.rethrow = .error error := by
        simp [afterJoin, firstError, RunAllResult.rethrow]
      rw [outcome]
      refine ⟨⟨everyChild, joined.2⟩, by simp [failed], ?_, by simp [failed],
        by simp [failed]⟩
      rintro _ ⟨⟩
      exact head
  | none =>
      have noError : ¬ all.Failed := by
        rw [tracks.failed, not_not, ← List.head?_eq_none_iff,
          ← tracks.firstError, firstError]
      cases stopped : all.parentStop with
      | true =>
          have requested := tracks.parentStop.mp stopped
          have outcome : all.afterJoin.rethrow = .stopped := by
            simp [afterJoin, firstError, stopped, RunAllResult.rethrow]
          rw [outcome]
          exact ⟨⟨everyChild, joined.2⟩, by simp [noError], by simp,
            by simp [requested], by simp [requested]⟩
      | false =>
          have notRequested : .requestStop ∉ events := by
            rw [← tracks.parentStop, stopped]
            exact Bool.false_ne_true
          have outcome : all.afterJoin.rethrow = .value := by
            simp [afterJoin, firstError, stopped, RunAllResult.rethrow]
          rw [outcome]
          exact ⟨⟨everyChild, joined.2⟩, by simp [noError], by simp,
            by simp [notRequested], fun _ _ =>
              ⟨rfl, tracks.all_value joined noError notRequested⟩⟩

/-- Whatever the order of events, both algorithms complete by the same law.
Joining triggers the stop token of the children exactly when a child has
failed or the caller was stopped, gathering exactly when the caller was
stopped; so a safe-state command reaches every Pod. -/
theorem joinAll_gatherAll_outcome (tasks : List Task)
    (events : List (Event Error)) :
    (∀ all, run step (joinAll tasks) events = some all →
      (∀ result, all.result = some result →
        OutcomeLaw tasks events all result.rethrow) ∧
      (all.childrenStop = true ↔ .requestStop ∈ events ∨ all.Failed)) ∧
    (∀ all, run step (gatherAll tasks) events = some all →
      (∀ result, all.result = some result →
        OutcomeLaw tasks events all result.rethrow) ∧
      (all.childrenStop = true ↔ .requestStop ∈ events)) ∧
    ∀ (Pod : Type) (forceSafeState : Pod → Task) pods all,
      run step (forceSafeStateAll forceSafeState pods) events = some all →
        (∀ result, all.result = some result →
          OutcomeLaw (pods.map forceSafeState) events all result.rethrow) ∧
        (all.childrenStop = true ↔ .requestStop ∈ events) := by
  have gathered : ∀ (gatherTasks : List Task) (all : RunAll Task Error),
      run step (gatherAll gatherTasks) events = some all →
        (∀ result, all.result = some result →
          OutcomeLaw gatherTasks events all result.rethrow) ∧
        (all.childrenStop = true ↔ .requestStop ∈ events) := by
    intro gatherTasks all ran
    have tracks : Tracks .runToCompletion gatherTasks events all :=
      tracks_of_run ran
    refine ⟨fun result finished => outcomeLaw_of_tracks tracks finished, ?_⟩
    rw [tracks.childrenStop]
    simp
  refine ⟨?_, gathered tasks, ?_⟩
  · intro all ran
    have tracks : Tracks .stopOnError tasks events all := tracks_of_run ran
    refine ⟨fun result finished => outcomeLaw_of_tracks tracks finished, ?_⟩
    rw [tracks.childrenStop]
    simp
  · intro Pod forceSafeState pods all ran
    exact gathered (pods.map forceSafeState) all ran

/-- The second of two tasks fails while the first one runs; the first one is
stopped and joining rethrows the error. -/
theorem joinAll_first_error :
    ∃ all : RunAll Nat String,
      run step (joinAll [0, 1]) [.spawn, .spawn, .complete 1 (.error "boom"),
        .complete 0 .stopped, .finish] = some all ∧
      OutcomeLaw [0, 1] [.spawn, .spawn, .complete 1 (.error "boom"),
        .complete 0 .stopped, .finish] all (.error "boom") := by
  have ran : run step (joinAll [0, 1] : RunAll Nat String)
        [.spawn, .spawn, .complete 1 (.error "boom"), .complete 0 .stopped,
          .finish] =
      some ⟨.stopOnError, [], [⟨0, some .stopped⟩, ⟨1, some (.error "boom")⟩],
        some "boom", true, false, some (.returned (some "boom"))⟩ := by
    decide
  have law := ((joinAll_gatherAll_outcome [0, 1] _).1 _ ran).1 _ rfl
  exact ⟨_, ran, law⟩

end Runs

end RunAll

end CocktailMaker
