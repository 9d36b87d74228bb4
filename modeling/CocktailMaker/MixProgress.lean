import CocktailMaker.CommandRows
import Mathlib.Data.List.Pairwise

/-!
# The progress of a recipe on the screen

While a recipe is processed, the executer reports on one thread and the screen
is changed on another: every report is a closure for the event loop.  The rows
on the screen show the progress as it was at some earlier point of the run,
and once the pending closures have run they show it as it is.
-/

namespace CocktailMaker

namespace MixProgress

open LabelledRun CommandRows

/-- What is posted to the event loop: `update_ui_recipe` and
`update_command_status`. -/
inductive Closure
  | updateUiRecipe (rows : List CommandRow)
  | updateCommandStatus (id : CommandId) (status : CommandStatus)

def Closure.perform (rows : List CommandRow) : Closure → List CommandRow
  | .updateUiRecipe shown => shown
  | .updateCommandStatus id status =>
      CommandRows.updateCommandStatus id status rows

def performAll (closures : List Closure) (rows : List CommandRow) :
    List CommandRow :=
  closures.foldl Closure.perform rows

/-- The reports of a call of the executer. -/
def closureOf {Error : Type*} : Call Error → Option Closure
  | .updateCommandStatus id status => some (.updateCommandStatus id status)
  | .executeCommand _ => none
  | .executed _ => none

def closures {Error : Type*} (trace : List (Entry Error)) : List Closure :=
  trace.filterMap fun entry => closureOf entry.call

/-- The run of `execute_commands`, the closures that have not run, and the
rows of the active recipe. -/
structure Mix (Error : Type*) where
  executing : ExecuteCommands Error
  queue : List Closure
  rows : List CommandRow

/-- `execute_commands` takes a step, or the event loop runs a closure. -/
inductive Event (Error : Type*)
  | execute (event : ExecuteCommands.Event Error)
  | runClosure
  deriving DecidableEq

section Model

variable {Error : Type*} (formatMilliLitre : Int → String)
  (store : IngredientStore)

/-- `async_process_recipe` before it awaits `execute_commands`.  The rows are
those of whatever was shown before. -/
def start (commands : Commands) (rows : List CommandRow) : Mix Error where
  executing := .initial commands
  queue := [.updateUiRecipe (transform formatMilliLitre commands store)]
  rows := rows

def step (mix : Mix Error) : Event Error → Option (Mix Error)
  | .execute event =>
      (ExecuteCommands.step mix.executing event).map fun executing =>
        { mix with
          executing
          queue := mix.queue ++
            closures (executing.trace.drop mix.executing.trace.length) }
  | .runClosure =>
      match mix.queue with
      | [] => none
      | closure :: queue =>
          some { mix with queue, rows := closure.perform mix.rows }

/-- The status that a row has in a phase of its command.  A command that fails
or is stopped stays in progress. -/
def statusOf : Phase Error → RowStatus
  | .notBegun => .notStarted
  | .executing => .inProgress
  | .ended .value => .finished
  | .ended _ => .inProgress

/-- The commands with their positions, in order. -/
def places (commands : Commands) : List (Position × Command) :=
  commands.zipIdx.flatMap fun
    | (.single command, item) => [(⟨item, 0⟩, command)]
    | (.parallel group, item) => group.zipIdx.map fun (command, member) =>
        (⟨item, member⟩, command)

/-- The rows that show how far every command has come. -/
def progressRows (executing : ExecuteCommands Error) : List CommandRow :=
  (places executing.commands).filterMap fun (position, command) =>
    (transformCommand formatMilliLitre command store).map fun row =>
      { row with status := statusOf (executing.phaseAt position) }

end Model

section Places

variable {commands : Commands} {position : Position} {command : Command}

theorem map_snd_places : (places commands).map Prod.snd = commands.leaves := by
  have counted (first : Nat) : ((commands.zipIdx first).flatMap fun
      | (RecipeItem.single command, item) => [((⟨item, 0⟩ : Position), command)]
      | (.parallel group, item) => group.zipIdx.map fun (command, member) =>
          (⟨item, member⟩, command)).map Prod.snd = commands.leaves := by
    induction commands generalizing first with
    | nil => rfl
    | cons item commands ih =>
        rw [List.zipIdx_cons, List.flatMap_cons, List.map_append, ih,
          Commands.leaves, Commands.leaves, List.flatMap_cons]
        congr 1
        cases item with
        | single command => rfl
        | parallel group =>
            rw [List.map_map]
            exact List.zipIdx_map_fst 0 group
  exact counted 0

theorem mem_places : (position, command) ∈ places commands ↔
    commandAt commands position = some command := by
  obtain ⟨item, member⟩ := position
  simp only [places, List.mem_flatMap, Prod.exists, commandAt,
    List.mk_mem_zipIdx_iff_getElem?]
  constructor
  · rintro ⟨found, place, isAt, isMember⟩
    cases found with
    | single other =>
        simp only [List.mem_singleton, Prod.mk.injEq, Position.mk.injEq]
          at isMember
        obtain ⟨⟨rfl, rfl⟩, rfl⟩ := isMember
        simp [isAt]
    | parallel group =>
        simp only [List.mem_map, Prod.exists, Prod.mk.injEq, Position.mk.injEq,
          List.mk_mem_zipIdx_iff_getElem?] at isMember
        obtain ⟨other, index, inGroup, ⟨rfl, rfl⟩, rfl⟩ := isMember
        simp [isAt, inGroup]
  · intro found
    split at found
    · next other isAt =>
        obtain ⟨rfl, rfl⟩ : member = 0 ∧ other = command := by
          simpa using found
        exact ⟨_, item, isAt, by simp⟩
    · next group isAt =>
        refine ⟨_, item, isAt, ?_⟩
        simp only [List.mem_map, Prod.exists, Prod.mk.injEq, Position.mk.injEq,
          List.mk_mem_zipIdx_iff_getElem?]
        exact ⟨command, member, found, ⟨trivial, rfl⟩, rfl⟩
    · cases found

theorem position_eq_of_id (distinct : (commandIds commands.leaves).Nodup)
    {other : Position} {otherCommand : Command} {id : CommandId}
    (found : commandAt commands position = some command)
    (otherFound : commandAt commands other = some otherCommand)
    (hasId : command.id? = some id) (otherId : otherCommand.id? = some id) :
    position = other := by
  let Differ (first second : Position × Command) : Prop :=
    ∀ id, first.2.id? = some id → ∀ otherId, second.2.id? = some otherId →
      id ≠ otherId
  have : Std.Symm Differ :=
    ⟨fun _ _ differ _ first _ second => (differ _ second _ first).symm⟩
  have differ : (places commands).Pairwise Differ := by
    rw [← map_snd_places, commandIds, List.filterMap_map, List.Nodup,
      List.pairwise_filterMap] at distinct
    exact distinct
  by_contra apart
  have separate : (position, command) ≠ (other, otherCommand) :=
    fun same => apart (congrArg Prod.fst same)
  exact differ.forall (mem_places.mpr found) (mem_places.mpr otherFound)
    separate id hasId id otherId rfl

end Places

section Statuses

variable {Error : Type*}

/-- The status of the row with an id after a call. -/
def statusAfter (id : CommandId) (status : RowStatus) :
    Call Error → RowStatus
  | .updateCommandStatus other changed =>
      if id = other then uiStatus changed else status
  | _ => status

/-- Performing the reports changes every row by those with its id. -/
theorem performAll_closures (trace : List (Entry Error))
    {rows : List CommandRow} (distinct : (rows.map CommandRow.id).Nodup) :
    performAll (closures trace) rows = rows.map fun row =>
      { row with status :=
          (trace.map Entry.call).foldl (statusAfter row.id) row.status } := by
  induction trace generalizing rows with
  | nil => exact (List.map_id' rows).symm
  | cons entry trace ih =>
      obtain ⟨position, call⟩ := entry
      cases call with
      | updateCommandStatus id status =>
          have sameIds : (updateCommandStatus id status rows).map
              CommandRow.id = rows.map CommandRow.id := by
            rw [updateCommandStatus_eq_map distinct, List.map_map]
            refine List.map_congr_left fun row _ => ?_
            simp only [Function.comp_apply]
            split <;> rfl
          have distinctNext := sameIds ▸ distinct
          refine (ih distinctNext).trans ?_
          rw [updateCommandStatus_eq_map distinct, List.map_map]
          refine List.map_congr_left fun row _ => ?_
          simp only [Function.comp_apply, List.map_cons, List.foldl_cons,
            statusAfter]
          split <;> rfl
      | executeCommand command => exact ih distinct
      | executed completion => exact ih distinct

theorem id_of_mem_callsUntil {command : Command} {phase : Phase Error}
    {id : CommandId} {status : CommandStatus}
    (member : .updateCommandStatus id status ∈ callsUntil command phase) :
    command.id? = some id := by
  unfold callsUntil at member
  split at member
  · cases member
  · next other hasId =>
      have isOther : id = other := by
        cases phase with
        | notBegun => cases member
        | executing =>
            simp [beginCalls] at member
            exact member.1
        | ended completion =>
            cases completion with
            | value =>
                simp [beginCalls, endCalls] at member
                exact member.elim And.left And.left
            | error error =>
                simp [beginCalls, endCalls] at member
                exact member.1
            | stopped =>
                simp [beginCalls, endCalls] at member
                exact member.1
      rw [hasId, isOther]

/-- The reports for a command leave its row with the status of its phase. -/
theorem foldl_callsUntil {command : Command} {id : CommandId}
    (hasId : command.id? = some id) (phase : Phase Error) :
    (callsUntil command phase).foldl (statusAfter id) .notStarted =
      statusOf phase := by
  rw [callsUntil, hasId]
  cases phase with
  | notBegun => rfl
  | executing => simp [beginCalls, statusAfter, uiStatus, statusOf]
  | ended completion =>
      cases completion <;>
        simp [beginCalls, endCalls, statusAfter, uiStatus, statusOf]

theorem foldl_callsAt {position : Position} {id : CommandId}
    {trace : List (Entry Error)}
    (others : ∀ entry ∈ trace, entry.position ≠ position →
      ∀ status, entry.call ≠ .updateCommandStatus id status)
    (status : RowStatus) :
    (trace.map Entry.call).foldl (statusAfter id) status =
      (callsAt position trace).foldl (statusAfter id) status := by
  induction trace generalizing status with
  | nil => rfl
  | cons entry trace ih =>
      obtain ⟨here, later⟩ := List.forall_mem_cons.mp others
      by_cases isHere : entry.position = position
      · simp [callsAt, isHere, ih later]
      · have skipped : statusAfter id status entry.call = status := by
          have notReported := here isHere
          unfold statusAfter
          split
          · next other changed isCall =>
              refine if_neg fun same => notReported changed ?_
              rw [isCall, same]
          · rfl
        rw [List.map_cons, List.foldl_cons, skipped, ih later]
        simp [callsAt, isHere]

/-- Once every report has been performed, the rows show the progress. -/
theorem performAll_trace {formatMilliLitre : Int → String}
    {store : IngredientStore} {executing : ExecuteCommands Error}
    (distinct : (commandIds executing.commands.leaves).Nodup)
    (traced : ExecuteCommands.Traced executing) :
    performAll (closures executing.trace)
        (transform formatMilliLitre executing.commands store) =
      progressRows formatMilliLitre store executing := by
  have distinctRows :=
    (ids_transform_sublist formatMilliLitre executing.commands store).nodup
      distinct
  rw [performAll_closures _ distinctRows, transform_eq, ← map_snd_places,
    List.filterMap_map, List.map_filterMap, progressRows]
  refine List.filterMap_congr fun (position, command) member => ?_
  have found := mem_places.mp member
  simp only [Function.comp_apply]
  cases shown : transformCommand formatMilliLitre command store with
  | none => rfl
  | some row =>
      obtain ⟨hasId, notStarted⟩ := transformCommand_row shown
      have others : ∀ entry ∈ executing.trace, entry.position ≠ position →
          ∀ status, entry.call ≠ .updateCommandStatus row.id status := by
        intro entry isEntry apart status isReport
        have isCall : .updateCommandStatus row.id status ∈
            callsAt entry.position executing.trace :=
          mem_callsAt.mpr (isReport ▸ isEntry)
        rw [traced.calls, ExecuteCommands.expectedCalls] at isCall
        split at isCall
        · cases isCall
        · next other otherFound =>
            exact apart (position_eq_of_id distinct otherFound found
              (id_of_mem_callsUntil isCall) hasId)
      have status := foldl_callsAt others .notStarted
      rw [traced.calls, ExecuteCommands.expectedCalls, found] at status
      simp only [Option.map_some, notStarted, status, foldl_callsUntil hasId]

end Statuses

section Runs

variable {Error : Type*} {formatMilliLitre : Int → String}
  {store : IngredientStore}

/-- The calls that were made are kept, and at most one report is added. -/
def Reports (executing next : ExecuteCommands Error) : Prop :=
  ∃ calls, next.trace = executing.trace ++ calls ∧
    (closures calls).length ≤ 1

variable {executing next : ExecuteCommands Error}

theorem reports_of_trace_eq (sameTrace : next.trace = executing.trace) :
    Reports executing next :=
  ⟨[], by rw [sameTrace, List.append_nil], Nat.zero_le 1⟩

theorem reports_begin (position : Position) (id : CommandId)
    (command : Command) (added : next.trace = executing.trace ++
      entriesAt position (beginCalls id command)) :
    Reports executing next :=
  ⟨_, added, le_rfl⟩

theorem reports_end (position : Position) (id : CommandId)
    (completion : Completion Error) (added : next.trace = executing.trace ++
      entriesAt position (endCalls id completion)) :
    Reports executing next := by
  refine ⟨_, added, ?_⟩
  cases completion <;>
    simp [closures, closureOf, entriesAt, endCalls]

@[simp]
theorem trace_afterItem (executing : ExecuteCommands Error)
    (completion : Completion Error) :
    (executing.afterItem completion).trace = executing.trace := by
  cases completion <;> rfl

theorem reports_beginCommand {member : Nat}
    (began : executing.beginCommand member = some next) :
    Reports executing next := by
  unfold ExecuteCommands.beginCommand at began
  split at began
  · cases began
  · obtain ⟨_, began⟩ := Option.ite_none_right_eq_some.mp began
    split at began <;> cases began
    · exact reports_of_trace_eq (trace_afterItem _ _)
    · exact reports_begin _ _ _ rfl
  · cases began
  · split at began
    · obtain ⟨_, began⟩ := Option.ite_none_left_eq_some.mp began
      split at began
      · obtain ⟨all, _, rfl⟩ := Option.map_eq_some_iff.mp began
        exact reports_of_trace_eq rfl
      · cases began
        exact reports_begin _ _ _ rfl
    · cases began

theorem reports_endCommand {member : Nat} {completion : Completion Error}
    (ended : executing.endCommand member completion = some next) :
    Reports executing next := by
  unfold ExecuteCommands.endCommand at ended
  split at ended
  · cases ended
  · obtain ⟨_, ended⟩ := Option.ite_none_right_eq_some.mp ended
    obtain ⟨id, _, rfl⟩ := Option.map_eq_some_iff.mp ended
    exact reports_end _ id completion (trace_afterItem _ _)
  · cases ended
  · split at ended
    · obtain ⟨_, ended⟩ := Option.ite_none_right_eq_some.mp ended
      obtain ⟨id, _, ended⟩ := Option.bind_eq_some_iff.mp ended
      obtain ⟨all, _, rfl⟩ := Option.map_eq_some_iff.mp ended
      exact reports_end _ id completion rfl
    · cases ended

theorem reports_step {event : ExecuteCommands.Event Error}
    (stepped : ExecuteCommands.step executing event = some next) :
    Reports executing next := by
  unfold ExecuteCommands.step at stepped
  obtain ⟨_, stepped⟩ := Option.ite_none_left_eq_some.mp stepped
  cases event with
  | next =>
      obtain ⟨_, ⟨⟩⟩ := Option.ite_none_right_eq_some.mp stepped
      unfold ExecuteCommands.nextItem
      split <;> exact reports_of_trace_eq rfl
  | start member => exact reports_beginCommand stepped
  | executed member completion => exact reports_endCommand stepped
  | spawn =>
      simp only [ExecuteCommands.spawnMember] at stepped
      split at stepped
      · obtain ⟨all, _, rfl⟩ := Option.map_eq_some_iff.mp stepped
        exact reports_of_trace_eq rfl
      · cases stepped
  | join =>
      simp only [ExecuteCommands.joinGroup] at stepped
      split at stepped
      · obtain ⟨all, _, rfl⟩ := Option.map_eq_some_iff.mp stepped
        exact reports_of_trace_eq (trace_afterItem _ _)
      · cases stepped
  | requestStop =>
      cases stepped
      exact reports_of_trace_eq rfl

theorem closures_append (first second : List (Entry Error)) :
    closures (first ++ second) = closures first ++ closures second :=
  List.filterMap_append

/-- After every number of reports there was a moment of the run. -/
theorem exists_earlier {commands : Commands}
    {events : List (ExecuteCommands.Event Error)}
    (ran : run ExecuteCommands.step (.initial commands) events =
      some executing)
    {done pending : List Closure}
    (split : closures executing.trace = done ++ pending) :
    ∃ earlier visited, earlier <+: events ∧
      run ExecuteCommands.step (.initial commands) earlier = some visited ∧
      closures visited.trace = done := by
  induction events using List.reverseRecOn generalizing executing pending with
  | nil =>
      cases ran
      exact ⟨[], _, List.prefix_rfl, rfl,
        (List.append_eq_nil_iff.mp split.symm).1.symm⟩
  | append_singleton events event ih =>
      obtain ⟨middle, ranBefore, stepped⟩ := run_concat_eq_some.mp ran
      obtain ⟨calls, added, atMostOne⟩ := reports_step stepped
      cases pending with
      | nil =>
          rw [List.append_nil] at split
          exact ⟨_, executing, List.prefix_rfl, ran, split⟩
      | cons first pending =>
          -- The last step made one of the pending reports at most.
          rw [added, closures_append] at split
          have shorter : done.length ≤ (closures middle.trace).length := by
            have lengths := congrArg List.length split
            simp only [List.length_append, List.length_cons] at lengths
            omega
          have isPrefix : done <+: closures middle.trace :=
            List.prefix_of_prefix_length_le ⟨first :: pending, split.symm⟩
              (List.prefix_append _ _) shorter
          obtain ⟨rest, whole⟩ := isPrefix
          obtain ⟨earlier, visited, before, ranEarlier, isDone⟩ :=
            ih ranBefore whole.symm
          exact ⟨earlier, visited, before.trans (List.prefix_append _ _),
            ranEarlier, isDone⟩

/-- What has happened in `execute_commands`. -/
def executed (events : List (Event Error)) :
    List (ExecuteCommands.Event Error) :=
  events.filterMap fun
    | .execute event => some event
    | .runClosure => none

/-- The pending closures are those that have not run, in order. -/
structure Shown (formatMilliLitre : Int → String) (store : IngredientStore)
    (commands : Commands) (rows : List CommandRow)
    (events : List (Event Error)) (mix : Mix Error) : Prop where
  ran : run ExecuteCommands.step (.initial commands) (executed events) =
    some mix.executing
  queued : (mix.rows = rows ∧ mix.queue =
      .updateUiRecipe (transform formatMilliLitre commands store) ::
        closures mix.executing.trace) ∨
    ∃ done, closures mix.executing.trace = done ++ mix.queue ∧
      mix.rows = performAll done (transform formatMilliLitre commands store)

theorem shown_of_run {commands : Commands} {rows : List CommandRow}
    {events : List (Event Error)} {mix : Mix Error}
    (ran : run step (start formatMilliLitre store commands rows) events =
      some mix) :
    Shown formatMilliLitre store commands rows events mix := by
  refine history_of_run (Shown formatMilliLitre store commands rows)
    ⟨rfl, .inl ⟨rfl, rfl⟩⟩ ?_ ran
  rintro events mix event next _ ⟨ranBefore, queued⟩ stepped
  cases event with
  | execute event =>
      obtain ⟨executing, isStep, rfl⟩ := Option.map_eq_some_iff.mp stepped
      obtain ⟨calls, added, _⟩ := reports_step isStep
      have ranNow : run ExecuteCommands.step (.initial commands)
          (executed (events ++ [.execute event])) = some executing := by
        rw [executed, List.filterMap_append]
        exact run_concat_eq_some.mpr ⟨_, ranBefore, isStep⟩
      refine ⟨ranNow, ?_⟩
      dsimp only
      rw [added, List.drop_left, closures_append]
      rcases queued with ⟨sameRows, isQueue⟩ | ⟨done, split, isRows⟩
      · exact .inl ⟨sameRows, by rw [isQueue, List.cons_append]⟩
      · exact .inr ⟨done, by rw [split, List.append_assoc], isRows⟩
  | runClosure =>
      simp only [step] at stepped
      split at stepped
      · cases stepped
      · next closure queue isQueue =>
          cases stepped
          refine ⟨?_, .inr ?_⟩
          · rw [executed, List.filterMap_append]
            exact (congrArg _ (List.append_nil _)).trans ranBefore
          · rcases queued with ⟨_, whole⟩ | ⟨done, split, isRows⟩
            · obtain ⟨rfl, rfl⟩ := List.cons.inj (isQueue.symm.trans whole)
              exact ⟨[], rfl, rfl⟩
            · refine ⟨done ++ [closure], ?_, ?_⟩
              · rw [split, isQueue, List.append_cons]
              · rw [isRows, performAll, performAll, List.foldl_append]
                rfl

/-- The ids of a recipe in the store stay apart in whatever is made of it. -/
theorem distinct_of_derived {recipe : Recipe} {commands : Commands}
    (derived :
      Derived store (assignUniqueCommandIds recipe).commands commands) :
    (commandIds commands.leaves).Nodup := by
  have sameIds := SameStep.commandIds_eq derived.sameSteps.leaves
  rw [← sameIds, commandIds_assignUniqueCommandIds recipe]
  exact consecutive_nodup 1 _

theorem progressRows_finished
    (consistent : ExecuteCommands.Consistent executing)
    (finished : executing.outcome = some .value) {row : CommandRow}
    (member : row ∈ progressRows formatMilliLitre store executing) :
    row.status = .finished := by
  obtain ⟨⟨position, command⟩, isPlace, isRow⟩ := List.mem_filterMap.mp member
  obtain ⟨initial, _, rfl⟩ := Option.map_eq_some_iff.mp isRow
  have through := ((consistent.ended .value finished).value rfl).1
  have found := mem_places.mp isPlace
  have behind : position.item < executing.item := by
    by_contra notBehind
    rw [commandAt, List.getElem?_eq_none ((List.getElem?_eq_none_iff.mp
      through).trans (Nat.not_lt.mp notBehind))] at found
    cases found
  simp only [ExecuteCommands.phaseAt, if_pos behind, statusOf]

/-- The rows on the screen are the ones from before, or they show the progress
as it was at some moment of the run.  With the pending closures performed they
show it as it is, and everything as finished when the recipe is. -/
theorem rows_show_progress {recipe : Recipe} {commands : Commands}
    (derived : Derived store (assignUniqueCommandIds recipe).commands commands)
    {rows : List CommandRow} {events : List (Event Error)} {mix : Mix Error}
    (ran : run step (start formatMilliLitre store commands rows) events =
      some mix) :
    performAll mix.queue mix.rows =
        progressRows formatMilliLitre store mix.executing ∧
      (mix.rows = rows ∨ ∃ earlier visited, earlier <+: executed events ∧
        run ExecuteCommands.step (.initial commands) earlier = some visited ∧
        mix.rows = progressRows formatMilliLitre store visited) ∧
      (mix.executing.outcome = some .value →
        ∀ row ∈ performAll mix.queue mix.rows, row.status = .finished) := by
  have distinct := distinct_of_derived derived
  obtain ⟨ranCommands, queued⟩ := shown_of_run ran
  have shows {visited : ExecuteCommands Error}
      {events : List (ExecuteCommands.Event Error)}
      (ranVisited : run ExecuteCommands.step (.initial commands) events =
        some visited) :
      performAll (closures visited.trace)
          (transform formatMilliLitre commands store) =
        progressRows formatMilliLitre store visited := by
    obtain ⟨consistent, sameCommands⟩ :=
      ExecuteCommands.consistent_of_run ranVisited
    rw [← sameCommands]
    exact performAll_trace (sameCommands ▸ distinct) consistent.traced
  have shownLast : performAll mix.queue mix.rows =
      progressRows formatMilliLitre store mix.executing := by
    rw [← shows ranCommands]
    rcases queued with ⟨_, isQueue⟩ | ⟨done, split, isRows⟩
    · rw [isQueue]
      rfl
    · rw [split, isRows, performAll, performAll, performAll, List.foldl_append]
  refine ⟨shownLast, ?_, fun finished row member => ?_⟩
  · rcases queued with ⟨sameRows, _⟩ | ⟨done, split, isRows⟩
    · exact .inl sameRows
    · obtain ⟨earlier, visited, before, ranEarlier, isDone⟩ :=
        exists_earlier ranCommands split
      refine .inr ⟨earlier, visited, before, ranEarlier, ?_⟩
      rw [isRows, ← isDone, shows ranEarlier]
  · obtain ⟨consistent, _⟩ := ExecuteCommands.consistent_of_run ranCommands
    exact progressRows_finished consistent finished (shownLast ▸ member)

/-- A recipe with a manual command and two dispenses next to each other. -/
def iceAndPunch : Recipe where
  id := "punch"
  displayName := "Punch"
  description := ""
  tags := []
  imagePath := ⟨"", "", ""⟩
  nominalServingVolume := 2
  commands := [.single (.manual ⟨0, "ice"⟩),
    .parallel [.dispense ⟨0, "rum", 1⟩, .dispense ⟨0, "lime", 1⟩]]

/-- The second dispense has finished and its report is pending. -/
def untilLime : List (Event String) :=
  [.runClosure, .execute .next, .execute (.start 0),
    .execute (.executed 0 .value), .runClosure, .execute .next,
    .execute .spawn, .execute .spawn, .execute (.start 1),
    .execute (.start 0), .runClosure, .runClosure, .runClosure,
    .execute (.executed 1 .value)]

theorem rows_show_progress_untilLime :
    ∃ mix : Mix String,
      performAll mix.queue mix.rows =
        progressRows (fun _ => "") rumAndLime mix.executing ∧
      mix.rows.map CommandRow.status = [.finished, .inProgress, .inProgress] ∧
      (performAll mix.queue mix.rows).map CommandRow.status =
        [.finished, .inProgress, .finished] := by
  have ran : run step (start (fun _ => "") rumAndLime
      (assignUniqueCommandIds iceAndPunch).commands []) untilLime =
        some _ := rfl
  exact ⟨_, (rows_show_progress .stored ran).1, rfl, rfl⟩

end Runs

end MixProgress

end CocktailMaker
