import CocktailMaker.AsyncAlgorithms
import CocktailMaker.Recipe

/-!
# Executing the commands of a recipe

`execute_commands` goes through the items of a recipe.  A single command is
awaited, the members of a parallel command are joined.  Every command reports
to the executer that it is in progress, is executed, and reports that it has
finished.  The model records these calls in a trace, for any order in which
the members of a group proceed and for any command that fails.
-/

namespace CocktailMaker

open LabelledRun

inductive CommandStatus
  | unknown
  | inProgress
  | finished
  deriving DecidableEq

/-- The place of a command in the list: its item and its place in a group. -/
structure Position where
  item : Nat
  member : Nat
  deriving DecidableEq

/-- The command at a position. -/
def commandAt (commands : Commands) (position : Position) : Option Command :=
  match commands[position.item]? with
  | some (.single command) =>
      if position.member = 0 then some command else none
  | some (.parallel group) => group[position.member]?
  | none => none

/-- A call of the executer, or the completion of `execute_command`. -/
inductive Call (Error : Type*)
  | updateCommandStatus (id : CommandId) (status : CommandStatus)
  | executeCommand (command : Command)
  | executed (completion : Completion Error)
  deriving DecidableEq

structure Entry (Error : Type*) where
  position : Position
  call : Call Error
  deriving DecidableEq

/-- How far `process_command` has come. -/
inductive Phase (Error : Type*)
  | notBegun
  | executing
  | ended (completion : Completion Error)
  deriving DecidableEq

section Traces

variable {Error : Type*}

/-- The calls that `process_command` makes before it waits. -/
def beginCalls (id : CommandId) (command : Command) : List (Call Error) :=
  [.updateCommandStatus id .inProgress, .executeCommand command]

/-- What follows once the executed command has completed. -/
def endCalls (id : CommandId) : Completion Error → List (Call Error)
  | .value => [.executed .value, .updateCommandStatus id .finished]
  | completion => [.executed completion]

/-- All calls for a command that has come to `phase`. -/
def callsUntil (command : Command) (phase : Phase Error) :
    List (Call Error) :=
  match command.id? with
  | none => []
  | some id =>
      match phase with
      | .notBegun => []
      | .executing => beginCalls id command
      | .ended completion => beginCalls id command ++ endCalls id completion

@[simp]
theorem callsUntil_notBegun (command : Command) :
    callsUntil command (.notBegun : Phase Error) = [] := by
  unfold callsUntil
  split <;> rfl

theorem callsUntil_of_noId {command : Command} (noId : command.id? = none)
    (phase : Phase Error) : callsUntil command phase = [] := by
  simp [callsUntil, noId]

/-- The calls for the command at a position, in a trace. -/
def callsAt (position : Position) (trace : List (Entry Error)) :
    List (Call Error) :=
  (trace.filter fun entry => entry.position = position).map Entry.call

def entriesAt (position : Position) (calls : List (Call Error)) :
    List (Entry Error) :=
  calls.map (Entry.mk position)

/-- The errors of executed commands, in completion order. -/
def thrown (trace : List (Entry Error)) : List Error :=
  trace.filterMap fun
    | ⟨_, .executed (.error error)⟩ => some error
    | _ => none

/-- The error that a single command has thrown. -/
def Phase.thrown : Phase Error → List Error
  | .ended (.error error) => [error]
  | _ => []

theorem callsAt_append (position : Position)
    (first second : List (Entry Error)) :
    callsAt position (first ++ second) =
      callsAt position first ++ callsAt position second := by
  simp [callsAt]

theorem callsAt_entriesAt (position other : Position)
    (calls : List (Call Error)) :
    callsAt other (entriesAt position calls) =
      if position = other then calls else [] := by
  induction calls with
  | nil => simp [callsAt, entriesAt]
  | cons call calls ih =>
      have unfolded : callsAt other (entriesAt position (call :: calls)) =
          callsAt other [⟨position, call⟩] ++
            callsAt other (entriesAt position calls) :=
        callsAt_append other [_] _
      rw [unfolded, ih]
      split
      · next same => simp [callsAt, same]
      · next differs => simp [callsAt, differs]

theorem mem_callsAt {position : Position} {call : Call Error}
    {trace : List (Entry Error)} :
    call ∈ callsAt position trace ↔ ⟨position, call⟩ ∈ trace := by
  simp only [callsAt, List.mem_map, List.mem_filter, decide_eq_true_eq]
  constructor
  · rintro ⟨entry, ⟨member, rfl⟩, rfl⟩
    exact member
  · intro member
    exact ⟨_, ⟨member, rfl⟩, rfl⟩

/-- A command is reported before it is executed. -/
theorem reported_before_executed {command other : Command}
    {phase : Phase Error} {before after : List (Call Error)}
    (split : callsUntil command phase =
      before ++ .executeCommand other :: after) :
    other = command ∧ ∃ id, command.id? = some id ∧
      .updateCommandStatus id .inProgress ∈ before := by
  cases hasId : command.id? with
  | none => simp [callsUntil_of_noId hasId] at split
  | some id =>
      have form : ∃ rest, Call.executeCommand other ∉ rest ∧
          (callsUntil command phase = [] ∨
            callsUntil command phase = beginCalls id command ++ rest) := by
        match phase with
        | .notBegun => exact ⟨[], by simp, .inl (by simp)⟩
        | .executing => exact ⟨[], by simp, .inr (by simp [callsUntil, hasId])⟩
        | .ended completion =>
            refine ⟨endCalls id completion, ?_,
              .inr (by simp [callsUntil, hasId])⟩
            cases completion <;> simp [endCalls]
      obtain ⟨rest, notInRest, isNil | isBegun⟩ := form
      · rw [isNil] at split
        simp at split
      · rw [isBegun] at split
        match before with
        | [] => simp [beginCalls] at split
        | [_] =>
            simp only [beginCalls, List.cons_append, List.nil_append,
              List.cons.injEq, Call.executeCommand.injEq] at split
            exact ⟨split.2.1.symm, id, rfl, by simp [← split.1]⟩
        | _ :: _ :: before =>
            simp only [beginCalls, List.cons_append, List.nil_append,
              List.cons.injEq] at split
            exact absurd (by simp [split.2.2]) notInRest

/-- A command is reported as finished once, after it was executed. -/
theorem executed_before_finished {command : Command} {id : CommandId}
    {phase : Phase Error} {before after : List (Call Error)}
    (split : callsUntil command phase =
      before ++ .updateCommandStatus id .finished :: after) :
    .executed .value ∈ before ∧
      .updateCommandStatus id .finished ∉ before := by
  cases hasId : command.id? with
  | none => simp [callsUntil_of_noId hasId] at split
  | some other =>
      match phase, before with
      | .notBegun, _ => simp at split
      | .executing, before =>
          have member : Call.updateCommandStatus id .finished ∈
              callsUntil command (.executing : Phase Error) := by simp [split]
          simp [callsUntil, hasId, beginCalls] at member
      | .ended (.error error), before =>
          have member : Call.updateCommandStatus id .finished ∈
              callsUntil command (.ended (.error error)) := by simp [split]
          simp [callsUntil, hasId, beginCalls, endCalls] at member
      | .ended .stopped, before =>
          have member : Call.updateCommandStatus id .finished ∈
              callsUntil command (.ended .stopped : Phase Error) := by
            simp [split]
          simp [callsUntil, hasId, beginCalls, endCalls] at member
      | .ended .value, [] =>
          simp [callsUntil, hasId, beginCalls, endCalls] at split
      | .ended .value, [_] =>
          simp [callsUntil, hasId, beginCalls, endCalls] at split
      | .ended .value, [_, _] =>
          simp [callsUntil, hasId, beginCalls, endCalls] at split
      | .ended .value, [_, _, _] =>
          simp only [callsUntil, hasId, beginCalls, endCalls,
            List.cons_append, List.nil_append, List.cons.injEq] at split
          obtain ⟨rfl, rfl, rfl, _⟩ := split
          simp
      | .ended .value, _ :: _ :: _ :: _ :: before =>
          simp [callsUntil, hasId, beginCalls, endCalls] at split

theorem thrown_append (first second : List (Entry Error)) :
    thrown (first ++ second) = thrown first ++ thrown second :=
  List.filterMap_append

@[simp]
theorem thrown_beginCalls (position : Position) (id : CommandId)
    (command : Command) :
    thrown (entriesAt position (beginCalls id command : List (Call Error))) =
      [] :=
  rfl

@[simp]
theorem thrown_endCalls (position : Position) (id : CommandId)
    (completion : Completion Error) :
    thrown (entriesAt position (endCalls id completion)) =
      Phase.thrown (.ended completion) := by
  cases completion <;> rfl

end Traces

/-- What `execute_commands` waits for. -/
inductive Activity (Error : Type*)
  | idle
  | single (command : Command) (phase : Phase Error)
  | group (all : RunAll Command Error) (begun : List Nat)
  deriving DecidableEq

def Activity.isIdle {Error : Type*} : Activity Error → Bool
  | .idle => true
  | _ => false

/-- The frame of `execute_commands`, with the calls made so far. -/
structure ExecuteCommands (Error : Type*) where
  commands : Commands
  item : Nat
  activity : Activity Error
  stopRequested : Bool
  trace : List (Entry Error)
  outcome : Option (Completion Error)
  deriving DecidableEq

namespace ExecuteCommands

variable {Error : Type*}

def initial (commands : Commands) : ExecuteCommands Error :=
  ⟨commands, 0, .idle, false, [], none⟩

/-- The loop takes the next item, a command begins, an executed command
completes, a group spawns its next member or joins, or the run is stopped. -/
inductive Event (Error : Type*)
  | next
  | start (member : Nat)
  | executed (member : Nat) (completion : Completion Error)
  | spawn
  | join
  | requestStop
  deriving DecidableEq

def record (state : ExecuteCommands Error) (member : Nat)
    (calls : List (Call Error)) : ExecuteCommands Error :=
  { state with
    trace := state.trace ++ entriesAt ⟨state.item, member⟩ calls }

/-- The item has completed: the loop goes on, or the exception or the stop
leaves it. -/
def afterItem (state : ExecuteCommands Error) :
    Completion Error → ExecuteCommands Error
  | .value => { state with item := state.item + 1, activity := .idle }
  | completion => { state with outcome := some completion }

/-- The coroutine of a parallel command starts to join its members; a stop
that was requested before reaches them at once. -/
def startGroup (stopRequested : Bool) (group : List Command) :
    RunAll Command Error :=
  if stopRequested = true then
    { RunAll.joinAll group with parentStop := true, childrenStop := true }
  else RunAll.joinAll group

/-- The loop of `execute_commands` at the next item. -/
def nextItem (state : ExecuteCommands Error) : ExecuteCommands Error :=
  match state.commands[state.item]? with
  | none => { state with outcome := some .value }
  | some (.single command) =>
      { state with activity := .single command .notBegun }
  | some (.parallel group) =>
      { state with activity := .group (startGroup state.stopRequested group) [] }

/-- A stop request reaches the members of the group that is being joined. -/
def forwardStop : Activity Error → Activity Error
  | .group all begun => .group ((RunAll.step all .requestStop).getD all) begun
  | activity => activity

/-- `process_command` begins: it reports and executes its command, or it is a
`monostate` and completes. -/
def beginCommand (state : ExecuteCommands Error) (member : Nat) :
    Option (ExecuteCommands Error) :=
  match state.activity with
  | .idle => none
  | .single command .notBegun =>
      if member = 0 then
        match command.id? with
        | none => some (state.afterItem .value)
        | some id =>
            some ({ state with activity := .single command .executing }.record
              0 (beginCalls id command))
      else none
  | .single _ _ => none
  | .group all begun =>
      match all.children[member]? with
      | some ⟨command, none⟩ =>
          if member ∈ begun then none
          else
            match command.id? with
            | none =>
                (RunAll.step all (.complete member .value)).map fun all =>
                  { state with activity := .group all begun }
            | some id =>
                some ({ state with
                  activity := .group all (member :: begun) }.record member
                    (beginCalls id command))
      | _ => none

/-- The rest of `process_command`: a command that was executed reports that it
has finished, unless an exception or a stop skips that. -/
def endCommand (state : ExecuteCommands Error) (member : Nat)
    (completion : Completion Error) : Option (ExecuteCommands Error) :=
  match state.activity with
  | .idle => none
  | .single command .executing =>
      if member = 0 ∧
          (completion.isStopped = true → state.stopRequested = true) then
        command.id?.map fun id =>
          ({ state with
            activity := .single command (.ended completion) }.record 0
              (endCalls id completion)).afterItem completion
      else none
  | .single _ _ => none
  | .group all begun =>
      match all.children[member]? with
      | some ⟨command, none⟩ =>
          if member ∈ begun then
            command.id?.bind fun id =>
              (RunAll.step all (.complete member completion)).map fun all =>
                { state with activity := .group all begun }.record member
                  (endCalls id completion)
          else none
      | _ => none

/-- `join_all` spawns the next member of the group. -/
def spawnMember (state : ExecuteCommands Error) :
    Option (ExecuteCommands Error) :=
  match state.activity with
  | .group all begun =>
      (RunAll.step all .spawn).map fun all =>
        { state with activity := .group all begun }
  | _ => none

/-- `join_all` completes. -/
def joinGroup (state : ExecuteCommands Error) :
    Option (ExecuteCommands Error) :=
  match state.activity with
  | .group all begun =>
      (RunAll.step all .finish).map fun joined =>
        { state with activity := .group joined begun }.afterItem
          all.afterJoin.rethrow
  | _ => none

def step (state : ExecuteCommands Error) (event : Event Error) :
    Option (ExecuteCommands Error) :=
  if state.outcome.isSome = true then none
  else
    match event with
    | .next => if state.activity.isIdle = true then some state.nextItem else none
    | .start member => state.beginCommand member
    | .executed member completion => state.endCommand member completion
    | .spawn => state.spawnMember
    | .join => state.joinGroup
    | .requestStop =>
        some { state with
          stopRequested := true, activity := forwardStop state.activity }

/-- The phase of a member of the item at hand. -/
def phaseOf (activity : Activity Error) (member : Nat) : Phase Error :=
  match activity with
  | .idle => .notBegun
  | .single _ phase => if member = 0 then phase else .notBegun
  | .group all begun =>
      match all.children[member]? with
      | some ⟨_, some completion⟩ => .ended completion
      | some ⟨_, none⟩ => if member ∈ begun then .executing else .notBegun
      | none => .notBegun

/-- How far the command at a position has come. -/
def phaseAt (state : ExecuteCommands Error) (position : Position) :
    Phase Error :=
  if position.item < state.item then .ended .value
  else if position.item = state.item then
    phaseOf state.activity position.member
  else .notBegun

/-- The calls made for the command at a position. -/
def expectedCalls (state : ExecuteCommands Error) (position : Position) :
    List (Call Error) :=
  match commandAt state.commands position with
  | none => []
  | some command => callsUntil command (state.phaseAt position)

/-- The trace is determined by the phases, up to the interleaving within an
item. -/
structure Traced (state : ExecuteCommands Error) : Prop where
  calls : ∀ position,
    callsAt position state.trace = state.expectedCalls position
  sorted : state.trace.Pairwise fun earlier later =>
    earlier.position.item ≤ later.position.item
  bounded : ∀ entry ∈ state.trace, entry.position.item ≤ state.item

section TracePreservation

variable {state next : ExecuteCommands Error}

theorem phaseAt_of_idle (idle : state.activity = .idle) {position : Position}
    (notBefore : state.item ≤ position.item) :
    state.phaseAt position = .notBegun := by
  rw [phaseAt, if_neg (Nat.not_lt.mpr notBefore), idle]
  split <;> rfl

theorem traced_initial (commands : Commands) :
    Traced (initial commands : ExecuteCommands Error) where
  calls position := by
    cases found : commandAt commands position with
    | none => simp [initial, expectedCalls, found, callsAt]
    | some command =>
        have notBegun : (initial commands : ExecuteCommands Error).phaseAt
            position = .notBegun :=
          phaseAt_of_idle rfl (Nat.zero_le position.item)
        simp only [expectedCalls, initial] at notBegun ⊢
        simp [found, notBegun, callsAt]
  sorted := List.Pairwise.nil
  bounded := by simp [initial]

theorem traced_of_record (traced : Traced state) (member : Nat)
    (calls : List (Call Error)) (sameCommands : next.commands = state.commands)
    (sameItem : next.item = state.item)
    (recorded : next.trace =
      state.trace ++ entriesAt ⟨state.item, member⟩ calls)
    (others : ∀ other, other ≠ member →
      phaseOf next.activity other = phaseOf state.activity other)
    (here : next.expectedCalls ⟨state.item, member⟩ =
      state.expectedCalls ⟨state.item, member⟩ ++ calls) : Traced next where
  calls position := by
    rw [recorded, callsAt_append, callsAt_entriesAt, traced.calls]
    split
    · next same => rw [← same, here]
    · next differs =>
        have samePhase : next.phaseAt position = state.phaseAt position := by
          simp only [phaseAt, sameItem]
          split
          · rfl
          · split
            · next atItem =>
                refine others _ ?_
                rintro rfl
                exact differs (by rw [← atItem])
            · rfl
        simp only [expectedCalls, sameCommands, samePhase, List.append_nil]
  sorted := by
    rw [recorded, List.pairwise_append]
    refine ⟨traced.sorted, ?_, ?_⟩
    · rw [entriesAt, List.pairwise_map]
      exact List.pairwise_of_forall fun _ _ => Nat.le_refl _
    · intro earlier isEarlier later isLater
      obtain ⟨_, _, rfl⟩ := List.mem_map.mp isLater
      exact traced.bounded earlier isEarlier
  bounded entry member := by
    rw [recorded, List.mem_append] at member
    rw [sameItem]
    rcases member with before | new
    · exact traced.bounded entry before
    · obtain ⟨_, _, rfl⟩ := List.mem_map.mp new
      exact Nat.le_refl _

/-- The loop goes on when every command of the item is through. -/
theorem traced_of_advance (traced : Traced state)
    (through : ∀ member command,
      commandAt state.commands ⟨state.item, member⟩ = some command →
        callsUntil command (phaseOf state.activity member) =
          callsUntil command (.ended .value)) :
    Traced { state with item := state.item + 1, activity := .idle } where
  calls position := by
    rw [traced.calls]
    simp only [expectedCalls]
    cases found : commandAt state.commands position with
    | none => rfl
    | some command =>
        simp only [phaseAt]
        by_cases before : position.item < state.item
        · rw [if_pos before, if_pos (Nat.lt_succ_of_lt before)]
        · rw [if_neg before]
          by_cases atItem : position.item = state.item
          · rw [if_pos atItem, if_pos (by omega)]
            refine through position.member command ?_
            rw [← atItem]
            exact found
          · rw [if_neg atItem, if_neg (by omega)]
            simp [phaseOf]
  sorted := traced.sorted
  bounded entry member := Nat.le_succ_of_le (traced.bounded entry member)

theorem traced_of_silent (traced : Traced state)
    (sameCommands : next.commands = state.commands)
    (sameItem : next.item = state.item) (sameTrace : next.trace = state.trace)
    (samePhases : ∀ member,
      phaseOf next.activity member = phaseOf state.activity member) :
    Traced next := by
  refine traced_of_record traced 0 [] sameCommands
    sameItem (by simp [sameTrace, entriesAt]) (fun other _ => samePhases other)
    ?_
  simp [expectedCalls, phaseAt, sameCommands, sameItem, samePhases]

end TracePreservation

/-- What is known about the item at hand: no error before it, and for a group
the run of `join_all` that it has come to. -/
def Progress (state : ExecuteCommands Error) : Prop :=
  match state.activity with
  | .idle => thrown state.trace = []
  | .single command phase =>
      state.commands[state.item]? = some (.single command) ∧
        thrown state.trace = Phase.thrown phase
  | .group all begun =>
      ∃ group events,
        state.commands[state.item]? = some (.parallel group) ∧
        run RunAll.step (RunAll.joinAll group) events = some all ∧
        (.requestStop ∈ events → state.stopRequested = true) ∧
        thrown state.trace = RunAll.errors events ∧
        ∀ member ∈ begun, member < all.children.length

/-- How the run has ended: with a value behind the last item, with the first
error, or stopped without any error after a stop request. -/
structure Ended (state : ExecuteCommands Error)
    (completion : Completion Error) : Prop where
  value : completion = .value →
    state.commands[state.item]? = none ∧ thrown state.trace = []
  error : ∀ error, completion = .error error →
    (thrown state.trace).head? = some error
  stopped : completion = .stopped →
    thrown state.trace = [] ∧ state.stopRequested = true

/-- The invariant of `execute_commands`. -/
structure Consistent (state : ExecuteCommands Error) : Prop where
  traced : Traced state
  progress : Progress state
  ended : ∀ completion, state.outcome = some completion →
    Ended state completion

section Steps

variable {state next : ExecuteCommands Error}

theorem consistent_initial (commands : Commands) :
    Consistent (initial commands : ExecuteCommands Error) where
  traced := traced_initial commands
  progress := rfl
  ended := by simp [initial]

theorem Consistent.of_unfinished (unfinished : state.outcome = none)
    (traced : Traced state) (progress : Progress state) : Consistent state where
  traced := traced
  progress := progress
  ended completion isEnded := by
    rw [unfinished] at isEnded
    cases isEnded

theorem consistent_leave (traced : Traced state) (progress : Progress state)
    {completion : Completion Error} (ended : Ended state completion) :
    Consistent { state with outcome := some completion } where
  traced := ⟨traced.calls, traced.sorted, traced.bounded⟩
  progress := progress
  ended := by
    rintro _ ⟨⟩
    exact ⟨ended.value, ended.error, ended.stopped⟩

/-- The commands of a group are where `join_all` has its tasks. -/
theorem commandAt_child {group : List Command} {all : RunAll Command Error}
    {events : List (RunAll.Event Error)} {member : Nat} {command : Command}
    {completion : Option (Completion Error)}
    (isGroup : state.commands[state.item]? = some (.parallel group))
    (ran : run RunAll.step (RunAll.joinAll group) events = some all)
    (found : all.children[member]? = some ⟨command, completion⟩) :
    commandAt state.commands ⟨state.item, member⟩ = some command := by
  have tasksEq := (RunAll.tracks_of_run ran).tasksEq
  have task : (all.children.map Child.task)[member]? = some command := by
    simp [found]
  simp only [commandAt, isGroup, ← tasksEq]
  rw [List.getElem?_append_left (List.getElem?_eq_some_iff.mp task).1, task]

theorem run_startGroup (stopRequested : Bool) (group : List Command) :
    run RunAll.step (RunAll.joinAll group)
        (if stopRequested = true then [.requestStop] else []) =
      some (startGroup stopRequested group : RunAll Command Error) := by
  cases stopRequested <;> rfl

theorem startGroup_children (stopRequested : Bool) (group : List Command) :
    (startGroup stopRequested group : RunAll Command Error).children = [] := by
  cases stopRequested <;> rfl

theorem consistent_nextItem (consistent : Consistent state)
    (unfinished : state.outcome = none) (idle : state.activity = .idle) :
    Consistent state.nextItem := by
  have noError : thrown state.trace = [] := by
    have progress := consistent.progress
    rwa [Progress, idle] at progress
  unfold nextItem
  split
  · next through =>
      exact consistent_leave consistent.traced consistent.progress
        ⟨fun _ => ⟨through, noError⟩, by simp, by simp⟩
  · next command isSingle =>
      refine .of_unfinished unfinished
        (traced_of_silent consistent.traced rfl rfl rfl ?_)
        ⟨isSingle, noError⟩
      intro member
      simp [phaseOf, idle]
  · next group isGroup =>
      refine .of_unfinished unfinished
        (traced_of_silent consistent.traced rfl rfl rfl ?_) ?_
      · intro member
        simp [phaseOf, idle, startGroup_children]
      · refine ⟨group, _, isGroup, run_startGroup state.stopRequested group,
          ?_, ?_, by simp⟩
        · intro requested
          by_contra notStopped
          simp [notStopped] at requested
        · cases state.stopRequested <;> exact noError

/-- `process_command` of a single command starts its command. -/
theorem consistent_beginSingle (consistent : Consistent state)
    (unfinished : state.outcome = none) {command : Command} {id : CommandId}
    (isSingle : state.activity = .single command .notBegun)
    (hasId : command.id? = some id) :
    Consistent ({ state with activity := .single command .executing }.record 0
      (beginCalls id command)) := by
  have progress := consistent.progress
  rw [Progress, isSingle] at progress
  obtain ⟨atItem, noError⟩ := progress
  refine .of_unfinished unfinished
    (traced_of_record consistent.traced _ _ rfl rfl rfl ?_ ?_) ?_
  · intro other differs
    simp [record, phaseOf, isSingle, differs]
  · simp [record, expectedCalls, commandAt, atItem, phaseAt, phaseOf, isSingle,
      callsUntil, hasId]
  · refine ⟨atItem, ?_⟩
    simpa [record, thrown_append, Phase.thrown] using noError

theorem consistent_monostate (consistent : Consistent state)
    (unfinished : state.outcome = none) {command : Command}
    (isSingle : state.activity = .single command .notBegun)
    (noId : command.id? = none) : Consistent (state.afterItem .value) := by
  have progress := consistent.progress
  rw [Progress, isSingle] at progress
  obtain ⟨atItem, noError⟩ := progress
  refine .of_unfinished unfinished (traced_of_advance consistent.traced ?_)
    noError
  intro member other found
  simp only [commandAt, atItem, Option.ite_none_right_eq_some,
    Option.some.injEq] at found
  rw [← found.2, callsUntil_of_noId noId, callsUntil_of_noId noId]

theorem consistent_endSingle (consistent : Consistent state)
    (unfinished : state.outcome = none) {command : Command} {id : CommandId}
    {completion : Completion Error}
    (isSingle : state.activity = .single command .executing)
    (hasId : command.id? = some id)
    (stoppable : completion.isStopped = true → state.stopRequested = true) :
    Consistent (({ state with
      activity := .single command (.ended completion) }.record 0
        (endCalls id completion)).afterItem completion) := by
  have progress := consistent.progress
  rw [Progress, isSingle] at progress
  obtain ⟨atItem, noError⟩ := progress
  have errors : thrown (state.trace ++
      entriesAt ⟨state.item, 0⟩ (endCalls id completion)) =
        Phase.thrown (.ended completion) := by
    rw [thrown_append, thrown_endCalls, noError]
    rfl
  have traced : Traced ({ state with
      activity := .single command (.ended completion) }.record 0
        (endCalls id completion)) := by
    refine traced_of_record consistent.traced _ _ rfl rfl rfl ?_ ?_
    · intro other differs
      simp [record, phaseOf, isSingle, differs]
    · simp [record, expectedCalls, commandAt, atItem, phaseAt, phaseOf,
        isSingle, callsUntil, hasId]
  cases completion with
  | value =>
      refine .of_unfinished unfinished (traced_of_advance traced ?_) errors
      intro member other found
      simp only [record, commandAt, atItem, Option.ite_none_right_eq_some,
        Option.some.injEq] at found
      simp [record, phaseOf, found.1]
  | error error =>
      refine consistent_leave traced ⟨atItem, errors⟩
        ⟨by simp, ?_, by simp⟩
      rintro _ ⟨⟩
      simp only [record, errors]
      rfl
  | stopped =>
      exact consistent_leave traced ⟨atItem, errors⟩
        ⟨by simp, by simp, fun _ => ⟨errors, stoppable rfl⟩⟩

end Steps

section Groups

variable {state : ExecuteCommands Error} {all joined : RunAll Command Error}
  {begun : List Nat} {member : Nat} {command : Command} {id : CommandId}
  {completion : Completion Error}

/-- `process_command` of a member of a group starts its command. -/
theorem consistent_beginMember (consistent : Consistent state)
    (unfinished : state.outcome = none)
    (isGroup : state.activity = .group all begun)
    (found : all.children[member]? = some ⟨command, none⟩)
    (notBegun : member ∉ begun) (hasId : command.id? = some id) :
    Consistent ({ state with activity := .group all (member :: begun) }.record
      member (beginCalls id command)) := by
  have progress := consistent.progress
  rw [Progress, isGroup] at progress
  obtain ⟨group, events, atItem, ran, stops, errors, bound⟩ := progress
  refine .of_unfinished unfinished
    (traced_of_record consistent.traced _ _ rfl rfl rfl ?_ ?_) ?_
  · intro other differs
    simp [record, phaseOf, isGroup, differs]
  · simp [record, expectedCalls, commandAt_child atItem ran found, phaseAt,
      phaseOf, isGroup, found, notBegun, callsUntil, hasId]
  · refine ⟨group, events, atItem, ran, stops, ?_, ?_⟩
    · simpa [record, thrown_append] using errors
    · intro other isBegun
      rcases List.mem_cons.mp isBegun with rfl | before
      · exact (List.getElem?_eq_some_iff.mp found).1
      · exact bound other before

theorem phaseOf_complete {other : Nat} (differs : other ≠ member) :
    phaseOf (.group (all.completeChild member command completion) begun)
        other =
      phaseOf (.group all begun) other := by
  simp [phaseOf, List.getElem?_set_ne (Ne.symm differs)]

theorem phaseOf_complete_self
    (running : all.children[member]? = some ⟨command, none⟩) :
    phaseOf (.group (all.completeChild member command completion) begun)
        member = .ended completion := by
  have inside := (List.getElem?_eq_some_iff.mp running).1
  simp [phaseOf, List.getElem?_set_self inside]

/-- A member of a group completes, with the calls that follow from it. -/
theorem consistent_complete (consistent : Consistent state)
    (unfinished : state.outcome = none)
    (isGroup : state.activity = .group all begun)
    (running : all.children[member]? = some ⟨command, none⟩)
    (stepped : RunAll.step all (.complete member completion) = some joined)
    (calls : List (Call Error))
    (sameErrors : thrown (entriesAt ⟨state.item, member⟩ calls) =
      Phase.thrown (.ended completion))
    (made : callsUntil command (.ended completion) =
      callsUntil command (phaseOf (.group all begun) member) ++ calls) :
    Consistent ({ state with activity := .group joined begun }.record member
      calls) := by
  have progress := consistent.progress
  rw [Progress, isGroup] at progress
  obtain ⟨group, events, atItem, ran, stops, errors, bound⟩ := progress
  obtain ⟨task, found, _, rfl⟩ := RunAll.step_complete stepped
  rw [running, Option.some.injEq, Child.mk.injEq] at found
  obtain ⟨rfl, _⟩ := found
  refine .of_unfinished unfinished
    (traced_of_record consistent.traced _ _ rfl rfl rfl ?_ ?_) ?_
  · intro other differs
    simp only [record, isGroup]
    exact phaseOf_complete differs
  · simp only [record, expectedCalls, commandAt_child atItem ran running,
      phaseAt, isGroup, phaseOf_complete_self running]
    simpa using made
  · refine ⟨group, events ++ [.complete member completion], atItem, ?_, ?_,
      ?_, ?_⟩
    · exact run_concat_eq_some.mpr ⟨all, ran, stepped⟩
    · simpa [record] using stops
    · simp only [record, thrown_append, errors, sameErrors,
        RunAll.errors_concat]
      cases completion <;> rfl
    · simpa using bound

theorem consistent_spawn (consistent : Consistent state)
    (unfinished : state.outcome = none)
    (isGroup : state.activity = .group all begun)
    (stepped : RunAll.step all .spawn = some joined) :
    Consistent { state with activity := .group joined begun } := by
  have progress := consistent.progress
  rw [Progress, isGroup] at progress
  obtain ⟨group, events, atItem, ran, stops, errors, bound⟩ := progress
  obtain ⟨task, rest, _, rfl⟩ := RunAll.step_spawn stepped
  refine .of_unfinished unfinished
    (traced_of_silent consistent.traced rfl rfl rfl ?_) ?_
  · intro other
    rw [isGroup]
    simp only [phaseOf]
    rcases Nat.lt_trichotomy other all.children.length with
      inside | same | outside
    · rw [List.getElem?_append_left inside]
    · have notBegun : other ∉ begun := fun isBegun =>
        absurd (bound other isBegun) (by omega)
      simp [same] at notBegun ⊢
      simp [notBegun]
    · rw [List.getElem?_append_right (Nat.le_of_lt outside),
        List.getElem?_eq_none (Nat.le_of_lt outside),
        List.getElem?_eq_none (by simp; omega)]
  · refine ⟨group, events ++ [.spawn], atItem, ?_, ?_, ?_, ?_⟩
    · exact run_concat_eq_some.mpr ⟨all, ran, stepped⟩
    · simpa using stops
    · simpa [RunAll.errors] using errors
    · intro other isBegun
      have before := bound other isBegun
      simp
      omega

/-- When all children of a group have completed with a value, its commands are
through. -/
theorem phaseOf_joined {commands : Commands} {item : Nat}
    (atItem : commands[item]? =
      some (.parallel (joined.children.map Child.task)))
    (values : ∀ child ∈ joined.children, child.completion = some .value)
    {member : Nat} {command : Command}
    (found : commandAt commands ⟨item, member⟩ = some command) :
    phaseOf (.group joined begun) member = .ended .value := by
  simp only [commandAt, atItem, List.getElem?_map, Option.map_eq_some_iff]
    at found
  obtain ⟨⟨_, ended⟩, isChild, rfl⟩ := found
  have endedValue := values _ (List.mem_of_getElem? isChild)
  cases endedValue
  simp [phaseOf, isChild]

/-- `join_all` completes: with a value only behind members that all did, else
with the first error or stopped. -/
theorem consistent_join (consistent : Consistent state)
    (unfinished : state.outcome = none)
    (isGroup : state.activity = .group all begun)
    (stepped : RunAll.step all .finish = some joined) :
    Consistent ({ state with activity := .group joined begun }.afterItem
      all.afterJoin.rethrow) := by
  have progress := consistent.progress
  rw [Progress, isGroup] at progress
  obtain ⟨group, events, atItem, ran, stops, errors, bound⟩ := progress
  obtain ⟨_, joinedEq⟩ := RunAll.step_finish stepped
  have sameChildren : joined.children = all.children := by rw [joinedEq]
  have tracks := RunAll.tracks_of_run
    (run_concat_eq_some.mpr ⟨all, ran, stepped⟩)
  have law : RunAll.OutcomeLaw group (events ++ [.finish]) joined
      all.afterJoin.rethrow :=
    RunAll.outcomeLaw_of_tracks tracks (by rw [joinedEq])
  have sameErrors : RunAll.errors (events ++ [.finish]) =
      RunAll.errors events := by
    simp [RunAll.errors]
  have noThrown : ¬ joined.Failed → thrown state.trace = [] := by
    intro noError
    rw [tracks.failed, not_not, sameErrors] at noError
    rw [errors, noError]
  have traced :
      Traced { state with activity := .group joined begun } := by
    refine traced_of_silent consistent.traced rfl rfl rfl ?_
    intro other
    simp only [isGroup, phaseOf, sameChildren]
  have progressed :
      Progress { state with activity := .group joined begun } := by
    refine ⟨group, events ++ [.finish], atItem,
      run_concat_eq_some.mpr ⟨all, ran, stepped⟩, by simpa using stops,
      by rw [sameErrors]; exact errors, ?_⟩
    rw [sameChildren]
    exact bound
  cases outcome : all.afterJoin.rethrow with
  | value =>
      rw [outcome] at law
      have noError : ¬ joined.Failed := by
        rw [← law.failed]
        simp
      have notStopped : RunAll.Event.requestStop ∉ events ++ [.finish] := by
        rw [← law.stopped noError]
        simp
      have values := (law.value noError notStopped).2
      refine .of_unfinished unfinished (traced_of_advance traced ?_)
        (noThrown noError)
      intro other command found
      rw [← law.everyChild.1] at atItem
      exact congrArg _ (phaseOf_joined atItem values found)
  | error error =>
      rw [outcome] at law
      refine consistent_leave traced progressed ⟨by simp, ?_, by simp⟩
      rintro _ ⟨⟩
      have first := law.first error rfl
      rw [sameErrors] at first
      exact (congrArg List.head? errors).trans first
  | stopped =>
      rw [outcome] at law
      have noError : ¬ joined.Failed := by
        rw [← law.failed]
        simp
      have requested := (law.stopped noError).mp rfl
      exact consistent_leave traced progressed ⟨by simp, by simp, fun _ =>
        ⟨noThrown noError, stops (by simpa using requested)⟩⟩

theorem consistent_requestStop (consistent : Consistent state)
    (unfinished : state.outcome = none) :
    Consistent { state with
      stopRequested := true, activity := forwardStop state.activity } := by
  have progress := consistent.progress
  refine .of_unfinished unfinished
    (traced_of_silent consistent.traced rfl rfl rfl ?_) ?_
  · intro other
    cases isGroup : state.activity with
    | idle => rfl
    | single command phase => rfl
    | group all begun =>
        cases stepped : RunAll.step all .requestStop with
        | none => simp [forwardStop, stepped]
        | some stopped =>
            rw [RunAll.step_requestStop stepped] at stepped
            simp [forwardStop, stepped, phaseOf]
  · cases isGroup : state.activity with
    | idle => simpa [Progress, forwardStop, isGroup] using progress
    | single command phase =>
        simpa [Progress, forwardStop, isGroup] using progress
    | group all begun =>
        rw [Progress, isGroup] at progress
        obtain ⟨group, events, atItem, ran, _, errors, bound⟩ := progress
        cases stepped : RunAll.step all .requestStop with
        | none =>
            simp only [Progress, forwardStop, stepped, Option.getD_none]
            exact ⟨group, events, atItem, ran, by simp, errors, bound⟩
        | some stopped =>
            simp only [Progress, forwardStop, stepped, Option.getD_some]
            have stoppedEq := RunAll.step_requestStop stepped
            refine ⟨group, events ++ [.requestStop], atItem,
              run_concat_eq_some.mpr ⟨all, ran, stepped⟩, by simp,
              by simpa [RunAll.errors] using errors, ?_⟩
            rw [stoppedEq]
            exact bound

end Groups

section Runs

variable {state next last : ExecuteCommands Error} {commands : Commands}
  {events : List (Event Error)}

/-- What an item leaves alone: the commands and the stop request. -/
def SameFrame (state next : ExecuteCommands Error) : Prop :=
  next.commands = state.commands ∧ next.stopRequested = state.stopRequested

theorem sameFrame_afterItem (completion : Completion Error) :
    SameFrame state (state.afterItem completion) := by
  cases completion <;> exact ⟨rfl, rfl⟩

theorem consistent_beginCommand (consistent : Consistent state)
    (unfinished : state.outcome = none) {member : Nat}
    (began : state.beginCommand member = some next) :
    Consistent next ∧ SameFrame state next := by
  unfold beginCommand at began
  split at began
  · cases began
  · next command isSingle =>
      simp only [Option.ite_none_right_eq_some] at began
      split at began
      · next noId =>
          cases began.2
          exact ⟨consistent_monostate consistent unfinished isSingle noId,
            sameFrame_afterItem .value⟩
      · next id hasId =>
          cases began.2
          exact ⟨consistent_beginSingle consistent unfinished isSingle hasId,
            rfl, rfl⟩
  · cases began
  · next all begun isGroup =>
      split at began
      · next command running =>
          simp only [Option.ite_none_left_eq_some] at began
          obtain ⟨notBegun, began⟩ := began
          split at began
          · next noId =>
              simp only [Option.map_eq_some_iff] at began
              obtain ⟨joined, stepped, rfl⟩ := began
              refine ⟨?_, rfl, rfl⟩
              have silent := consistent_complete consistent unfinished isGroup
                running stepped [] rfl
                (by simp [callsUntil_of_noId noId])
              simpa [record, entriesAt] using silent
          · next id hasId =>
              cases began
              exact ⟨consistent_beginMember consistent unfinished isGroup
                running notBegun hasId, rfl, rfl⟩
      · cases began

theorem consistent_endCommand (consistent : Consistent state)
    (unfinished : state.outcome = none) {member : Nat}
    {completion : Completion Error}
    (ended : state.endCommand member completion = some next) :
    Consistent next ∧ SameFrame state next := by
  unfold endCommand at ended
  split at ended
  · cases ended
  · next command isSingle =>
      simp only [Option.ite_none_right_eq_some, Option.map_eq_some_iff]
        at ended
      obtain ⟨⟨_, stoppable⟩, id, hasId, rfl⟩ := ended
      exact ⟨consistent_endSingle consistent unfinished isSingle hasId
        stoppable, sameFrame_afterItem completion⟩
  · cases ended
  · next all begun isGroup =>
      split at ended
      · next command running =>
          simp only [Option.ite_none_right_eq_some, Option.bind_eq_some_iff,
            Option.map_eq_some_iff] at ended
          obtain ⟨isBegun, id, hasId, joined, stepped, rfl⟩ := ended
          refine ⟨consistent_complete consistent unfinished isGroup running
            stepped _ (thrown_endCalls _ id completion) ?_, rfl, rfl⟩
          simp [callsUntil, hasId, phaseOf, running, isBegun]
      · cases ended

theorem sameFrame_nextItem : SameFrame state state.nextItem := by
  unfold nextItem
  split <;> exact ⟨rfl, rfl⟩

/-- Every step keeps the invariant and the commands, and only a stop request
changes whether one was made. -/
theorem consistent_step (consistent : Consistent state) {event : Event Error}
    (stepped : step state event = some next) :
    Consistent next ∧ next.commands = state.commands ∧
      (event ≠ .requestStop → next.stopRequested = state.stopRequested) := by
  have framed : Consistent next ∧ SameFrame state next →
      Consistent next ∧ next.commands = state.commands ∧
        (event ≠ .requestStop → next.stopRequested = state.stopRequested) :=
    fun ⟨kept, sameCommands, sameStop⟩ =>
      ⟨kept, sameCommands, fun _ => sameStop⟩
  simp only [step, Option.ite_none_left_eq_some, Option.isSome_iff_ne_none,
    not_not] at stepped
  obtain ⟨unfinished, stepped⟩ := stepped
  cases event with
  | next =>
      simp only [Option.ite_none_right_eq_some] at stepped
      obtain ⟨isIdle, went⟩ := stepped
      cases went
      have idle : state.activity = .idle := by
        cases activity : state.activity <;>
          simp [activity, Activity.isIdle] at isIdle ⊢
      exact framed ⟨consistent_nextItem consistent unfinished idle,
        sameFrame_nextItem⟩
  | start member =>
      exact framed (consistent_beginCommand consistent unfinished stepped)
  | executed member completion =>
      exact framed (consistent_endCommand consistent unfinished stepped)
  | spawn =>
      simp only [spawnMember] at stepped
      split at stepped
      · next all begun isGroup =>
          simp only [Option.map_eq_some_iff] at stepped
          obtain ⟨joined, stepped, rfl⟩ := stepped
          exact framed ⟨consistent_spawn consistent unfinished isGroup stepped,
            rfl, rfl⟩
      · cases stepped
  | join =>
      simp only [joinGroup] at stepped
      split at stepped
      · next all begun isGroup =>
          simp only [Option.map_eq_some_iff] at stepped
          obtain ⟨joined, stepped, rfl⟩ := stepped
          exact framed ⟨consistent_join consistent unfinished isGroup stepped,
            sameFrame_afterItem _⟩
      · cases stepped
  | requestStop =>
      cases stepped
      exact ⟨consistent_requestStop consistent unfinished, rfl,
        fun notStop => absurd rfl notStop⟩

theorem consistent_of_run
    (ran : run step (initial commands) events = some last) :
    Consistent last ∧ last.commands = commands := by
  refine invariant_of_run
    (fun state => Consistent state ∧ state.commands = commands)
    ?_ ⟨consistent_initial commands, rfl⟩ ran
  rintro state event next ⟨consistent, sameCommands⟩ stepped
  obtain ⟨consistentNext, kept, _⟩ := consistent_step consistent stepped
  exact ⟨consistentNext, kept.trans sameCommands⟩

theorem Traced.mem_before (traced : Traced state) {entry earlier : Entry Error}
    {before after : List (Entry Error)}
    (split : state.trace = before ++ entry :: after)
    (member : earlier ∈ state.trace)
    (isEarlier : earlier.position.item < entry.position.item) :
    earlier ∈ before := by
  have sorted := traced.sorted
  rw [split, List.pairwise_append, List.pairwise_cons] at sorted
  rw [split, List.mem_append, List.mem_cons] at member
  rcases member with isBefore | rfl | isAfter
  · exact isBefore
  · exact absurd isEarlier (Nat.lt_irrefl _)
  · exact absurd (sorted.2.1.1 earlier isAfter) (Nat.not_le.mpr isEarlier)

/-- The commands of the items behind the loop have been executed and have
reported so. -/
theorem Traced.through (traced : Traced state) {position : Position}
    {command : Command} {id : CommandId}
    (isBehind : position.item < state.item)
    (found : commandAt state.commands position = some command)
    (hasId : command.id? = some id) :
    ⟨position, .executed .value⟩ ∈ state.trace ∧
      ⟨position, .updateCommandStatus id .finished⟩ ∈ state.trace := by
  have calls := traced.calls position
  simp only [expectedCalls, found, phaseAt, if_pos isBehind, callsUntil, hasId]
    at calls
  constructor
  · rw [← mem_callsAt, calls]
    simp [endCalls]
  · rw [← mem_callsAt, calls]
    simp [endCalls]

/-- The call behind an entry belongs to the command at its position. -/
theorem Traced.split_callsAt (traced : Traced state) {position : Position}
    {call : Call Error} {before after : List (Entry Error)}
    (split : state.trace = before ++ ⟨position, call⟩ :: after) :
    ∃ command, commandAt state.commands position = some command ∧
      callsUntil command (state.phaseAt position) =
        callsAt position before ++ call :: callsAt position after := by
  have calls := traced.calls position
  rw [split, callsAt_append] at calls
  have here : callsAt position (⟨position, call⟩ :: after) =
      call :: callsAt position after := by
    simp [callsAt]
  rw [here, expectedCalls] at calls
  split at calls
  · simp at calls
  · next command found => exact ⟨command, found, calls.symm⟩

/-- A failed command is one of the item at hand. -/
theorem Traced.item_le_of_failed (traced : Traced state) {position : Position}
    {error : Error}
    (failed : ⟨position, .executed (.error error)⟩ ∈ state.trace) :
    state.item ≤ position.item := by
  by_contra notBehind
  obtain ⟨before, after, split⟩ := List.append_of_mem failed
  obtain ⟨command, _, calls⟩ := traced.split_callsAt split
  have member : Call.executed (.error error) ∈
      callsUntil command (state.phaseAt position) := by
    simp [calls]
  rw [phaseAt, if_pos (Nat.not_le.mp notBehind), callsUntil] at member
  split at member
  · simp at member
  · simp [beginCalls, endCalls] at member

/-- For every list of commands and every order in which the members of its
groups proceed, complete and fail: nothing happens for an item before every
command of the items in front of it has been executed and reported as
finished; a command is executed after it was reported, and reported as
finished once, after it was executed; nothing happens for an item behind one
that failed; the run throws the first error there was; and it ends with a
value only behind the last command. -/
theorem execution_follows_command_order
    (ran : run step (initial commands) events = some last) :
    (∀ before entry after, last.trace = before ++ entry :: after →
      ∀ position command id, position.item < entry.position.item →
        commandAt commands position = some command →
          command.id? = some id →
            ⟨position, .executed .value⟩ ∈ before ∧
              ⟨position, .updateCommandStatus id .finished⟩ ∈ before) ∧
    (∀ before position command after,
      last.trace = before ++ ⟨position, .executeCommand command⟩ :: after →
        commandAt commands position = some command ∧
          ∃ id, command.id? = some id ∧
            ⟨position, .updateCommandStatus id .inProgress⟩ ∈ before) ∧
    (∀ before position id after,
      last.trace =
          before ++ ⟨position, .updateCommandStatus id .finished⟩ :: after →
        ⟨position, .executed .value⟩ ∈ before ∧
          ⟨position, .updateCommandStatus id .finished⟩ ∉ before) ∧
    (∀ position error, ⟨position, .executed (.error error)⟩ ∈ last.trace →
      ∀ entry ∈ last.trace, entry.position.item ≤ position.item) ∧
    (∀ completion, last.outcome = some completion → ∀ error,
      completion = .error error ↔ (thrown last.trace).head? = some error) ∧
    (last.outcome = some .value → ∀ position command id,
      commandAt commands position = some command → command.id? = some id →
        ⟨position, .executed .value⟩ ∈ last.trace ∧
          ⟨position, .updateCommandStatus id .finished⟩ ∈ last.trace) := by
  obtain ⟨⟨traced, progress, ended⟩, rfl⟩ := consistent_of_run ran
  refine ⟨?_, ?_, ?_, ?_, ?_, ?_⟩
  · intro before entry after split position command id isEarlier found hasId
    have bound := traced.bounded entry (by simp [split])
    obtain ⟨executed, finished⟩ :=
      traced.through (Nat.lt_of_lt_of_le isEarlier bound) found hasId
    exact ⟨traced.mem_before split executed isEarlier,
      traced.mem_before split finished isEarlier⟩
  · intro before position command after split
    obtain ⟨found, isCommand, calls⟩ := traced.split_callsAt split
    obtain ⟨rfl, id, hasId, reported⟩ := reported_before_executed calls
    exact ⟨isCommand, id, hasId, mem_callsAt.mp reported⟩
  · intro before position id after split
    obtain ⟨_, _, calls⟩ := traced.split_callsAt split
    obtain ⟨executed, notBefore⟩ := executed_before_finished calls
    exact ⟨mem_callsAt.mp executed, fun twice =>
      notBefore (mem_callsAt.mpr twice)⟩
  · intro position error failed entry member
    exact (traced.bounded entry member).trans
      (traced.item_le_of_failed failed)
  · intro completion isEnded error
    have law := ended completion isEnded
    constructor
    · exact law.error error
    · intro first
      cases completion with
      | value => simp [(law.value rfl).2] at first
      | stopped => simp [(law.stopped rfl).1] at first
      | error other =>
          rw [law.error other rfl, Option.some.injEq] at first
          rw [first]
  · intro isEnded position command id found hasId
    refine traced.through ?_ found hasId
    by_contra notBehind
    have atEnd := ((ended .value isEnded).value rfl).1
    have atItem : last.commands[position.item]? = none := by
      rw [List.getElem?_eq_none_iff] at atEnd ⊢
      omega
    simp [commandAt, atItem] at found

/-- A manual command, and two commands in parallel of which one fails: the
error is the outcome of the run. -/
theorem execution_with_empty_dispenser :
    ∃ last : ExecuteCommands String,
      run step (initial [.single (.manual ⟨1, "ice"⟩),
          .parallel [.dispense ⟨2, "rum", 1⟩, .dispense ⟨3, "lime", 1⟩]])
        [.next, .start 0, .executed 0 .value, .next, .spawn, .start 0, .spawn,
          .start 1, .executed 1 (.error "empty"), .executed 0 .stopped,
          .join] = some last ∧
      last.outcome = some (.error "empty") ∧
      ∀ entry ∈ last.trace, entry.position.item ≤ 1 := by
  refine ⟨_, rfl, rfl, ?_⟩
  have ran : run step (initial [.single (.manual ⟨1, "ice"⟩),
      .parallel [.dispense ⟨2, "rum", 1⟩, .dispense ⟨3, "lime", 1⟩]])
      [.next, .start 0, .executed 0 .value, .next, .spawn, .start 0, .spawn,
        .start 1, .executed 1 (.error "empty"), .executed 0 .stopped,
        .join] = some _ := rfl
  refine (execution_follows_command_order ran).2.2.2.1 ⟨1, 1⟩ "empty" ?_
  exact @List.mem_of_getElem? _ _ 8 _ rfl

end Runs

end ExecuteCommands

end CocktailMaker
