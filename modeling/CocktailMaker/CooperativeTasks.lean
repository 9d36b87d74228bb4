import CocktailMaker.LabelledRun
import Mathlib.Algebra.BigOperators.Group.List.Basic
import Mathlib.Algebra.Order.Ring.Rat
import Mathlib.Tactic.Abel

/-!
# Cooperative tasks

Coroutines on one thread share a state and offer their messages to one queue
without a buffer.  A coroutine that is resumed goes on until it waits for a
timer or until it has offered a message, so the tasks are interleaved only
there.  Facts about single coroutines become facts about every run of any
number of tasks: each task sends a trace of its coroutine, and what the tasks
take from the state is what their messages report.
-/

namespace CocktailMaker

open LabelledRun

/-- The rest of a coroutine.  An access to the shared state does not suspend
it. -/
inductive Coroutine (State Message : Type*)
  | finished
  | delay (milliseconds : Rat) (rest : Coroutine State Message)
  | send (message : Message) (rest : Coroutine State Message)
  | access (update : State → State) (rest : State → Coroutine State Message)

namespace Coroutine

variable {State Message Weight : Type*}

/-- Go on to the next suspension. -/
def settle : Coroutine State Message → State → State × Coroutine State Message
  | .access update rest, state => (rest state).settle (update state)
  | .finished, state => (state, .finished)
  | .delay milliseconds rest, state => (state, .delay milliseconds rest)
  | .send message rest, state => (state, .send message rest)

/-- The message that a suspended coroutine offers. -/
def offer : Coroutine State Message → Option Message
  | .send message _ => some message
  | _ => none

/-- What the offered message reports. -/
def reported [Zero Weight] (value : Message → Weight)
    (coroutine : Coroutine State Message) : Weight :=
  coroutine.offer.elim 0 value

/-- The messages that a coroutine can send until it is finished.  Between its
accesses the others may change the state, as long as they keep the
invariant. -/
def Trace (Invariant : State → Prop) :
    Coroutine State Message → List Message → Prop
  | .finished, messages => messages = []
  | .delay _ rest, messages => rest.Trace Invariant messages
  | .send message rest, messages => ∃ later, messages = message :: later ∧
      rest.Trace Invariant later
  | .access _ rest, messages => ∃ state, Invariant state ∧
      (rest state).Trace Invariant messages

/-- Every access keeps the invariant. -/
def Preserves (Invariant : State → Prop) : Coroutine State Message → Prop
  | .finished => True
  | .delay _ rest => rest.Preserves Invariant
  | .send _ rest => rest.Preserves Invariant
  | .access update rest => ∀ state, Invariant state →
      Invariant (update state) ∧ (rest state).Preserves Invariant

/-- What a coroutine takes from the state, it reports with its next message.
`owed` is what it has taken and not yet reported. -/
def Balanced [AddCommGroup Weight] (weight : State → Weight)
    (value : Message → Weight) : Coroutine State Message → Weight → Prop
  | .finished, owed => owed = 0
  | .delay _ rest, owed => owed = 0 ∧ rest.Balanced weight value 0
  | .send message rest, owed =>
      owed = value message ∧ rest.Balanced weight value 0
  | .access update rest, owed => ∀ state, (rest state).Balanced weight value
      (owed + (weight state - weight (update state)))

section Settling

variable {Invariant : State → Prop} {coroutine : Coroutine State Message}
  {state : State}

theorem Preserves.settle (preserves : coroutine.Preserves Invariant)
    (holds : Invariant state) :
    Invariant (coroutine.settle state).1 ∧
      (coroutine.settle state).2.Preserves Invariant := by
  induction coroutine generalizing state with
  | finished => exact ⟨holds, preserves⟩
  | delay milliseconds rest => exact ⟨holds, preserves⟩
  | send message rest => exact ⟨holds, preserves⟩
  | access update rest ih =>
      obtain ⟨kept, preservesRest⟩ := preserves state holds
      exact ih state preservesRest kept

/-- What can be sent after the suspension can be sent from here. -/
theorem Trace.of_settle (preserves : coroutine.Preserves Invariant)
    (holds : Invariant state) {messages : List Message}
    (trace : (coroutine.settle state).2.Trace Invariant messages) :
    coroutine.Trace Invariant messages := by
  induction coroutine generalizing state with
  | finished => exact trace
  | delay milliseconds rest => exact trace
  | send message rest => exact trace
  | access update rest ih =>
      obtain ⟨kept, preservesRest⟩ := preserves state holds
      exact ⟨state, holds, ih state preservesRest kept trace⟩

theorem exists_trace (preserves : coroutine.Preserves Invariant)
    (holds : Invariant state) :
    ∃ messages, coroutine.Trace Invariant messages := by
  induction coroutine generalizing state with
  | finished => exact ⟨[], rfl⟩
  | delay milliseconds rest ih => exact ih preserves holds
  | send message rest ih =>
      obtain ⟨later, trace⟩ := ih preserves holds
      exact ⟨message :: later, later, rfl, trace⟩
  | access update rest ih =>
      obtain ⟨messages, trace⟩ := ih state (preserves state holds).2 holds
      exact ⟨messages, state, holds, trace⟩

/-- Up to its suspension a coroutine takes what it then reports. -/
theorem Balanced.settle [AddCommGroup Weight] {weight : State → Weight}
    {value : Message → Weight} {owed : Weight}
    (balanced : coroutine.Balanced weight value owed) (state : State) :
    weight (coroutine.settle state).1 +
          (coroutine.settle state).2.reported value =
        weight state + owed ∧
      (coroutine.settle state).2.Balanced weight value
        ((coroutine.settle state).2.reported value) := by
  induction coroutine generalizing state owed with
  | finished => exact ⟨congrArg _ balanced.symm, rfl⟩
  | delay milliseconds rest =>
      exact ⟨congrArg _ balanced.1.symm, rfl, balanced.2⟩
  | send message rest => exact ⟨congrArg _ balanced.1.symm, rfl, balanced.2⟩
  | access update rest ih =>
      obtain ⟨sum, balancedRest⟩ :=
        ih state (balanced state) (update state)
      refine ⟨sum.trans ?_, balancedRest⟩
      abel

end Settling

end Coroutine

/-- A coroutine that was started for `tag`, the messages that were taken from
it, and whether its continuation is posted. -/
structure CooperativeTask (Tag State Message : Type*) where
  tag : Tag
  sent : List Message := []
  rest : Coroutine State Message
  ready : Bool := true

/-- The shared state, every task that was started, and the tasks whose messages
wait in the queue. -/
structure CooperativeTasks (Tag State Message : Type*) where
  state : State
  tasks : List (CooperativeTask Tag State Message) := []
  senders : List Nat := []

namespace CooperativeTasks

variable {Tag State Message Weight : Type*}

/-- A task is started; a posted continuation runs; a timer is over, which it
may be at any time; or the oldest message in the queue is taken. -/
inductive Event (Tag : Type*)
  | spawn (tag : Tag)
  | resume (task : Nat)
  | timer (task : Nat)
  | take
  deriving DecidableEq

/-- The continuation of a task runs. -/
def resumeTask (system : CooperativeTasks Tag State Message) (index : Nat)
    (task : CooperativeTask Tag State Message) :
    CooperativeTasks Tag State Message :=
  let (state, rest) := task.rest.settle system.state
  { state
    tasks := system.tasks.set index { task with rest, ready := false }
    senders :=
      match rest.offer with
      | some _ => system.senders ++ [index]
      | none => system.senders }

/-- The next state, and the message that leaves the queue with the tag of its
task. -/
def step (handler : Tag → Coroutine State Message)
    (system : CooperativeTasks Tag State Message) :
    Event Tag → Option (CooperativeTasks Tag State Message × List (Tag × Message))
  | .spawn tag =>
      some ({ system with
        tasks := system.tasks ++ [{ tag, rest := handler tag }] }, [])
  | .resume index =>
      match system.tasks[index]? with
      | some task =>
          if task.ready = true then some (system.resumeTask index task, [])
          else none
      | none => none
  | .timer index =>
      match system.tasks[index]? with
      | some ⟨tag, sent, .delay _ rest, false⟩ =>
          some ({ system with
            tasks := system.tasks.set index ⟨tag, sent, rest, true⟩ }, [])
      | _ => none
  | .take =>
      match system.senders with
      | [] => none
      | index :: senders =>
          match system.tasks[index]? with
          | some ⟨tag, sent, .send message rest, false⟩ =>
              some ({ system with
                tasks := system.tasks.set index
                  ⟨tag, sent ++ [message], rest, true⟩
                senders }, [(tag, message)])
          | _ => none

section Steps

variable {handler : Tag → Coroutine State Message}
  {system next : CooperativeTasks Tag State Message} {event : Event Tag}
  {taken : List (Tag × Message)}

/-- What a step does. -/
inductive Stepped (handler : Tag → Coroutine State Message)
    (system : CooperativeTasks Tag State Message) :
    Event Tag → CooperativeTasks Tag State Message → List (Tag × Message) →
      Prop
  | spawned (tag : Tag) :
      Stepped handler system (.spawn tag) { system with
        tasks := system.tasks ++ [{ tag, rest := handler tag }] } []
  | resumed {index : Nat} {task : CooperativeTask Tag State Message}
      (isTask : system.tasks[index]? = some task) (ready : task.ready = true) :
      Stepped handler system (.resume index) (system.resumeTask index task) []
  | timedOut {index : Nat} {tag : Tag} {sent : List Message}
      {milliseconds : Rat} {rest : Coroutine State Message}
      (isTask : system.tasks[index]? =
        some ⟨tag, sent, .delay milliseconds rest, false⟩) :
      Stepped handler system (.timer index) { system with
        tasks := system.tasks.set index ⟨tag, sent, rest, true⟩ } []
  | took {index : Nat} {senders : List Nat} {tag : Tag} {sent : List Message}
      {message : Message} {rest : Coroutine State Message}
      (isFirst : system.senders = index :: senders)
      (isTask : system.tasks[index]? =
        some ⟨tag, sent, .send message rest, false⟩) :
      Stepped handler system .take
        ⟨system.state, system.tasks.set index
          ⟨tag, sent ++ [message], rest, true⟩, senders⟩ [(tag, message)]

theorem stepped_of_step (stepped : step handler system event =
    some (next, taken)) : Stepped handler system event next taken := by
  cases event with
  | spawn tag =>
      cases stepped
      exact .spawned tag
  | resume index =>
      simp only [step] at stepped
      split at stepped
      · next task isTask =>
          obtain ⟨ready, ⟨⟩⟩ := Option.ite_none_right_eq_some.mp stepped
          exact .resumed isTask ready
      · cases stepped
  | timer index =>
      simp only [step] at stepped
      split at stepped
      · next tag sent milliseconds rest isTask =>
          cases stepped
          exact .timedOut isTask
      · cases stepped
  | take =>
      simp only [step] at stepped
      split at stepped
      · cases stepped
      · next index senders isFirst =>
          split at stepped
          · next tag sent message rest isTask =>
              cases stepped
              exact .took isFirst isTask
          · cases stepped

end Steps

section Traces

variable {handler : Tag → Coroutine State Message} {Invariant : State → Prop}

/-- The task keeps the invariant, and it goes on as its coroutine would after
the messages that were taken. -/
structure Sound (handler : Tag → Coroutine State Message)
    (Invariant : State → Prop) (task : CooperativeTask Tag State Message) :
    Prop where
  preserves : task.rest.Preserves Invariant
  follows : ∀ messages, task.rest.Trace Invariant messages →
    (handler task.tag).Trace Invariant (task.sent ++ messages)

theorem sound_of_step
    (preserving : ∀ tag, (handler tag).Preserves Invariant)
    {system next : CooperativeTasks Tag State Message} {event : Event Tag}
    {taken : List (Tag × Message)}
    (sound : Invariant system.state ∧
      ∀ task ∈ system.tasks, Sound handler Invariant task)
    (stepped : Stepped handler system event next taken) :
    Invariant next.state ∧ ∀ task ∈ next.tasks, Sound handler Invariant task := by
  obtain ⟨holds, sound⟩ := sound
  have replaced {index : Nat} {replacement : CooperativeTask Tag State Message}
      (isSound : Sound handler Invariant replacement) :
      ∀ task ∈ system.tasks.set index replacement,
        Sound handler Invariant task := by
    intro task member
    rcases List.mem_or_eq_of_mem_set member with earlier | rfl
    · exact sound task earlier
    · exact isSound
  cases stepped with
  | spawned tag =>
      refine ⟨holds, List.forall_mem_append.mpr
        ⟨sound, List.forall_mem_singleton.mpr ⟨preserving tag, ?_⟩⟩⟩
      exact fun messages trace => trace
  | @resumed index task isTask ready =>
      obtain ⟨preserves, follows⟩ := sound task (List.mem_of_getElem? isTask)
      obtain ⟨kept, preservesRest⟩ := preserves.settle holds
      refine ⟨kept, replaced ⟨preservesRest, fun messages trace => ?_⟩⟩
      exact follows messages (.of_settle preserves holds trace)
  | timedOut isTask =>
      obtain ⟨preserves, follows⟩ := sound _ (List.mem_of_getElem? isTask)
      exact ⟨holds, replaced ⟨preserves, follows⟩⟩
  | took isFirst isTask =>
      obtain ⟨preserves, follows⟩ := sound _ (List.mem_of_getElem? isTask)
      refine ⟨holds, replaced ⟨preserves, fun messages trace => ?_⟩⟩
      rw [List.append_assoc]
      exact follows _ ⟨messages, rfl, trace⟩

/-- In every run the state keeps the invariant and every task follows its
coroutine. -/
theorem sound_of_run
    (preserving : ∀ tag, (handler tag).Preserves Invariant)
    {start : CooperativeTasks Tag State Message}
    (sound : Invariant start.state ∧
      ∀ task ∈ start.tasks, Sound handler Invariant task)
    {earlier : List (Tag × Message)} {events : List (Event Tag)}
    {last : CooperativeTasks Tag State Message × List (Tag × Message)}
    (ran : run (traced (step handler)) (start, earlier) events = some last) :
    Invariant last.1.state ∧
      ∀ task ∈ last.1.tasks, Sound handler Invariant task := by
  refine invariant_of_run (fun current => Invariant current.1.state ∧
    ∀ task ∈ current.1.tasks, Sound handler Invariant task) ?_ sound ran
  intro current event next sound stepped
  obtain ⟨taken, isStep, _⟩ := traced_eq_some.mp stepped
  exact sound_of_step preserving sound (stepped_of_step isStep)

theorem Sound.exists_trace {task : CooperativeTask Tag State Message}
    (sound : Sound handler Invariant task) {state : State}
    (holds : Invariant state) :
    ∃ messages, (handler task.tag).Trace Invariant messages ∧
      task.sent <+: messages := by
  obtain ⟨messages, trace⟩ := Coroutine.exists_trace sound.preserves holds
  exact ⟨_, sound.follows messages trace, List.prefix_append _ _⟩

end Traces

section Balance

variable [AddCommGroup Weight] {handler : Tag → Coroutine State Message}
  {weight : State → Weight} {value : Tag → Message → Weight}

/-- What the message in the queue reports, and what the task has taken without
reporting it. -/
def owed (value : Message → Weight)
    (task : CooperativeTask Tag State Message) : Weight :=
  if task.ready = true then 0 else task.rest.reported value

/-- What the messages of a task report. -/
def reported (value : Message → Weight)
    (task : CooperativeTask Tag State Message) : Weight :=
  (task.sent.map value).sum + owed value task

/-- The state, and what was taken from it. -/
def total (weight : State → Weight) (value : Tag → Message → Weight)
    (system : CooperativeTasks Tag State Message) : Weight :=
  weight system.state +
    (system.tasks.map fun task => reported (value task.tag) task).sum

/-- Nothing that the task has taken goes unreported. -/
def Balanced (weight : State → Weight) (value : Tag → Message → Weight)
    (task : CooperativeTask Tag State Message) : Prop :=
  task.rest.Balanced weight (value task.tag) (owed (value task.tag) task)

/-- The total stays when a task reports what it changes the state by. -/
theorem total_set {system : CooperativeTasks Tag State Message} {index : Nat}
    {task replacement : CooperativeTask Tag State Message}
    (isTask : system.tasks[index]? = some task) {state : State}
    (accounted : weight state + reported (value replacement.tag) replacement =
      weight system.state + reported (value task.tag) task)
    (senders : List Nat) :
    total weight value ⟨state, system.tasks.set index replacement, senders⟩ =
      total weight value system := by
  obtain ⟨inRange, isRow⟩ := List.getElem?_eq_some_iff.mp isTask
  have state_eq := eq_sub_of_add_eq accounted
  simp only [total, List.map_set]
  rw [List.sum_set', dif_pos (by simpa using inRange), List.getElem_map, isRow,
    state_eq]
  abel

theorem balanced_of_step
    (balancing : ∀ tag, (handler tag).Balanced weight (value tag) 0)
    {system next : CooperativeTasks Tag State Message} {event : Event Tag}
    {taken : List (Tag × Message)}
    (balanced : ∀ task ∈ system.tasks, Balanced weight value task)
    (stepped : Stepped handler system event next taken) :
    total weight value next = total weight value system ∧
      ∀ task ∈ next.tasks, Balanced weight value task := by
  have replaced {index : Nat} {replacement : CooperativeTask Tag State Message}
      (isBalanced : Balanced weight value replacement) :
      ∀ task ∈ system.tasks.set index replacement,
        Balanced weight value task := by
    intro task member
    rcases List.mem_or_eq_of_mem_set member with earlier | rfl
    · exact balanced task earlier
    · exact isBalanced
  cases stepped with
  | spawned tag =>
      refine ⟨?_, List.forall_mem_append.mpr
        ⟨balanced, List.forall_mem_singleton.mpr (balancing tag)⟩⟩
      simp [total, reported, owed]
  | @resumed index task isTask ready =>
      have before := balanced task (List.mem_of_getElem? isTask)
      simp only [Balanced, owed, if_pos ready] at before
      obtain ⟨sum, after⟩ := before.settle system.state
      refine ⟨?_, replaced after⟩
      refine total_set isTask ?_ _
      simp only [reported, owed, if_pos ready, Bool.false_eq_true, if_false]
      rw [add_left_comm, sum]
      abel
  | timedOut isTask =>
      have before := balanced _ (List.mem_of_getElem? isTask)
      refine ⟨total_set isTask ?_ _, replaced before.2⟩
      rfl
  | took isFirst isTask =>
      have before := balanced _ (List.mem_of_getElem? isTask)
      refine ⟨total_set isTask ?_ _, replaced before.2⟩
      simp [reported, owed, Coroutine.reported, Coroutine.offer]

/-- In every run the tasks have taken from the state what their messages
report. -/
theorem total_of_run
    (balancing : ∀ tag, (handler tag).Balanced weight (value tag) 0)
    {state : State} {events : List (Event Tag)}
    {last : CooperativeTasks Tag State Message × List (Tag × Message)}
    (ran : run (traced (step handler)) ({ state }, []) events = some last) :
    total weight value last.1 = weight state := by
  refine (invariant_of_run (fun current =>
    total weight value current.1 = weight state ∧
      ∀ task ∈ current.1.tasks, Balanced weight value task) ?_
    ⟨?_, List.forall_mem_nil _⟩ ran).1
  · rintro current event next ⟨conserved, balanced⟩ stepped
    obtain ⟨taken, isStep, _⟩ := traced_eq_some.mp stepped
    obtain ⟨kept, balancedNext⟩ :=
      balanced_of_step balancing balanced (stepped_of_step isStep)
    exact ⟨kept.trans conserved, balancedNext⟩
  · simp [total]

end Balance

section Alone

variable {handler : Tag → Coroutine State Message} {Own : Tag → Prop}

/-- The messages that were taken from the tasks with certain tags. -/
def messagesOf (Own : Tag → Prop) [DecidablePred Own]
    (taken : List (Tag × Message)) : List Message :=
  (taken.filter fun message => Own message.1).map Prod.snd

theorem messagesOf_append [DecidablePred Own]
    (first second : List (Tag × Message)) :
    messagesOf Own (first ++ second) =
      messagesOf Own first ++ messagesOf Own second := by
  simp [messagesOf]

/-- The tasks with such a tag are finished. -/
def Concluded (Own : Tag → Prop)
    (system : CooperativeTasks Tag State Message) : Prop :=
  ∀ task ∈ system.tasks, Own task.tag → task.rest = .finished

/-- While no task with such a tag is started, nothing is taken with one. -/
theorem Concluded.of_step [DecidablePred Own]
    {system next : CooperativeTasks Tag State Message} {event : Event Tag}
    {taken : List (Tag × Message)} (concluded : Concluded Own system)
    (notStarted : ∀ started, event = .spawn started → ¬ Own started)
    (stepped : Stepped handler system event next taken) :
    messagesOf Own taken = [] ∧ Concluded Own next := by
  have replaced {index : Nat} {replacement : CooperativeTask Tag State Message}
      (finished : Own replacement.tag → replacement.rest = .finished) :
      ∀ task ∈ system.tasks.set index replacement,
        Own task.tag → task.rest = .finished := by
    intro task member
    rcases List.mem_or_eq_of_mem_set member with earlier | rfl
    · exact concluded task earlier
    · exact finished
  cases stepped with
  | spawned started =>
      refine ⟨rfl, List.forall_mem_append.mpr ⟨concluded,
        List.forall_mem_singleton.mpr fun own => ?_⟩⟩
      exact absurd own (notStarted started rfl)
  | @resumed index task isTask isReady =>
      refine ⟨rfl, replaced fun own => ?_⟩
      have finished := concluded task (List.mem_of_getElem? isTask) own
      rw [finished]
      rfl
  | timedOut isTask =>
      refine ⟨rfl, replaced fun own => ?_⟩
      cases concluded _ (List.mem_of_getElem? isTask) own
  | @took index senders tag sent message rest isFirst isTask =>
      have notOwn : ¬ Own tag := fun own => by
        cases concluded _ (List.mem_of_getElem? isTask) own
      exact ⟨by simp [messagesOf, notOwn], replaced fun own => absurd own notOwn⟩

/-- No other task with such a tag than the one at the index is still running,
and `sent` was taken from that one. -/
structure Alone (Own : Tag → Prop) (index : Nat) (tag : Tag)
    (sent : List Message) (system : CooperativeTasks Tag State Message) :
    Prop where
  isOwn : Own tag
  isTask : ∃ rest ready, system.tasks[index]? = some ⟨tag, sent, rest, ready⟩
  others : ∀ other task, other ≠ index → system.tasks[other]? = some task →
    Own task.tag → task.rest = .finished

variable {system : CooperativeTasks Tag State Message} {index other : Nat}
  {tag : Tag} {sent : List Message}

theorem Alone.set_other (alone : Alone Own index tag sent system)
    (differs : other ≠ index)
    {replacement : CooperativeTask Tag State Message}
    (finished : Own replacement.tag → replacement.rest = .finished)
    (state : State) (senders : List Nat) :
    Alone Own index tag sent
      ⟨state, system.tasks.set other replacement, senders⟩ := by
  obtain ⟨isOwn, ⟨rest, ready, isTask⟩, others⟩ := alone
  refine ⟨isOwn, ⟨rest, ready, ?_⟩, fun place task notOwn isAt => ?_⟩
  · rw [List.getElem?_set_ne differs, isTask]
  · rw [List.getElem?_set] at isAt
    split at isAt
    · obtain ⟨_, ⟨⟩⟩ := Option.ite_none_right_eq_some.mp isAt
      exact finished
    · exact others place task notOwn isAt

theorem Alone.set_self (alone : Alone Own index tag sent system)
    (messages : List Message) (rest : Coroutine State Message) (ready : Bool)
    (state : State) (senders : List Nat) :
    Alone Own index tag messages
      ⟨state, system.tasks.set index ⟨tag, messages, rest, ready⟩,
        senders⟩ := by
  obtain ⟨isOwn, ⟨before, readyBefore, isTask⟩, others⟩ := alone
  obtain ⟨inRange, _⟩ := List.getElem?_eq_some_iff.mp isTask
  refine ⟨isOwn, ⟨rest, ready, List.getElem?_set_self inRange⟩,
    fun place task notOwn isAt => ?_⟩
  rw [List.getElem?_set_ne notOwn.symm] at isAt
  exact others place task notOwn isAt

/-- The task that is started last is alone when those before it with such a
tag are finished. -/
theorem alone_spawn (handler : Tag → Coroutine State Message) (isOwn : Own tag)
    (concluded : Concluded Own system) :
    Alone Own system.tasks.length tag [] { system with
      tasks := system.tasks ++ [{ tag, rest := handler tag }] } := by
  refine ⟨isOwn, ⟨_, _, List.getElem?_concat_length⟩, ?_⟩
  intro place task differs isAt
  have inRange := (List.getElem?_eq_some_iff.mp isAt).1
  rw [List.length_append, List.length_singleton] at inRange
  rw [List.getElem?_append_left (by omega)] at isAt
  exact concluded task (List.mem_of_getElem? isAt)

/-- While no further task with such a tag is started, what is taken with such
a tag is taken from that task. -/
theorem Alone.of_step [DecidablePred Own]
    (alone : Alone Own index tag sent system)
    {next : CooperativeTasks Tag State Message} {event : Event Tag}
    {taken : List (Tag × Message)}
    (notStarted : ∀ started, event = .spawn started → ¬ Own started)
    (stepped : Stepped handler system event next taken) :
    Alone Own index tag (sent ++ messagesOf Own taken) next := by
  have isOwn := alone.isOwn
  obtain ⟨rest, ready, isOnly⟩ := alone.isTask
  have inRange := (List.getElem?_eq_some_iff.mp isOnly).1
  cases stepped with
  | spawned started =>
      refine ⟨isOwn, ⟨rest, ready, ?_⟩, fun place task differs isAt => ?_⟩
      · rw [List.getElem?_append_left inRange, isOnly]
        simp [messagesOf]
      · rw [List.getElem?_append] at isAt
        split at isAt
        · exact alone.others place task differs isAt
        · have isNew := List.mem_singleton.mp (List.mem_of_getElem? isAt)
          subst isNew
          exact fun own => absurd own (notStarted started rfl)
  | @resumed other task isTask isReady =>
      simp only [messagesOf, List.filter_nil, List.map_nil, List.append_nil]
      by_cases same : other = index
      · subst same
        obtain rfl := Option.some.inj (isTask.symm.trans isOnly)
        exact alone.set_self sent _ _ _ _
      · refine alone.set_other same (fun own => ?_) _ _
        have finished := alone.others other task same isTask own
        rw [finished]
        rfl
  | @timedOut other started messages milliseconds waiting isTask =>
      simp only [messagesOf, List.filter_nil, List.map_nil, List.append_nil]
      by_cases same : other = index
      · subst same
        cases isTask.symm.trans isOnly
        exact alone.set_self sent _ _ _ _
      · refine alone.set_other same (fun own => ?_) _ _
        cases alone.others other _ same isTask own
  | @took other senders started messages message waiting isFirst isTask =>
      by_cases same : other = index
      · subst same
        cases isTask.symm.trans isOnly
        have own : messagesOf Own [(tag, message)] = [message] := by
          simp [messagesOf, isOwn]
        rw [own]
        exact alone.set_self _ _ _ _ _
      · have notOwn : ¬ Own started := fun own => by
          cases alone.others other _ same isTask own
        have none : messagesOf Own [(started, message)] = [] := by
          simp [messagesOf, notOwn]
        rw [none, List.append_nil]
        exact alone.set_other same (fun own => absurd own notOwn) _ _

theorem alone_of_run [DecidablePred Own]
    (alone : Alone Own index tag [] system) {events : List (Event Tag)}
    (notStarted : ∀ started, .spawn started ∈ events → ¬ Own started)
    {last : CooperativeTasks Tag State Message × List (Tag × Message)}
    (ran : run (traced (step handler)) (system, []) events = some last) :
    Alone Own index tag (messagesOf Own last.2) last.1 := by
  refine history_of_run (fun events current =>
    (∀ started, .spawn started ∈ events → ¬ Own started) →
      Alone Own index tag (messagesOf Own current.2) current.1)
    (fun _ => ?_) ?_ ran notStarted
  · exact alone
  intro events current event next _ ih stepped notStarted
  obtain ⟨taken, isStep, put⟩ := traced_eq_some.mp stepped
  have before := ih fun started member =>
    notStarted started (List.mem_append_left _ member)
  rw [put, messagesOf_append]
  refine before.of_step (fun started isSpawn => ?_) (stepped_of_step isStep)
  exact notStarted started (isSpawn ▸ List.mem_concat_self)

end Alone

end CooperativeTasks

end CocktailMaker
