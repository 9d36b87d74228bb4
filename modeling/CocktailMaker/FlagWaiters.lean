import CocktailMaker.RecipeProcessing
import Mathlib.Data.List.Nodup
import Mathlib.Logic.Function.Basic

/-!
# Any number of waiters on a flag

An `AwaitableBool` keeps a pointer to every waiting operation.  Setting the
flag takes all of them out and posts a wake-up for each; a stop request takes
a single one out and completes it at once.  For each waiter the history of the
flag tells which of these has come first, and the flag agrees with that.
-/

namespace CocktailMaker

namespace FlagWaiters

open LabelledRun

/-- What happens on the thread of the executor. -/
inductive Event (Waiter : Type)
  | start (waiter : Waiter) (stopRequested : Bool)
  | assign (v : Bool)
  | requestStop (waiter : Waiter)
  | wake (waiter : Waiter)
  deriving DecidableEq

variable {Waiter : Type}

section Histories

/-- The value of the flag after the events. -/
def valueAfter (events : List (Event Waiter)) : Bool :=
  events.foldl (fun value event =>
    match event with
    | .assign v => v
    | _ => value) false

variable (events : List (Event Waiter)) (waiter : Waiter)

/-- The waiter has started and has seen the flag false since then, and no stop
was requested. -/
def Waiting : Prop :=
  ∃ before between, events = before ++ .start waiter false :: between ∧
    valueAfter before = false ∧ .assign true ∉ between ∧
      .requestStop waiter ∉ between

/-- The flag was set while the waiter was waiting, before its stop. -/
def Woken : Prop :=
  ∃ before between later,
    events =
      before ++ .start waiter false :: (between ++ .assign true :: later) ∧
    valueAfter before = false ∧ .assign true ∉ between ∧
      .requestStop waiter ∉ between

/-- The flag was true when the waiter started. -/
def StartedTrue : Prop :=
  ∃ before stopRequested later,
    events = before ++ .start waiter stopRequested :: later ∧
      valueAfter before = true

/-- The stop was requested when the waiter started, or before the flag was
set. -/
def Stopped : Prop :=
  (∃ before later, events = before ++ .start waiter true :: later ∧
      valueAfter before = false) ∨
    ∃ before between later,
      events =
        before ++
          .start waiter false :: (between ++ .requestStop waiter :: later) ∧
      valueAfter before = false ∧ .assign true ∉ between

variable {events waiter} {event : Event Waiter}

variable (events event) in
theorem valueAfter_concat :
    valueAfter (events ++ [event]) =
      match event with
      | .assign v => v
      | _ => valueAfter events := by
  rw [valueAfter, List.foldl_append]
  cases event <;> rfl

theorem Waiting.concat (waiting : Waiting events waiter)
    (unset : event ≠ .assign true) (unstopped : event ≠ .requestStop waiter) :
    Waiting (events ++ [event]) waiter := by
  obtain ⟨before, between, rfl, isFalse, noSet, noStop⟩ := waiting
  refine ⟨before, between ++ [event], by simp, isFalse, ?_, ?_⟩
  · simp [noSet, unset.symm]
  · simp [noStop, unstopped.symm]

theorem Waiting.woken (waiting : Waiting events waiter) :
    Woken (events ++ [.assign true]) waiter := by
  obtain ⟨before, between, rfl, isFalse, noSet, noStop⟩ := waiting
  exact ⟨before, between, [], by simp, isFalse, noSet, noStop⟩

theorem Waiting.stopped (waiting : Waiting events waiter) :
    Stopped (events ++ [.requestStop waiter]) waiter := by
  obtain ⟨before, between, rfl, isFalse, noSet, -⟩ := waiting
  exact .inr ⟨before, between, [], by simp, isFalse, noSet⟩

theorem Woken.concat (woken : Woken events waiter) (event : Event Waiter) :
    Woken (events ++ [event]) waiter := by
  obtain ⟨before, between, later, rfl, rest⟩ := woken
  exact ⟨before, between, later ++ [event], by simp, rest⟩

theorem StartedTrue.concat (startedTrue : StartedTrue events waiter)
    (event : Event Waiter) : StartedTrue (events ++ [event]) waiter := by
  obtain ⟨before, stopRequested, later, rfl, isTrue⟩ := startedTrue
  exact ⟨before, stopRequested, later ++ [event], by simp, isTrue⟩

theorem Stopped.concat (stopped : Stopped events waiter)
    (event : Event Waiter) : Stopped (events ++ [event]) waiter := by
  obtain ⟨before, later, rfl, isFalse⟩ |
    ⟨before, between, later, rfl, rest⟩ := stopped
  · exact .inl ⟨before, later ++ [event], by simp, isFalse⟩
  · exact .inr ⟨before, between, later ++ [event], by simp, rest⟩

end Histories

/-- How an operation completes its receiver. -/
inductive Signal
  | value
  | stopped
  deriving DecidableEq

/-- An operation of `async_wait`, and what its receiver has been told. -/
structure Operation where
  started : Bool := false
  woken : Bool := false
  onStop : Bool := false
  completions : List Signal := []
  deriving DecidableEq

/-- The stop callback is reset, and the receiver is completed. -/
def Operation.complete (operation : Operation) (signal : Signal) :
    Operation :=
  { operation with
    onStop := false
    completions := operation.completions ++ [signal] }

/-- The flag with its waiters and the wake-ups that have been posted. -/
structure Flag (Waiter : Type) where
  value : Bool
  waiters : List Waiter
  posted : List Waiter
  operations : Waiter → Operation

section Code

variable [DecidableEq Waiter]

namespace Flag

def initial : Flag Waiter where
  value := false
  waiters := []
  posted := []
  operations _ := {}

/-- `Operation::start` -/
def start (flag : Flag Waiter) (waiter : Waiter) (stopRequested : Bool) :
    Flag Waiter :=
  let operation := { flag.operations waiter with started := true }
  if flag.value then
    { flag with
      operations :=
        Function.update flag.operations waiter (operation.complete .value) }
  else if stopRequested then
    { flag with
      operations :=
        Function.update flag.operations waiter (operation.complete .stopped) }
  else
    { flag with
      waiters := flag.waiters ++ [waiter]
      operations := Function.update flag.operations waiter
        { operation with onStop := true } }

/-- `operator=` -/
def assign (flag : Flag Waiter) (v : Bool) : Flag Waiter :=
  if v ∧ ¬ flag.value then
    { value := true
      waiters := []
      posted := flag.posted ++ flag.waiters
      operations := fun waiter =>
        if waiter ∈ flag.waiters then
          { flag.operations waiter with woken := true }
        else flag.operations waiter }
  else { flag with value := v }

def completeStopped (flag : Flag Waiter) (waiter : Waiter) : Flag Waiter :=
  if (flag.operations waiter).woken then flag
  else
    { flag with
      waiters := flag.waiters.filter (· ≠ waiter)
      operations := Function.update flag.operations waiter
        ((flag.operations waiter).complete .stopped) }

/-- A stop request runs the callback that is registered. -/
def requestStop (flag : Flag Waiter) (waiter : Waiter) : Flag Waiter :=
  if (flag.operations waiter).onStop then flag.completeStopped waiter
  else flag

/-- The posted function calls `wake`. -/
def wake (flag : Flag Waiter) (waiter : Waiter) : Flag Waiter :=
  { flag with
    posted := flag.posted.erase waiter
    operations := Function.update flag.operations waiter
      ((flag.operations waiter).complete .value) }

end Flag

/-- An operation is started once, and only a posted wake-up runs. -/
def step (flag : Flag Waiter) : Event Waiter → Option (Flag Waiter)
  | .start waiter stopRequested =>
      if (flag.operations waiter).started then none
      else some (flag.start waiter stopRequested)
  | .assign v => some (flag.assign v)
  | .requestStop waiter => some (flag.requestStop waiter)
  | .wake waiter =>
      if waiter ∈ flag.posted then some (flag.wake waiter) else none

end Code

section Situations

/-- Where a waiter stands, in the flag and by the history. -/
inductive Situation (events : List (Event Waiter)) (flag : Flag Waiter)
    (waiter : Waiter) : FlagWait → Prop
  | notStarted (operation : flag.operations waiter = {})
      (unlisted : waiter ∉ flag.waiters) (unposted : waiter ∉ flag.posted) :
      Situation events flag waiter .notStarted
  | waiting
      (operation : flag.operations waiter = { started := true, onStop := true })
      (listed : waiter ∈ flag.waiters) (unposted : waiter ∉ flag.posted)
      (isFalse : flag.value = false) (history : Waiting events waiter) :
      Situation events flag waiter .waiting
  | woken
      (operation : flag.operations waiter =
        { started := true, woken := true, onStop := true })
      (unlisted : waiter ∉ flag.waiters) (posted : waiter ∈ flag.posted)
      (history : Woken events waiter) :
      Situation events flag waiter .woken
  | satisfied (woken : Bool)
      (operation : flag.operations waiter =
        { started := true, woken := woken, completions := [.value] })
      (unlisted : waiter ∉ flag.waiters) (unposted : waiter ∉ flag.posted)
      (history : StartedTrue events waiter ∨ Woken events waiter) :
      Situation events flag waiter (.completed true)
  | stopped
      (operation : flag.operations waiter =
        { started := true, completions := [.stopped] })
      (unlisted : waiter ∉ flag.waiters) (unposted : waiter ∉ flag.posted)
      (history : Stopped events waiter) :
      Situation events flag waiter (.completed false)

/-- The flag agrees with the history. -/
structure Agrees (events : List (Event Waiter)) (flag : Flag Waiter) :
    Prop where
  value : flag.value = valueAfter events
  distinct : flag.waiters.Nodup
  once : flag.posted.Nodup
  situated : ∀ waiter, ∃ wait, Situation events flag waiter wait

variable {events : List (Event Waiter)} {flag next : Flag Waiter}
  {waiter : Waiter} {event : Event Waiter}

/-- A waiter whose operation an event does not touch stays where it is, unless
it is waiting and its wait ends. -/
theorem Situation.untouched {wait : FlagWait}
    (situation : Situation events flag waiter wait)
    (operation : next.operations waiter = flag.operations waiter)
    (listed : waiter ∈ next.waiters ↔ waiter ∈ flag.waiters)
    (posted : waiter ∈ next.posted ↔ waiter ∈ flag.posted)
    (waitsOn : wait = .waiting → next.value = false ∧
      event ≠ .assign true ∧ event ≠ .requestStop waiter) :
    Situation (events ++ [event]) next waiter wait := by
  cases situation with
  | notStarted isNew unlisted unposted =>
      exact .notStarted (operation.trans isNew) (listed.not.mpr unlisted)
        (posted.not.mpr unposted)
  | waiting waits isListed unposted isFalse history =>
      obtain ⟨staysFalse, unset, unstopped⟩ := waitsOn rfl
      exact .waiting (operation.trans waits) (listed.mpr isListed)
        (posted.not.mpr unposted) staysFalse (history.concat unset unstopped)
  | woken isWoken unlisted isPosted history =>
      exact .woken (operation.trans isWoken) (listed.not.mpr unlisted)
        (posted.mpr isPosted) (history.concat event)
  | satisfied woken completed unlisted unposted history =>
      exact .satisfied woken (operation.trans completed)
        (listed.not.mpr unlisted) (posted.not.mpr unposted)
        (history.imp (·.concat event) (·.concat event))
  | stopped completed unlisted unposted history =>
      exact .stopped (operation.trans completed) (listed.not.mpr unlisted)
        (posted.not.mpr unposted) (history.concat event)

theorem Situation.isFalse
    (situation : Situation events flag waiter .waiting) :
    flag.value = false := by
  cases situation with
  | waiting _ _ _ isFalse => exact isFalse

theorem Situation.listed_iff {wait : FlagWait}
    (situation : Situation events flag waiter wait) :
    waiter ∈ flag.waiters ↔ wait = .waiting := by
  cases situation with
  | waiting _ listed => exact iff_of_true listed rfl
  | notStarted _ unlisted => exact iff_of_false unlisted nofun
  | woken _ unlisted => exact iff_of_false unlisted nofun
  | satisfied _ _ unlisted => exact iff_of_false unlisted nofun
  | stopped _ unlisted => exact iff_of_false unlisted nofun

theorem Situation.posted_iff {wait : FlagWait}
    (situation : Situation events flag waiter wait) :
    waiter ∈ flag.posted ↔ wait = .woken := by
  cases situation with
  | woken _ _ posted => exact iff_of_true posted rfl
  | notStarted _ _ unposted => exact iff_of_false unposted nofun
  | waiting _ _ unposted => exact iff_of_false unposted nofun
  | satisfied _ _ _ unposted => exact iff_of_false unposted nofun
  | stopped _ _ unposted => exact iff_of_false unposted nofun

theorem Situation.completions_le {wait : FlagWait}
    (situation : Situation events flag waiter wait) :
    (flag.operations waiter).completions.length ≤ 1 := by
  cases situation with
  | notStarted operation => simp [operation]
  | waiting operation => simp [operation]
  | woken operation => simp [operation]
  | satisfied _ operation => simp [operation]
  | stopped operation => simp [operation]

/-- Only the flag completes a waiter with a value. -/
theorem Situation.satisfied_history {wait : FlagWait}
    (situation : Situation events flag waiter wait)
    (completed : .value ∈ (flag.operations waiter).completions) :
    StartedTrue events waiter ∨ Woken events waiter := by
  cases situation with
  | notStarted operation => simp [operation] at completed
  | waiting operation => simp [operation] at completed
  | woken operation => simp [operation] at completed
  | satisfied _ _ _ _ history => exact history
  | stopped operation => simp [operation] at completed

/-- A waiter that has started and has not completed is listed, or its wake-up
is posted. -/
theorem Situation.pending_iff {wait : FlagWait}
    (situation : Situation events flag waiter wait) :
    (flag.operations waiter).started = true ∧
        (flag.operations waiter).completions = [] ↔
      waiter ∈ flag.waiters ∨ waiter ∈ flag.posted := by
  rw [situation.listed_iff, situation.posted_iff]
  cases situation with
  | notStarted operation => simp [operation]
  | waiting operation => simp [operation]
  | woken operation => simp [operation]
  | satisfied _ operation => simp [operation]
  | stopped operation => simp [operation]

end Situations

section Steps

variable [DecidableEq Waiter] {events : List (Event Waiter)}
  {flag next : Flag Waiter} {waiter : Waiter} {event : Event Waiter}

theorem step_start {stopRequested : Bool}
    (stepped : step flag (.start waiter stopRequested) = some next) :
    (flag.operations waiter).started = false ∧
      next = flag.start waiter stopRequested := by
  simp only [step] at stepped
  split at stepped
  · cases stepped
  · next isNew =>
      exact ⟨by simpa using isNew, (Option.some.inj stepped).symm⟩

theorem step_wake (stepped : step flag (.wake waiter) = some next) :
    waiter ∈ flag.posted ∧ next = flag.wake waiter := by
  simp only [step] at stepped
  split at stepped
  · next posted => exact ⟨posted, (Option.some.inj stepped).symm⟩
  · cases stepped

omit [DecidableEq Waiter] in
theorem Agrees.concerning (agrees : Agrees events flag)
    (unassigned : ∀ v, event ≠ .assign v)
    (concerns : ∀ other ≠ waiter, event ≠ .requestStop other)
    (value : next.value = flag.value) (distinct : next.waiters.Nodup)
    (once : next.posted.Nodup)
    (others : ∀ other ≠ waiter,
      next.operations other = flag.operations other ∧
        (other ∈ next.waiters ↔ other ∈ flag.waiters) ∧
        (other ∈ next.posted ↔ other ∈ flag.posted))
    (own : ∃ wait, Situation (events ++ [event]) next waiter wait) :
    Agrees (events ++ [event]) next := by
  refine ⟨?_, distinct, once, fun other => ?_⟩
  · rw [value, agrees.value, valueAfter_concat]
    cases event with
    | assign v => exact absurd rfl (unassigned v)
    | start => rfl
    | requestStop => rfl
    | wake => rfl
  · by_cases same : other = waiter
    · exact same ▸ own
    · obtain ⟨wait, situation⟩ := agrees.situated other
      obtain ⟨operation, listed, posted⟩ := others other same
      refine ⟨wait, situation.untouched operation listed posted ?_⟩
      rintro rfl
      exact ⟨value.trans situation.isFalse, unassigned true,
        concerns other same⟩

omit [DecidableEq Waiter] in
theorem Agrees.fresh (agrees : Agrees events flag)
    (isNew : (flag.operations waiter).started = false) :
    flag.operations waiter = {} ∧ waiter ∉ flag.waiters ∧
      waiter ∉ flag.posted := by
  obtain ⟨wait, situation⟩ := agrees.situated waiter
  cases situation with
  | notStarted operation unlisted unposted =>
      exact ⟨operation, unlisted, unposted⟩
  | waiting operation => simp [operation] at isNew
  | woken operation => simp [operation] at isNew
  | satisfied _ operation => simp [operation] at isNew
  | stopped operation => simp [operation] at isNew

theorem agrees_start (agrees : Agrees events flag)
    (isNew : (flag.operations waiter).started = false)
    (stopRequested : Bool) :
    Agrees (events ++ [.start waiter stopRequested])
      (flag.start waiter stopRequested) := by
  obtain ⟨operation, unlisted, unposted⟩ := agrees.fresh isNew
  have value := agrees.value
  unfold Flag.start
  rw [operation]
  split
  · next isTrue =>
      refine agrees.concerning nofun nofun rfl agrees.distinct agrees.once
        (fun other differs => ⟨Function.update_of_ne differs .., Iff.rfl,
          Iff.rfl⟩)
        ⟨_, .satisfied false (Function.update_self ..) unlisted unposted ?_⟩
      exact .inl ⟨events, stopRequested, [], rfl, value.symm.trans isTrue⟩
  · next isFalse =>
      have isFalse : flag.value = false := by simpa using isFalse
      have sawFalse : valueAfter events = false := value.symm.trans isFalse
      split
      · next requested =>
          refine agrees.concerning nofun nofun rfl agrees.distinct agrees.once
            (fun other differs => ⟨Function.update_of_ne differs .., Iff.rfl,
              Iff.rfl⟩)
            ⟨_, .stopped (Function.update_self ..) unlisted unposted ?_⟩
          exact .inl ⟨events, [], requested ▸ rfl, sawFalse⟩
      · next unrequested =>
          have unrequested : stopRequested = false := by
            simpa using unrequested
          have distinct : (flag.waiters ++ [waiter]).Nodup := by
            rw [← List.concat_eq_append]
            exact agrees.distinct.concat unlisted
          refine agrees.concerning nofun nofun rfl distinct agrees.once
            (fun other differs =>
              ⟨Function.update_of_ne differs .., by simp [differs], Iff.rfl⟩)
            ⟨_, .waiting (Function.update_self ..) (by simp) unposted isFalse
              ?_⟩
          exact ⟨events, [], unrequested ▸ rfl, sawFalse, by simp, by simp⟩

theorem agrees_requestStop (agrees : Agrees events flag) (waiter : Waiter) :
    Agrees (events ++ [.requestStop waiter]) (flag.requestStop waiter) := by
  have concerns : ∀ other ≠ waiter,
      (Event.requestStop waiter : Event Waiter) ≠ .requestStop other := by
    rintro other differs same
    cases same
    exact differs rfl
  obtain ⟨wait, situation⟩ := agrees.situated waiter
  by_cases waits : wait = .waiting
  · subst waits
    cases situation with
    | waiting operation listed unposted isFalse history =>
        have stopped : flag.requestStop waiter =
            { flag with
              waiters := flag.waiters.filter (· ≠ waiter)
              operations := Function.update flag.operations waiter
                ((flag.operations waiter).complete .stopped) } := by
          simp [Flag.requestStop, Flag.completeStopped, operation]
        rw [stopped]
        refine agrees.concerning nofun concerns rfl
          (agrees.distinct.filter _) agrees.once (fun other differs =>
            ⟨Function.update_of_ne differs .., by simp [differs], Iff.rfl⟩)
          ⟨_, .stopped ?_ (by simp) unposted history.stopped⟩
        exact (Function.update_self ..).trans (by rw [operation]; rfl)
  · have unchanged : flag.requestStop waiter = flag := by
      unfold Flag.requestStop Flag.completeStopped
      cases situation with
      | notStarted operation => simp [operation]
      | waiting => exact absurd rfl waits
      | woken operation => simp [operation]
      | satisfied _ operation => simp [operation]
      | stopped operation => simp [operation]
    rw [unchanged]
    exact agrees.concerning nofun concerns rfl agrees.distinct agrees.once
      (fun other differs => ⟨rfl, Iff.rfl, Iff.rfl⟩)
      ⟨wait, situation.untouched rfl Iff.rfl Iff.rfl
        fun isWaiting => absurd isWaiting waits⟩

theorem agrees_wake (agrees : Agrees events flag)
    (posted : waiter ∈ flag.posted) :
    Agrees (events ++ [.wake waiter]) (flag.wake waiter) := by
  obtain ⟨wait, situation⟩ := agrees.situated waiter
  obtain rfl := situation.posted_iff.mp posted
  cases situation with
  | woken operation unlisted _ history =>
      refine agrees.concerning nofun nofun rfl agrees.distinct
        (agrees.once.erase waiter) (fun other differs =>
          ⟨Function.update_of_ne differs .., Iff.rfl, ?_⟩)
        ⟨_, .satisfied true ?_ unlisted ?_ (.inr (history.concat _))⟩
      · exact List.mem_erase_of_ne differs
      · exact (Function.update_self ..).trans (by rw [operation]; rfl)
      · exact agrees.once.not_mem_erase

theorem agrees_assign (agrees : Agrees events flag) (v : Bool) :
    Agrees (events ++ [.assign v]) (flag.assign v) := by
  unfold Flag.assign
  split
  · next rises =>
      obtain ⟨rfl, -⟩ := rises
      have once : (flag.posted ++ flag.waiters).Nodup := by
        refine List.nodup_append.mpr ⟨agrees.once, agrees.distinct, ?_⟩
        rintro waiter posted _ listed rfl
        obtain ⟨wait, situation⟩ := agrees.situated waiter
        obtain rfl := situation.posted_iff.mp posted
        cases situation.listed_iff.mp listed
      refine ⟨(valueAfter_concat events (.assign true)).symm,
        List.nodup_nil, once, fun waiter => ?_⟩
      obtain ⟨wait, situation⟩ := agrees.situated waiter
      by_cases waits : wait = .waiting
      · subst waits
        cases situation with
        | waiting operation listed unposted isFalse history =>
            refine ⟨_, .woken ?_ List.not_mem_nil (by simp [listed])
              history.woken⟩
            simp [listed, operation]
      · have unlisted := situation.listed_iff.not.mpr waits
        refine ⟨wait, situation.untouched (if_neg unlisted)
          (by simp [unlisted]) (by simp [unlisted])
          fun isWaiting => absurd isWaiting waits⟩
  · next rests =>
      refine ⟨(valueAfter_concat events (.assign v)).symm, agrees.distinct,
        agrees.once, fun waiter => ?_⟩
      obtain ⟨wait, situation⟩ := agrees.situated waiter
      refine ⟨wait, situation.untouched rfl Iff.rfl Iff.rfl ?_⟩
      rintro rfl
      have isFalse : v = false := by
        simpa [situation.isFalse] using rests
      exact ⟨isFalse, by simp [isFalse], nofun⟩

theorem agrees_step (agrees : Agrees events flag)
    (stepped : step flag event = some next) :
    Agrees (events ++ [event]) next := by
  cases event with
  | start waiter stopRequested =>
      obtain ⟨isNew, rfl⟩ := step_start stepped
      exact agrees_start agrees isNew stopRequested
  | assign v =>
      cases stepped
      exact agrees_assign agrees v
  | requestStop waiter =>
      cases stepped
      exact agrees_requestStop agrees waiter
  | wake waiter =>
      obtain ⟨posted, rfl⟩ := step_wake stepped
      exact agrees_wake agrees posted

/-- Whatever happens in whatever order, the flag agrees with the history. -/
theorem agrees_of_run (ran : run step Flag.initial events = some flag) :
    Agrees events flag := by
  refine history_of_run Agrees ?_
    (fun _ _ _ _ _ agrees stepped => agrees_step agrees stepped) ran
  exact ⟨rfl, List.nodup_nil, List.nodup_nil, fun waiter =>
    ⟨_, .notStarted rfl List.not_mem_nil List.not_mem_nil⟩⟩

/-- A waiter stays listed until the flag is set or its stop is requested. -/
theorem listed_step (listed : waiter ∈ flag.waiters)
    (unset : event ≠ .assign true) (unstopped : event ≠ .requestStop waiter)
    (stepped : step flag event = some next) : waiter ∈ next.waiters := by
  cases event with
  | start other stopRequested =>
      obtain ⟨-, rfl⟩ := step_start stepped
      unfold Flag.start
      split
      · exact listed
      · split
        · exact listed
        · exact List.mem_append_left _ listed
  | assign v =>
      cases stepped
      have isFalse : v = false := by
        cases v with
        | false => rfl
        | true => exact absurd rfl unset
      rw [isFalse]
      exact listed
  | requestStop other =>
      cases stepped
      have differs : waiter ≠ other := by
        rintro rfl
        exact unstopped rfl
      unfold Flag.requestStop Flag.completeStopped
      split
      · split
        · exact listed
        · simpa [differs] using listed
      · exact listed
  | wake other =>
      obtain ⟨-, rfl⟩ := step_wake stepped
      exact listed

theorem woken_update {other : Waiter}
    {operation : Operation}
    (keeps : operation.woken = (flag.operations other).woken)
    (woken : (flag.operations waiter).woken = true) :
    (Function.update flag.operations other operation waiter).woken = true := by
  by_cases same : waiter = other
  · subst same
    rw [Function.update_self, keeps, woken]
  · rw [Function.update_of_ne same, woken]

theorem woken_step (woken : (flag.operations waiter).woken = true)
    (stepped : step flag event = some next) :
    (next.operations waiter).woken = true := by
  cases event with
  | start other stopRequested =>
      obtain ⟨-, rfl⟩ := step_start stepped
      unfold Flag.start
      split
      · exact woken_update (by rfl) woken
      · split
        · exact woken_update (by rfl) woken
        · exact woken_update (by rfl) woken
  | assign v =>
      cases stepped
      unfold Flag.assign
      split
      · by_cases listed : waiter ∈ flag.waiters
        · simp [listed]
        · simpa [listed] using woken
      · exact woken
  | requestStop other =>
      cases stepped
      unfold Flag.requestStop Flag.completeStopped
      split
      · split
        · exact woken
        · exact woken_update (by rfl) woken
      · exact woken
  | wake other =>
      obtain ⟨-, rfl⟩ := step_wake stepped
      exact woken_update (by rfl) woken

theorem listed_of_run {between : List (Event Waiter)} {last : Flag Waiter}
    (listed : waiter ∈ flag.waiters) (noSet : .assign true ∉ between)
    (noStop : .requestStop waiter ∉ between)
    (ran : run step flag between = some last) : waiter ∈ last.waiters := by
  induction between using List.reverseRecOn generalizing last with
  | nil =>
      rw [run_nil, Option.some.injEq] at ran
      exact ran ▸ listed
  | append_singleton between event ih =>
      obtain ⟨next, ranFirst, stepped⟩ := run_concat_eq_some.mp ran
      rw [List.mem_append, not_or, List.mem_singleton] at noSet noStop
      exact listed_step (ih noSet.1 noStop.1 ranFirst) (Ne.symm noSet.2)
        (Ne.symm noStop.2) stepped

theorem listed_iff_waiting (ran : run step Flag.initial events = some flag) :
    waiter ∈ flag.waiters ↔ Waiting events waiter := by
  constructor
  · intro listed
    obtain ⟨wait, situation⟩ := (agrees_of_run ran).situated waiter
    obtain rfl := situation.listed_iff.mp listed
    cases situation with
    | waiting _ _ _ _ history => exact history
  · rintro ⟨before, between, rfl, isFalse, noSet, noStop⟩
    obtain ⟨middle, ranBefore, ranLater⟩ := run_append_eq_some.mp ran
    obtain ⟨started, startStep, ranBetween⟩ := run_cons_eq_some.mp ranLater
    have listed : waiter ∈ started.waiters := by
      have value := (agrees_of_run ranBefore).value.trans isFalse
      obtain ⟨-, rfl⟩ := step_start startStep
      simp [Flag.start, value]
    exact listed_of_run listed noSet noStop ranBetween

theorem woken_of_history (ran : run step Flag.initial events = some flag)
    (history : Woken events waiter) :
    (flag.operations waiter).woken = true := by
  obtain ⟨before, between, later, rfl, isFalse, noSet, noStop⟩ := history
  rw [← List.cons_append, ← List.append_assoc] at ran
  obtain ⟨waiting, ranWaiting, ranSet⟩ := run_append_eq_some.mp ran
  obtain ⟨set, setStep, ranLater⟩ := run_cons_eq_some.mp ranSet
  have listed : waiter ∈ waiting.waiters := (listed_iff_waiting ranWaiting).mpr
    ⟨before, between, rfl, isFalse, noSet, noStop⟩
  have woken : (set.operations waiter).woken = true := by
    obtain ⟨wait, situation⟩ := (agrees_of_run ranWaiting).situated waiter
    obtain rfl := situation.listed_iff.mp listed
    cases setStep
    simp [Flag.assign, situation.isFalse, listed]
  exact invariant_of_run (fun flag => (flag.operations waiter).woken = true)
    (fun _ _ _ marked stepped => woken_step marked stepped) woken ranLater

/-- A stop request that comes before the flag is set completes the waiter at
once. -/
theorem requestStop_waiting (ran : run step Flag.initial events = some flag)
    (history : Waiting events waiter) :
    ((flag.requestStop waiter).operations waiter).completions = [.stopped] ∧
      waiter ∉ (flag.requestStop waiter).waiters := by
  have listed := (listed_iff_waiting ran).mpr history
  obtain ⟨wait, situation⟩ := (agrees_of_run ran).situated waiter
  obtain rfl := situation.listed_iff.mp listed
  cases situation with
  | waiting operation =>
      simp [Flag.requestStop, Flag.completeStopped, Operation.complete,
        operation]

/-- A stop request that is pending when the waiter starts does the same. -/
theorem start_requested (ran : run step Flag.initial events = some flag)
    (isNew : (flag.operations waiter).started = false)
    (isFalse : flag.value = false) :
    ((flag.start waiter true).operations waiter).completions = [.stopped] ∧
      waiter ∉ (flag.start waiter true).waiters := by
  obtain ⟨operation, unlisted, -⟩ := (agrees_of_run ran).fresh isNew
  simp [Flag.start, Operation.complete, isFalse, operation, unlisted]

/-- Once the waiter was woken, a stop request changes nothing. -/
theorem requestStop_woken (ran : run step Flag.initial events = some flag)
    (history : Woken events waiter) : flag.requestStop waiter = flag := by
  have woken := woken_of_history ran history
  simp [Flag.requestStop, Flag.completeStopped, woken]

/-- A waiter is completed once, with a value only if it saw the flag true.  A
stop request completes it before the flag is set and does nothing after it was
woken.  Without pending wake-ups the listed waiters are those that have not
completed; each has seen the flag false since it started. -/
theorem waiters_complete_once
    (ran : run step Flag.initial events = some flag) :
    (∀ waiter, (flag.operations waiter).completions.length ≤ 1) ∧
      (∀ waiter, .value ∈ (flag.operations waiter).completions →
        StartedTrue events waiter ∨ Woken events waiter) ∧
      (∀ waiter next, step flag (.start waiter true) = some next →
        flag.value = false →
          (next.operations waiter).completions = [.stopped] ∧
            waiter ∉ next.waiters) ∧
      (∀ waiter next, step flag (.requestStop waiter) = some next →
        (Waiting events waiter →
          (next.operations waiter).completions = [.stopped] ∧
            waiter ∉ next.waiters) ∧
          (Woken events waiter → next = flag)) ∧
      (flag.posted = [] → flag.waiters.Nodup ∧ ∀ waiter,
        waiter ∈ flag.waiters ↔ (flag.operations waiter).started = true ∧
          (flag.operations waiter).completions = []) ∧
      ∀ waiter ∈ flag.waiters, Waiting events waiter := by
  have agrees := agrees_of_run ran
  refine ⟨fun waiter => ?_, fun waiter completed => ?_,
    fun waiter next started isFalse => ?_, fun waiter next stopped => ?_,
    fun quiet => ⟨agrees.distinct, fun waiter => ?_⟩,
    fun waiter listed => (listed_iff_waiting ran).mp listed⟩
  · obtain ⟨wait, situation⟩ := agrees.situated waiter
    exact situation.completions_le
  · obtain ⟨wait, situation⟩ := agrees.situated waiter
    exact situation.satisfied_history completed
  · obtain ⟨isNew, rfl⟩ := step_start started
    exact start_requested ran isNew isFalse
  · cases stopped
    exact ⟨requestStop_waiting ran, requestStop_woken ran⟩
  · obtain ⟨wait, situation⟩ := agrees.situated waiter
    rw [situation.pending_iff, quiet]
    simp

/-- Two waiters: one is stopped, the other is woken, and its stop request comes
too late. -/
theorem waiters_complete_once_twoWaiters :
    ∃ flag, run step (Flag.initial : Flag Nat)
        [.start 1 false, .start 2 false, .requestStop 1, .assign true,
          .requestStop 2, .wake 2] = some flag ∧
      (flag.operations 1).completions = [.stopped] ∧
      (flag.operations 2).completions = [.value] ∧
      ∀ waiter, (flag.operations waiter).completions.length ≤ 1 := by
  refine ⟨_, rfl, rfl, rfl, ?_⟩
  have ran : run step (Flag.initial : Flag Nat)
      [.start 1 false, .start 2 false, .requestStop 1, .assign true,
        .requestStop 2, .wake 2] = some _ := rfl
  exact (waiters_complete_once ran).1

section OneWaiter

/-- Where an operation stands for one who looks at no other. -/
def Operation.wait (operation : Operation) : FlagWait :=
  match operation.completions with
  | signal :: _ => .completed (signal = .value)
  | [] =>
      if operation.woken then .woken
      else if operation.started then .waiting
      else .notStarted

/-- The flag with one of its waiters. -/
def Flag.only (flag : Flag Waiter) (waiter : Waiter) : AwaitableBool where
  value := flag.value
  wait := (flag.operations waiter).wait

omit [DecidableEq Waiter] in
theorem Situation.wait_eq {wait : FlagWait}
    (situation : Situation events flag waiter wait) :
    (flag.operations waiter).wait = wait := by
  cases situation with
  | notStarted operation => simp [operation, Operation.wait]
  | waiting operation => simp [operation, Operation.wait]
  | woken operation => simp [operation, Operation.wait]
  | satisfied _ operation => simp [operation, Operation.wait]
  | stopped operation => simp [operation, Operation.wait]

theorem Operation.wait_complete (operation : Operation) (signal : Signal)
    (pending : operation.completions = []) :
    (operation.complete signal).wait = .completed (signal = .value) := by
  simp [Operation.wait, Operation.complete, pending]

theorem only_start (agrees : Agrees events flag) {other : Waiter}
    (isNew : (flag.operations other).started = false) (stopRequested : Bool) :
    (flag.start other stopRequested).only waiter =
      if waiter = other then (flag.only waiter).startWait stopRequested
      else flag.only waiter := by
  by_cases same : waiter = other
  · subst same
    obtain ⟨operation, -⟩ := agrees.fresh isNew
    rw [if_pos rfl]
    unfold Flag.start Flag.only AwaitableBool.startWait
    split
    · next isTrue =>
        simp [isTrue, Operation.wait_complete, operation]
    · split
      · next isFalse _ =>
          simp [isFalse, Operation.wait_complete, operation]
      · next isFalse _ =>
          simp [isFalse, Operation.wait, operation]
  · rw [if_neg same]
    unfold Flag.start Flag.only
    split
    · simp [same]
    · split
      · simp [same]
      · simp [same]

theorem only_assign (agrees : Agrees events flag) (v : Bool) :
    (flag.assign v).only waiter =
      if v then (flag.only waiter).set
      else { flag.only waiter with value := false } := by
  obtain ⟨wait, situation⟩ := agrees.situated waiter
  have waitEq : (flag.only waiter).wait = wait := situation.wait_eq
  by_cases waits : wait = .waiting
  · subst waits
    cases situation with
    | waiting operation listed _ isFalse =>
        cases v with
        | false => simp [Flag.assign, Flag.only]
        | true =>
            simp [Flag.assign, Flag.only, AwaitableBool.set, isFalse, listed,
              operation, Operation.wait]
  · have unlisted := situation.listed_iff.not.mpr waits
    have resting : (flag.only waiter).wait ≠ .waiting := waitEq ▸ waits
    rw [AwaitableBool.set_of_ne_waiting resting]
    unfold Flag.assign Flag.only
    split
    · next rises => simp [rises.1, unlisted]
    · cases v with
      | false => rfl
      | true => rfl

theorem only_requestStop (agrees : Agrees events flag) (other : Waiter) :
    (flag.requestStop other).only waiter =
      if waiter = other then (flag.only waiter).stopWait
      else flag.only waiter := by
  by_cases same : waiter = other
  · subst same
    rw [if_pos rfl]
    obtain ⟨wait, situation⟩ := agrees.situated waiter
    unfold Flag.requestStop Flag.completeStopped Flag.only
      AwaitableBool.stopWait
    cases situation with
    | notStarted operation => simp [operation, Operation.wait]
    | waiting operation =>
        simp [operation, Operation.wait, Operation.complete]
    | woken operation => simp [operation, Operation.wait]
    | satisfied _ operation => simp [operation, Operation.wait]
    | stopped operation => simp [operation, Operation.wait]
  · rw [if_neg same]
    unfold Flag.requestStop Flag.completeStopped Flag.only
    split
    · split
      · rfl
      · simp [same]
    · rfl

theorem only_wake (agrees : Agrees events flag) {other : Waiter}
    (posted : other ∈ flag.posted) :
    (flag.wake other).only waiter =
      if waiter = other then { flag.only waiter with wait := .completed true }
      else flag.only waiter := by
  by_cases same : waiter = other
  · subst same
    rw [if_pos rfl]
    obtain ⟨wait, situation⟩ := agrees.situated waiter
    obtain rfl := situation.posted_iff.mp posted
    cases situation with
    | woken operation =>
        simp [Flag.wake, Flag.only, Operation.wait_complete, operation]
  · rw [if_neg same]
    simp [Flag.wake, Flag.only, same]

/-- For each of its waiters the flag is an `AwaitableBool` with that waiter
only, and what concerns another waiter changes nothing there. -/
theorem only_step (ran : run step Flag.initial events = some flag)
    (stepped : step flag event = some next) (waiter : Waiter) :
    next.only waiter =
      match event with
      | .start other stopRequested =>
          if waiter = other then (flag.only waiter).startWait stopRequested
          else flag.only waiter
      | .assign v =>
          if v then (flag.only waiter).set
          else { flag.only waiter with value := false }
      | .requestStop other =>
          if waiter = other then (flag.only waiter).stopWait
          else flag.only waiter
      | .wake other =>
          if waiter = other then
            { flag.only waiter with wait := .completed true }
          else flag.only waiter := by
  have agrees := agrees_of_run ran
  cases event with
  | start other stopRequested =>
      obtain ⟨isNew, rfl⟩ := step_start stepped
      exact only_start agrees isNew stopRequested
  | assign v =>
      cases stepped
      exact only_assign agrees v
  | requestStop other =>
      cases stepped
      exact only_requestStop agrees other
  | wake other =>
      obtain ⟨posted, rfl⟩ := step_wake stepped
      exact only_wake agrees posted

end OneWaiter

end Steps

end FlagWaiters

end CocktailMaker
