import CocktailMaker.PodStates
import CocktailMaker.RetryOnTimeout

/-!
# The monitor of a Pod

`Pod::run` races the session of a Pod against `monitor_device`.  The monitor
asks for the device info, tells the `PodState` that the Pod is connected, and
from then on keeps the Pod alive with pings.  However it ends, a destructor
reports the Pod as disconnected.
-/

namespace CocktailMaker

namespace PodMonitor

open LabelledRun PodList

/-- A call of the `PodState` of a Pod. -/
inductive PodStateCall
  | updateState (state : PodConnection)
  | updateInfo (info : PodInfo)
  deriving DecidableEq

/-- How `monitor_device` ends.  Sending and receiving throw a `system_error`
once the channels of the session are closed. -/
inductive Ending
  | stopped
  | thrown (error : PodError)
  | systemError
  deriving DecidableEq

/-- Where `monitor_device` and `keep_alive` are, with the retry that a request
has come to. -/
inductive Phase
  | notBegun
  | acquiring (retry : Nat)
  | waitingReady
  | pinging (retry : Nat)
  | pausing
  | finished (ending : Ending)
  deriving DecidableEq

/-- `Pod::run`.  The session and the monitor share the stop request of
`when_any`. -/
structure PodRun where
  phase : Phase := .notBegun
  /-- `state_->info()` -/
  info : PodInfo := {}
  deviceReady : Bool := false
  sessionRunning : Bool := true
  stopRequested : Bool := false
  deriving DecidableEq

/-- The monitor begins; the wait of a request is over; a request meets a closed
session; `device_ready_` lets `keep_alive` pass; the pause between two pings is
over; the pending operation is stopped; the session ends; or a stop is requested
from outside. -/
inductive Event
  | begin
  | answer (signal : Signal)
  | sessionClosed
  | ready
  | timer
  | stopped
  | sessionEnds
  | stop
  deriving DecidableEq

/-- The request of a phase and the retry it has come to. -/
def Phase.request : Phase → Option (RetriedRequest × Nat)
  | .acquiring retry => some (deviceInfoRequest, retry)
  | .pinging retry => some (pingRequest, retry)
  | _ => none

/-- The request is sent again. -/
def Phase.again : Phase → Phase
  | .acquiring retry => .acquiring (retry + 1)
  | .pinging retry => .pinging (retry + 1)
  | phase => phase

/-- The operation that a phase waits for can be stopped. -/
def Phase.Stoppable (phase : Phase) : Prop :=
  phase.request.isSome = true ∨ phase = .pausing

instance : DecidablePred Phase.Stoppable :=
  fun _ => inferInstanceAs (Decidable (_ ∨ _))

/-- The Pod has been reported as connected and not as disconnected. -/
def Phase.Online (phase : Phase) : Prop :=
  match phase with
  | .waitingReady | .pinging _ | .pausing => True
  | .notBegun | .acquiring _ | .finished _ => False

/-- The Pod has not sent its device info. -/
def Phase.Undiscovered (phase : Phase) : Prop :=
  match phase with
  | .notBegun | .acquiring _ => True
  | .waitingReady | .pinging _ | .pausing | .finished _ => False

/-- The `PodInfo` that `aquire_device_info` makes of its answer. -/
def podInfo : InMessage → Option PodInfo
  | .deviceInfoResponse deviceName _ _ _ numPumps numValves =>
      some ⟨deviceName, numPumps, numValves⟩
  | _ => none

namespace PodRun

/-- `default_env` -/
def defaultEnv (run : PodRun) : MessageEnvironment := ⟨run.info.id, 0⟩

/-- The destructor of `Cleanup`.  The end of the monitor stops the session. -/
def cleanup (run : PodRun) (ending : Ending) : PodRun × List PodStateCall :=
  ({ run with
      phase := .finished ending, deviceReady := false, stopRequested := true },
    [.updateState .disconnected])

/-- A request has got its message. -/
def returned (run : PodRun) (message : InMessage) :
    Option (PodRun × List PodStateCall) :=
  match run.phase with
  | .acquiring _ =>
      (podInfo message).map fun info =>
        ({ run with phase := .waitingReady, info, deviceReady := true },
          [.updateInfo info, .updateState .connected])
  | .pinging _ => some ({ run with phase := .pausing }, [])
  | _ => none

/-- `retry_on_timeout` behind a call of its function. -/
def answer (run : PodRun) (signal : Signal) :
    Option (PodRun × List PodStateCall) :=
  match run.phase.request with
  | none => none
  | some (request, retry) =>
      match requestOutcome request.rxMsg run.defaultEnv (some signal) with
      | .returned message => run.returned message
      | .thrown error =>
          if error.isTimeoutError = true ∧ retry < request.maxRetries then
            some ({ run with phase := run.phase.again }, [])
          else some (run.cleanup (.thrown error))
      | .stopped => none

/-- The next state, and what the `PodState` is told. -/
def step (run : PodRun) : Event → Option (PodRun × List PodStateCall)
  | .begin =>
      if run.phase = .notBegun then
        some ({ run with phase := .acquiring 0 }, [.updateState .connecting])
      else none
  | .answer signal => run.answer signal
  | .sessionClosed =>
      if run.phase.request.isSome = true ∧ run.sessionRunning = false then
        some (run.cleanup .systemError)
      else none
  | .ready =>
      if run.phase = .waitingReady ∧ run.deviceReady = true then
        some ({ run with phase := .pinging 0 }, [])
      else none
  | .timer =>
      if run.phase = .pausing then some ({ run with phase := .pinging 0 }, [])
      else none
  | .stopped =>
      if run.phase.Stoppable ∧ run.stopRequested = true then
        some (run.cleanup .stopped)
      else none
  | .sessionEnds =>
      if run.sessionRunning = true then
        some ({ run with sessionRunning := false, stopRequested := true }, [])
      else none
  | .stop => some ({ run with stopRequested := true }, [])

/-- `when_any` completes once both the session and the monitor have. -/
def Completed (run : PodRun) : Prop :=
  run.sessionRunning = false ∧ ∃ ending, run.phase = .finished ending

end PodRun

section Steps

/-- What a step does. -/
inductive Stepped (pod : PodRun) :
    Event → PodRun → List PodStateCall → Prop
  | begun (phase : pod.phase = .notBegun) :
      Stepped pod .begin { pod with phase := .acquiring 0 }
        [.updateState .connecting]
  | acquired {retry : Nat} (message : InMessage) (info : PodInfo)
      (phase : pod.phase = .acquiring retry)
      (answers : podInfo message = some info) :
      Stepped pod (.answer (.message message))
        { pod with phase := .waitingReady, info, deviceReady := true }
        [.updateInfo info, .updateState .connected]
  | ponged {retry : Nat} (phase : pod.phase = .pinging retry) :
      Stepped pod (.answer (.message .pong)) { pod with phase := .pausing } []
  | unexpected {request : RetriedRequest} {retry : Nat} (message : InMessage)
      (phase : pod.phase.request = some (request, retry))
      (differs : message.getId ≠ request.rxMsg) :
      Stepped pod (.answer (.message message))
        (pod.cleanup (.thrown (.protocol .invalidMsgId
          (.unexpected message.getId)))).1 [.updateState .disconnected]
  | retried {request : RetriedRequest} {retry : Nat}
      (phase : pod.phase.request = some (request, retry))
      (left : retry < request.maxRetries) :
      Stepped pod (.answer .timedOut) { pod with phase := pod.phase.again } []
  | gaveUp {request : RetriedRequest} {retry : Nat}
      (phase : pod.phase.request = some (request, retry))
      (exhausted : request.maxRetries ≤ retry) :
      Stepped pod (.answer .timedOut)
        (pod.cleanup (.thrown (.podTimeout pod.info.id))).1
        [.updateState .disconnected]
  | closed (phase : pod.phase.request.isSome = true)
      (ended : pod.sessionRunning = false) :
      Stepped pod .sessionClosed (pod.cleanup .systemError).1
        [.updateState .disconnected]
  | passed (phase : pod.phase = .waitingReady) (ready : pod.deviceReady = true) :
      Stepped pod .ready { pod with phase := .pinging 0 } []
  | paused (phase : pod.phase = .pausing) :
      Stepped pod .timer { pod with phase := .pinging 0 } []
  | stopped (phase : pod.phase.Stoppable) (requested : pod.stopRequested = true) :
      Stepped pod .stopped (pod.cleanup .stopped).1
        [.updateState .disconnected]
  | sessionEnded (running : pod.sessionRunning = true) :
      Stepped pod .sessionEnds
        { pod with sessionRunning := false, stopRequested := true } []
  | stopRequested : Stepped pod .stop { pod with stopRequested := true } []

variable {pod next : PodRun} {calls : List PodStateCall}

theorem Phase.request_eq_some {phase : Phase} {request : RetriedRequest}
    {retry : Nat} (isRequest : phase.request = some (request, retry)) :
    (phase = .acquiring retry ∧ request = deviceInfoRequest) ∨
      (phase = .pinging retry ∧ request = pingRequest) := by
  cases phase <;> cases isRequest
  · exact .inl ⟨rfl, rfl⟩
  · exact .inr ⟨rfl, rfl⟩

theorem podInfo_isSome {message : InMessage}
    (isInfo : message.getId = .deviceInfoResponse) :
    ∃ info, podInfo message = some info := by
  cases message <;> cases isInfo
  exact ⟨_, rfl⟩

theorem podInfo_counted {message : InMessage} {info : PodInfo}
    (answers : podInfo message = some info) :
    0 ≤ info.numPumps ∧ 0 ≤ info.numValves := by
  cases message <;> cases answers
  exact ⟨Int.natCast_nonneg _, Int.natCast_nonneg _⟩

theorem eq_pong {message : InMessage} (isPong : message.getId = .pong) :
    message = .pong := by
  cases message <;> cases isPong
  rfl

/-- An answer is judged by the request that waits for it. -/
theorem stepped_of_answer {signal : Signal}
    (answered : pod.answer signal = some (next, calls)) :
    Stepped pod (.answer signal) next calls := by
  unfold PodRun.answer at answered
  split at answered
  case h_1 none => cases answered
  case h_2 request retry phase =>
    cases signal with
    | timedOut =>
        have outcome : requestOutcome request.rxMsg pod.defaultEnv
            (some .timedOut) = .thrown (.podTimeout pod.info.id) := rfl
        simp only [outcome, PodError.isTimeoutError, true_and] at answered
        by_cases left : retry < request.maxRetries
        · rw [if_pos left] at answered
          cases answered
          exact .retried phase left
        · rw [if_neg left] at answered
          cases answered
          exact .gaveUp phase (Nat.not_lt.mp left)
    | message message =>
        by_cases expected : message.getId = request.rxMsg
        · have outcome : requestOutcome request.rxMsg pod.defaultEnv
              (some (.message message)) = .returned message := by
            simp only [requestOutcome, sendAndReceive_message, if_pos expected]
          simp only [outcome] at answered
          obtain ⟨acquiring, rfl⟩ | ⟨pinging, rfl⟩ :=
            Phase.request_eq_some phase
          · obtain ⟨info, answers⟩ := podInfo_isSome expected
            simp only [PodRun.returned, acquiring, answers,
              Option.map_some] at answered
            cases answered
            exact .acquired message info acquiring answers
          · obtain rfl := eq_pong expected
            simp only [PodRun.returned, pinging] at answered
            cases answered
            exact .ponged pinging
        · have outcome : requestOutcome request.rxMsg pod.defaultEnv
              (some (.message message)) = .thrown (.protocol .invalidMsgId
                (.unexpected message.getId)) := by
            simp only [requestOutcome, sendAndReceive_message, if_neg expected]
          simp only [outcome, PodError.isTimeoutError, Bool.false_eq_true,
            false_and, if_false] at answered
          cases answered
          exact .unexpected message phase expected

theorem stepped_of_step {event : Event}
    (isStep : pod.step event = some (next, calls)) :
    Stepped pod event next calls := by
  cases event with
  | answer signal => exact stepped_of_answer isStep
  | stop =>
      cases isStep
      exact .stopRequested
  | begin =>
      obtain ⟨phase, same⟩ := Option.ite_none_right_eq_some.mp isStep
      cases same
      exact .begun phase
  | sessionClosed =>
      obtain ⟨⟨phase, ended⟩, same⟩ := Option.ite_none_right_eq_some.mp isStep
      cases same
      exact .closed phase ended
  | ready =>
      obtain ⟨⟨phase, ready⟩, same⟩ := Option.ite_none_right_eq_some.mp isStep
      cases same
      exact .passed phase ready
  | timer =>
      obtain ⟨phase, same⟩ := Option.ite_none_right_eq_some.mp isStep
      cases same
      exact .paused phase
  | stopped =>
      obtain ⟨⟨phase, requested⟩, same⟩ :=
        Option.ite_none_right_eq_some.mp isStep
      cases same
      exact .stopped phase requested
  | sessionEnds =>
      obtain ⟨running, same⟩ := Option.ite_none_right_eq_some.mp isStep
      cases same
      exact .sessionEnded running

end Steps

section Reports

/-- The calls that report a Pod as connected. -/
def onlineCalls (info : PodInfo) : List PodStateCall :=
  [.updateState .connecting, .updateInfo info, .updateState .connected]

/-- What the `PodState` has been told in a phase. -/
def Reported (pod : PodRun) (calls : List PodStateCall) : Prop :=
  match pod.phase with
  | .notBegun => calls = []
  | .acquiring _ => calls = [.updateState .connecting]
  | .waitingReady | .pinging _ | .pausing => calls = onlineCalls pod.info
  | .finished _ =>
      calls = [.updateState .connecting, .updateState .disconnected] ∨
        calls = onlineCalls pod.info ++ [.updateState .disconnected]

/-- The invariant of a run. -/
structure Consistent (pod : PodRun) (calls : List PodStateCall) : Prop where
  reported : Reported pod calls
  ready : pod.deviceReady = true ↔ pod.phase.Online
  /-- The device info is unknown until the Pod has answered. -/
  undiscovered : pod.phase.Undiscovered → pod.info = {}
  counted : 0 ≤ pod.info.numPumps ∧ 0 ≤ pod.info.numValves
  /-- The end of the session or of the monitor stops the other one. -/
  raced : pod.sessionRunning = false ∨ (∃ ending, pod.phase = .finished ending) →
    pod.stopRequested = true

theorem consistent_initial : Consistent {} [] where
  reported := rfl
  ready := iff_of_false nofun id
  undiscovered _ := rfl
  counted := by decide
  raced := by
    rintro (ended | ⟨ending, finished⟩)
    · cases ended
    · cases finished

variable {pod next : PodRun} {calls outputs : List PodStateCall}

theorem Phase.stoppable_of_request {phase : Phase}
    {request : RetriedRequest} {retry : Nat}
    (isRequest : phase.request = some (request, retry)) : phase.Stoppable :=
  .inl (by rw [isRequest]; rfl)

theorem Consistent.cleanup (consistent : Consistent pod calls)
    (waits : pod.phase.Stoppable) (ending : Ending) :
    Consistent (pod.cleanup ending).1
      (calls ++ [.updateState .disconnected]) where
  reported := by
    have reported := consistent.reported
    unfold Reported at reported
    cases phase : pod.phase with
    | acquiring retry =>
        rw [phase] at reported
        exact .inl (by rw [reported]; rfl)
    | pinging retry =>
        rw [phase] at reported
        exact .inr (by rw [reported]; rfl)
    | pausing =>
        rw [phase] at reported
        exact .inr (by rw [reported]; rfl)
    | notBegun =>
        rw [phase] at waits
        exact absurd waits (by decide)
    | waitingReady =>
        rw [phase] at waits
        exact absurd waits (by decide)
    | finished ended =>
        rw [phase] at waits
        obtain isRequest | isPause := waits
        · cases isRequest
        · cases isPause
  ready := iff_of_false nofun id
  undiscovered isUndiscovered := isUndiscovered.elim
  counted := consistent.counted
  raced _ := rfl

theorem Consistent.goesTo (consistent : Consistent pod calls) {phase : Phase}
    (reports : Reported pod calls → Reported { pod with phase } calls)
    (online : phase.Online ↔ pod.phase.Online)
    (undiscovered : phase.Undiscovered → pod.phase.Undiscovered)
    (goesOn : ∀ ending, phase ≠ .finished ending) :
    Consistent { pod with phase } (calls ++ []) where
  reported := by
    rw [List.append_nil]
    exact reports consistent.reported
  ready := consistent.ready.trans online.symm
  undiscovered isUndiscovered :=
    consistent.undiscovered (undiscovered isUndiscovered)
  counted := consistent.counted
  raced := by
    rintro (ended | ⟨ending, finished⟩)
    · exact consistent.raced (.inl ended)
    · exact absurd finished (goesOn ending)

theorem Consistent.step (consistent : Consistent pod calls) {event : Event}
    (stepped : Stepped pod event next outputs) :
    Consistent next (calls ++ outputs) := by
  have reported := consistent.reported
  have raced := consistent.raced
  cases stepped with
  | begun phase =>
      simp only [Reported, phase] at reported
      refine ⟨by rw [reported]; rfl, ?_, fun _ => ?_, consistent.counted, ?_⟩
      · rw [consistent.ready, phase]
        exact Iff.rfl
      · exact consistent.undiscovered (by rw [phase]; trivial)
      · rintro (ended | ⟨ending, finished⟩)
        · exact raced (.inl ended)
        · cases finished
  | acquired message info phase answers =>
      simp only [Reported, phase] at reported
      refine ⟨by rw [reported]; rfl, iff_of_true rfl trivial, False.elim,
        podInfo_counted answers, ?_⟩
      rintro (ended | ⟨ending, finished⟩)
      · exact raced (.inl ended)
      · cases finished
  | ponged phase =>
      refine consistent.goesTo ?_ (by rw [phase]; exact Iff.rfl)
        False.elim nofun
      simp only [Reported, phase]
      exact id
  | unexpected message phase differs =>
      exact consistent.cleanup (Phase.stoppable_of_request phase) _
  | retried phase left =>
      obtain ⟨acquiring, rfl⟩ | ⟨pinging, rfl⟩ := Phase.request_eq_some phase
      · rw [acquiring]
        refine consistent.goesTo ?_ (by rw [acquiring]; exact Iff.rfl)
          (by rw [acquiring]; exact id) nofun
        simp only [Reported, acquiring, Phase.again]
        exact id
      · rw [pinging]
        refine consistent.goesTo ?_ (by rw [pinging]; exact Iff.rfl)
          (by rw [pinging]; exact id) nofun
        simp only [Reported, pinging, Phase.again]
        exact id
  | gaveUp phase exhausted =>
      exact consistent.cleanup (Phase.stoppable_of_request phase) _
  | closed phase ended => exact consistent.cleanup (.inl phase) _
  | passed phase ready =>
      refine consistent.goesTo ?_ (by rw [phase]; exact Iff.rfl)
        False.elim nofun
      simp only [Reported, phase]
      exact id
  | paused phase =>
      refine consistent.goesTo ?_ (by rw [phase]; exact Iff.rfl)
        False.elim nofun
      simp only [Reported, phase]
      exact id
  | stopped phase requested => exact consistent.cleanup phase _
  | sessionEnded running =>
      rw [List.append_nil]
      exact ⟨reported, consistent.ready, consistent.undiscovered,
        consistent.counted, fun _ => rfl⟩
  | stopRequested =>
      rw [List.append_nil]
      exact ⟨reported, consistent.ready, consistent.undiscovered,
        consistent.counted, fun _ => rfl⟩

theorem consistent_of_run {events : List Event}
    {last : PodRun × List PodStateCall}
    (ran : run (traced PodRun.step) ({}, []) events = some last) :
    Consistent last.1 last.2 := by
  refine invariant_of_run (fun current => Consistent current.1 current.2) ?_
    consistent_initial ran
  intro current event next consistent stepped
  obtain ⟨outputs, isStep, put⟩ := traced_eq_some.mp stepped
  rw [put]
  exact consistent.step (stepped_of_step isStep)

/-- What is left to happen after a stop request, when the Pod does not answer
any more. -/
def remaining (pod : PodRun) : List Event :=
  .stop :: (if pod.sessionRunning = true then [.sessionEnds] else []) ++
    match pod.phase with
    | .notBegun => [.begin, .stopped]
    | .waitingReady => [.ready, .stopped]
    | .acquiring _ | .pinging _ | .pausing => [.stopped]
    | .finished _ => []

theorem run_stop (pod : PodRun) (calls : List PodStateCall)
    (rest : List Event) :
    run (traced PodRun.step) (pod, calls)
        (.stop :: (if pod.sessionRunning = true then [.sessionEnds] else []) ++
          rest) =
      run (traced PodRun.step)
        ({ pod with sessionRunning := false, stopRequested := true }, calls)
        rest := by
  obtain ⟨phase, info, deviceReady, sessionRunning, stopRequested⟩ := pod
  cases sessionRunning <;> simp [traced, PodRun.step]

/-- The monitor does so in every phase. -/
theorem exists_completed {pod : PodRun} {calls : List PodStateCall}
    (consistent : Consistent pod calls) :
    ∃ last, run (traced PodRun.step) (pod, calls) (remaining pod) = some last ∧
      last.1.Completed := by
  rw [remaining, run_stop]
  obtain ⟨phase, info, deviceReady, sessionRunning, stopRequested⟩ := pod
  cases phase with
  | waitingReady =>
      obtain rfl : deviceReady = true := consistent.ready.mpr trivial
      exact ⟨_, rfl, rfl, .stopped, rfl⟩
  | finished ending => exact ⟨_, rfl, rfl, ending, rfl⟩
  | notBegun => exact ⟨_, rfl, rfl, .stopped, rfl⟩
  | acquiring retry => exact ⟨_, rfl, rfl, .stopped, rfl⟩
  | pinging retry => exact ⟨_, rfl, rfl, .stopped, rfl⟩
  | pausing => exact ⟨_, rfl, rfl, .stopped, rfl⟩

/-- In every run of a Pod, its `PodState` is told in order that the Pod is
connecting, its device info and that it is connected, and last that it is
disconnected; `device_ready_` is set exactly in between; and a stop request
always brings the run to its end, whether or not the Pod still answers. -/
theorem podState_reports {events : List Event} {pod : PodRun}
    {calls : List PodStateCall}
    (ran : run (traced PodRun.step) ({}, []) events = some (pod, calls)) :
    Reported pod calls ∧ (pod.deviceReady = true ↔ pod.phase.Online) ∧
      ∃ last, run (traced PodRun.step) (pod, calls) (remaining pod) =
        some last ∧ last.1.Completed ∧ Reported last.1 last.2 := by
  have consistent := consistent_of_run ran
  obtain ⟨last, ranOn, completed⟩ := exists_completed consistent
  have whole : run (traced PodRun.step) ({}, []) (events ++ remaining pod) =
      some last :=
    run_append_eq_some.mpr ⟨_, ran, ranOn⟩
  exact ⟨consistent.reported, consistent.ready, last, ranOn, completed,
    (consistent_of_run whole).reported⟩

/-- A Pod answers once and leaves the first ping open. -/
theorem podState_reports_ping :
    Reported
      { phase := .pinging 1, info := ⟨"gin", 2, 1⟩, deviceReady := true }
      (onlineCalls ⟨"gin", 2, 1⟩) := by
  have ran : run (traced PodRun.step) ({}, [])
      [.begin, .answer (.message (.deviceInfoResponse "gin" 1 0 0 2 1)), .ready,
        .answer .timedOut] =
      some ({ phase := .pinging 1, info := ⟨"gin", 2, 1⟩, deviceReady := true },
        onlineCalls ⟨"gin", 2, 1⟩) := by
    decide
  exact (podState_reports ran).1

end Reports

section Silence

/-- How many waits have timed out since the last message of the Pod. -/
def silence (events : List Event) : Nat :=
  events.foldl (fun count event =>
    match event with
    | .answer .timedOut => count + 1
    | .answer (.message _) => 0
    | _ => count) 0

/-- How often a request is repeated, for the device info or for a ping. -/
def retries (calls : List PodStateCall) : Nat :=
  if .updateState .connected ∈ calls then pingRequest.maxRetries
  else deviceInfoRequest.maxRetries

/-- The monitor ended since the Pod did not answer. -/
def Phase.GaveUp (phase : Phase) : Prop :=
  ∃ podId, phase = .finished (.thrown (.podTimeout podId))

/-- The silence of a Pod in a phase. -/
def Silent (pod : PodRun) (calls : List PodStateCall) (count : Nat) : Prop :=
  match pod.phase with
  | .acquiring retry | .pinging retry => count = retry ∧ retry ≤ retries calls
  | .notBegun | .waitingReady | .pausing => count = 0
  | .finished _ =>
      count ≤ retries calls + 1 ∧
        (pod.phase.GaveUp ↔ count = retries calls + 1)

@[simp]
theorem silence_timedOut (events : List Event) :
    silence (events ++ [.answer .timedOut]) = silence events + 1 := by
  simp [silence]

@[simp]
theorem silence_message (events : List Event) (message : InMessage) :
    silence (events ++ [.answer (.message message)]) = 0 := by
  simp [silence]

/-- Only an answer, or a wait for one, breaks or prolongs a silence. -/
theorem silence_other (events : List Event) (event : Event)
    (isOther : ∀ signal, event ≠ .answer signal) :
    silence (events ++ [event]) = silence events := by
  cases event with
  | answer signal => exact absurd rfl (isOther signal)
  | _ => simp [silence]

variable {pod next : PodRun} {calls outputs : List PodStateCall} {count : Nat}

theorem retries_disconnected :
    retries (calls ++ [.updateState .disconnected]) = retries calls := by
  simp [retries]

/-- The request at hand is repeated as often as its kind allows. -/
theorem retries_of_request {request : RetriedRequest} {retry : Nat}
    (phase : pod.phase.request = some (request, retry))
    (reported : Reported pod calls) : retries calls = request.maxRetries := by
  unfold Reported at reported
  obtain ⟨acquiring, rfl⟩ | ⟨pinging, rfl⟩ := Phase.request_eq_some phase
  · rw [acquiring] at reported
    rw [reported]
    rfl
  · rw [pinging] at reported
    rw [reported]
    rfl

/-- A request has been repeated once for every wait that timed out. -/
theorem Silent.of_request {request : RetriedRequest} {retry : Nat}
    (silent : Silent pod calls count)
    (phase : pod.phase.request = some (request, retry)) :
    count = retry ∧ retry ≤ retries calls := by
  unfold Silent at silent
  obtain ⟨acquiring, -⟩ | ⟨pinging, -⟩ := Phase.request_eq_some phase
  · rwa [acquiring] at silent
  · rwa [pinging] at silent

theorem Silent.le (silent : Silent pod calls count)
    (waits : pod.phase.Stoppable) : count ≤ retries calls := by
  unfold Silent at silent
  obtain hasRequest | pausing := waits
  · obtain ⟨⟨request, retry⟩, phase⟩ := Option.isSome_iff_exists.mp hasRequest
    obtain ⟨rfl, atMost⟩ := Silent.of_request silent phase
    exact atMost
  · rw [pausing] at silent
    exact silent.le.trans (Nat.zero_le _)

theorem silent_cleanup {ending : Ending} (atMost : count ≤ retries calls)
    (other : ∀ podId, ending ≠ .thrown (.podTimeout podId)) :
    Silent (pod.cleanup ending).1 (calls ++ [.updateState .disconnected])
      count := by
  rw [← retries_disconnected] at atMost
  refine ⟨atMost.trans (Nat.le_succ _), iff_of_false ?_ (by omega)⟩
  rintro ⟨podId, finished⟩
  exact other podId (Phase.finished.inj finished)

theorem Silent.step {events : List Event} {event : Event}
    (consistent : Consistent pod calls)
    (silent : Silent pod calls (silence events))
    (stepped : Stepped pod event next outputs) :
    Silent next (calls ++ outputs) (silence (events ++ [event])) := by
  have reported := consistent.reported
  cases stepped with
  | begun phase =>
      rw [silence_other events .begin nofun]
      simp only [Silent, phase] at silent
      exact ⟨silent, Nat.zero_le _⟩
  | acquired message info phase answers => exact silence_message events message
  | ponged phase => exact silence_message events .pong
  | unexpected message phase differs =>
      rw [silence_message]
      exact silent_cleanup (Nat.zero_le _) nofun
  | @retried request retry phase left =>
      obtain ⟨counted, -⟩ := silent.of_request phase
      rw [silence_timedOut, List.append_nil, counted]
      rw [← retries_of_request phase reported] at left
      obtain ⟨acquiring, -⟩ | ⟨pinging, -⟩ := Phase.request_eq_some phase
      · rw [acquiring]
        exact ⟨rfl, left⟩
      · rw [pinging]
        exact ⟨rfl, left⟩
  | @gaveUp request retry phase exhausted =>
      obtain ⟨counted, atMost⟩ := silent.of_request phase
      rw [← retries_of_request phase reported] at exhausted
      have all : silence (events ++ [.answer .timedOut]) =
          retries (calls ++ [.updateState .disconnected]) + 1 := by
        rw [silence_timedOut, counted, retries_disconnected,
          Nat.le_antisymm atMost exhausted]
      exact ⟨all.le, iff_of_true ⟨_, rfl⟩ all⟩
  | closed phase ended =>
      rw [silence_other events .sessionClosed nofun]
      exact silent_cleanup (silent.le (.inl phase)) nofun
  | stopped phase requested =>
      rw [silence_other events .stopped nofun]
      exact silent_cleanup (silent.le phase) nofun
  | passed phase ready =>
      rw [silence_other events .ready nofun]
      simp only [Silent, phase] at silent
      exact ⟨silent, Nat.zero_le _⟩
  | paused phase =>
      rw [silence_other events .timer nofun]
      simp only [Silent, phase] at silent
      exact ⟨silent, Nat.zero_le _⟩
  | sessionEnded running =>
      rw [silence_other events .sessionEnds nofun, List.append_nil]
      exact silent
  | stopRequested =>
      rw [silence_other events .stop nofun, List.append_nil]
      exact silent

theorem silent_of_run {events : List Event} {last : PodRun × List PodStateCall}
    (ran : run (traced PodRun.step) ({}, []) events = some last) :
    Silent last.1 last.2 (silence events) := by
  have atStart : Silent {} [] (silence []) := rfl
  refine history_of_run
    (fun events (current : PodRun × List PodStateCall) =>
      Silent current.1 current.2 (silence events)) atStart ?_ ran
  intro events current event next ranBefore silent stepped
  obtain ⟨outputs, isStep, put⟩ := traced_eq_some.mp stepped
  rw [put]
  exact silent.step (consistent_of_run ranBefore) (stepped_of_step isStep)

/-- A Pod is given up for its silence exactly when six waits for the device
info, or four waits for the answer to a ping, have timed out in a row, and no
run waits any longer. -/
theorem gaveUp_iff_silence {events : List Event} {pod : PodRun}
    {calls : List PodStateCall}
    (ran : run (traced PodRun.step) ({}, []) events = some (pod, calls)) :
    silence events ≤ retries calls + 1 ∧
      (pod.phase.GaveUp ↔ silence events = retries calls + 1) := by
  have silent := silent_of_run ran
  have waiting (atMost : silence events ≤ retries calls)
      (goesOn : ∀ ending, pod.phase ≠ .finished ending) :
      silence events ≤ retries calls + 1 ∧
        (pod.phase.GaveUp ↔ silence events = retries calls + 1) := by
    refine ⟨atMost.trans (Nat.le_succ _), iff_of_false ?_ (by omega)⟩
    rintro ⟨podId, finished⟩
    exact goesOn _ finished
  unfold Silent at silent
  cases phase : pod.phase with
  | finished ending =>
      rw [phase] at silent
      exact silent
  | acquiring retry =>
      rw [phase] at silent waiting
      obtain ⟨counted, atMost⟩ := silent
      exact waiting (counted.le.trans atMost) nofun
  | pinging retry =>
      rw [phase] at silent waiting
      obtain ⟨counted, atMost⟩ := silent
      exact waiting (counted.le.trans atMost) nofun
  | notBegun =>
      rw [phase] at silent waiting
      exact waiting (silent.le.trans (Nat.zero_le _)) nofun
  | waitingReady =>
      rw [phase] at silent waiting
      exact waiting (silent.le.trans (Nat.zero_le _)) nofun
  | pausing =>
      rw [phase] at silent waiting
      exact waiting (silent.le.trans (Nat.zero_le _)) nofun

/-- The sixth wait for the device info times out. -/
theorem gaveUp_iff_silence_deviceInfo :
    Phase.GaveUp (.finished (.thrown (.podTimeout ""))) := by
  have ran : run (traced PodRun.step) ({}, [])
      (.begin :: List.replicate 6 (.answer .timedOut)) =
      some
        ({ phase := .finished (.thrown (.podTimeout ""))
           stopRequested := true },
          [.updateState .connecting, .updateState .disconnected]) := by
    decide
  exact (gaveUp_iff_silence ran).2.mpr (by decide)

end Silence

end PodMonitor

end CocktailMaker
