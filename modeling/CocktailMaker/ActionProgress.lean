import CocktailMaker.ReceiveResponse
import CocktailMaker.ResponseDispatch

/-!
# The course of a long-running action

What `send_action_with_response` is about, without the session: the caller
waits for a signal, which is a message with its transaction id or its timer,
then its continuation runs, and after an acknowledgement it waits once more.
The outcome of a completed call is read off its events here; that the code
takes this course is shown for the model of the code.
-/

namespace CocktailMaker

open LabelledRun

/-- A call of `send_action_with_response<RxMsg>` with the id it was given. -/
structure Action where
  transactionId : TransactionId
  rxMsg : MsgId
  env : MessageEnvironment
  deriving DecidableEq

/-- Which of its two waits a call is in. -/
inductive ActionPhase
  | acknowledgement
  | response
  deriving DecidableEq

inductive ActionProgress
  | sending (first : Option InMessage)
  | waiting (phase : ActionPhase)
  | decided (phase : ActionPhase) (signal : Signal)
  | returned (outcome : Except PodError InMessage)

/-- `read_loop` dispatches a frame, `async_send` completes, the timer of the
pending wait fires, or the posted continuation of a wait that is over runs: it
makes the second registration, with its storage and channel at the given
addresses, or it completes the call.  All other operations on the session may
happen in between. -/
inductive ActionEvent
  | dispatch (frame : InFrame)
  | sent
  | timeout
  | resume (object : RegistrationId) (address : ChannelPtr)
  | other (event : ResponseDispatch.Event)
  deriving DecidableEq

def ActionEvent.isResume : ActionEvent → Bool
  | .resume _ _ => true
  | _ => false

namespace ActionProgress

/-- A message with the id of the call arrives. -/
def receive (progress : ActionProgress) (message : InMessage) :
    ActionProgress :=
  match progress with
  | .sending none => .sending (some message)
  | .waiting phase => .decided phase (.message message)
  | progress => progress

/-- The continuation of a wait runs. -/
def resumed (action : Action) : ActionPhase → Signal → ActionProgress
  | .acknowledgement, signal =>
      match sendWithAck action.env signal with
      | .ok _ => .waiting .response
      | .error error => .returned (.error error)
  | .response, signal =>
      .returned (sendActionWithResponse action.rxMsg action.env signal)

def advance (action : Action) (progress : ActionProgress) :
    ActionEvent → Option ActionProgress
  | .dispatch frame =>
      if frame.transactionId = action.transactionId then
        some (progress.receive frame.message)
      else some progress
  | .sent =>
      match progress with
      | .sending none => some (.waiting .acknowledgement)
      | .sending (some message) =>
          some (.decided .acknowledgement (.message message))
      | _ => none
  | .timeout =>
      match progress with
      | .waiting phase => some (.decided phase .timedOut)
      | _ => none
  | .resume _ _ =>
      match progress with
      | .decided phase signal => some (resumed action phase signal)
      | _ => none
  | .other _ => some progress

end ActionProgress

/-- The event behind a signal. -/
def Signal.event (id : TransactionId) : Signal → ActionEvent
  | .message received => .dispatch ⟨id, received⟩
  | .timedOut => .timeout

def IsSignal (id : TransactionId) (event : ActionEvent) : Prop :=
  ∃ signal, event = Signal.event id signal

/-- `signal` is the first signal for `id`, and `rest` follows it. -/
def FirstSignal (id : TransactionId) (events : List ActionEvent)
    (signal : Signal) (rest : List ActionEvent) : Prop :=
  ∃ before, events = before ++ signal.event id :: rest ∧
    ∀ event ∈ before, ¬ IsSignal id event

/-- `rest` follows the first continuation that runs. -/
def Resumes (events rest : List ActionEvent) : Prop :=
  ∃ before object address, events = before ++ .resume object address :: rest ∧
    ∀ event ∈ before, event.isResume = false

/-- The events that concern the exchange with `id`. -/
def exchange (id : TransactionId) (events : List ActionEvent) :
    List ActionEvent :=
  events.filter fun
    | .dispatch frame => frame.transactionId = id
    | .other _ => false
    | _ => true

section Signals

variable {id : TransactionId} {event : ActionEvent}
  {events rest : List ActionEvent}

theorem isSignal_dispatch (frame : InFrame) :
    IsSignal id (.dispatch frame) ↔ frame.transactionId = id := by
  constructor
  · rintro ⟨signal, eq⟩
    cases signal <;> cases eq
    rfl
  · rintro rfl
    exact ⟨.message frame.message, rfl⟩

theorem isSignal_timeout : IsSignal id .timeout :=
  ⟨.timedOut, rfl⟩

theorem not_isSignal_sent : ¬ IsSignal id .sent := by
  rintro ⟨signal, eq⟩
  cases signal <;> cases eq

theorem not_isSignal_resume (object : RegistrationId) (address : ChannelPtr) :
    ¬ IsSignal id (.resume object address) := by
  rintro ⟨signal, eq⟩
  cases signal <;> cases eq

theorem not_isSignal_other (operation : ResponseDispatch.Event) :
    ¬ IsSignal id (.other operation) := by
  rintro ⟨signal, eq⟩
  cases signal <;> cases eq

theorem FirstSignal.append {before : List ActionEvent} {signal : Signal}
    (first : FirstSignal id events signal rest)
    (noSignal : ∀ event ∈ before, ¬ IsSignal id event) :
    FirstSignal id (before ++ events) signal rest := by
  obtain ⟨between, rfl, noneBetween⟩ := first
  exact ⟨before ++ between, (List.append_assoc ..).symm,
    List.forall_mem_append.mpr ⟨noSignal, noneBetween⟩⟩

theorem Resumes.append {before : List ActionEvent}
    (resumes : Resumes events rest)
    (noResume : ∀ event ∈ before, event.isResume = false) :
    Resumes (before ++ events) rest := by
  obtain ⟨between, object, address, rfl, noneBetween⟩ := resumes
  exact ⟨before ++ between, object, address, (List.append_assoc ..).symm,
    List.forall_mem_append.mpr ⟨noResume, noneBetween⟩⟩

end Signals

namespace ActionProgress

variable {action : Action} {events : List ActionEvent}
  {outcome : Except PodError InMessage}

theorem isResume_of_stays {progress : ActionProgress} {event : ActionEvent}
    (stays : advance action progress event = some progress) :
    event.isResume = false := by
  cases event with
  | resume object address =>
      cases progress with
      | decided phase signal =>
          have resumes := Option.some.inj stays
          cases phase with
          | acknowledgement =>
              simp only [resumed] at resumes
              split at resumes <;> cases resumes
          | response => cases resumes
      | sending first => cases stays
      | waiting phase => cases stays
      | returned outcome => cases stays
  | _ => rfl

/-- A signal changes the progress while nothing is decided. -/
theorem not_isSignal_of_stays {progress : ActionProgress}
    {event : ActionEvent}
    (undecided : progress = .sending none ∨
      ∃ phase, progress = .waiting phase)
    (stays : advance action progress event = some progress) :
    ¬ IsSignal action.transactionId event := by
  cases event with
  | dispatch frame =>
      rw [isSignal_dispatch]
      intro isOwn
      simp only [advance, if_pos isOwn, Option.some.injEq] at stays
      obtain rfl | ⟨phase, rfl⟩ := undecided <;> cases stays
  | sent => exact not_isSignal_sent
  | timeout => obtain rfl | ⟨phase, rfl⟩ := undecided <;> cases stays
  | resume object address => exact not_isSignal_resume object address
  | other operation => exact not_isSignal_other operation

/-- A wait that is over is followed by its continuation. -/
theorem resumes_of_decided {phase : ActionPhase} {signal : Signal}
    (ran : run (advance action) (.decided phase signal) events =
      some (.returned outcome)) :
    ∃ rest, Resumes events rest ∧
      run (advance action) (resumed action phase signal) rest =
        some (.returned outcome) := by
  obtain ⟨before, event, next, rest, rfl, idle, departs, moved, ranRest⟩ :=
    exists_departure ran nofun
  cases event with
  | dispatch frame =>
      simp only [advance, receive, ite_self, Option.some.injEq] at departs
      exact absurd departs.symm moved
  | sent => cases departs
  | timeout => cases departs
  | resume object address =>
      cases departs
      exact ⟨rest, ⟨before, object, address, rfl,
        fun other member => isResume_of_stays (idle other member)⟩, ranRest⟩
  | other operation => exact absurd (Option.some.inj departs).symm moved

/-- A message that arrives while the request is being sent is kept until the
wait begins. -/
theorem resumes_of_sending {message : InMessage}
    (ran : run (advance action) (.sending (some message)) events =
      some (.returned outcome)) :
    ∃ rest, Resumes events rest ∧
      run (advance action)
        (resumed action .acknowledgement (.message message)) rest =
          some (.returned outcome) := by
  obtain ⟨before, event, next, rest, rfl, idle, departs, moved, ranRest⟩ :=
    exists_departure ran nofun
  cases event with
  | dispatch frame =>
      simp only [advance, receive, ite_self, Option.some.injEq] at departs
      exact absurd departs.symm moved
  | sent =>
      cases departs
      obtain ⟨resumedRest, resumes, ranOn⟩ := resumes_of_decided ranRest
      have noResume : ∀ other ∈ before, other.isResume = false :=
        fun other member => isResume_of_stays (idle other member)
      rw [List.append_cons]
      exact ⟨resumedRest, resumes.append (List.forall_mem_append.mpr
        ⟨noResume, List.forall_mem_singleton.mpr rfl⟩), ranOn⟩
  | timeout => cases departs
  | resume object address => cases departs
  | other operation => exact absurd (Option.some.inj departs).symm moved

theorem firstSignal_of_waiting {phase : ActionPhase}
    (ran : run (advance action) (.waiting phase) events =
      some (.returned outcome)) :
    ∃ signal rest resumedRest,
      FirstSignal action.transactionId events signal rest ∧
      Resumes rest resumedRest ∧
      run (advance action) (resumed action phase signal) resumedRest =
        some (.returned outcome) := by
  obtain ⟨before, event, next, rest, rfl, idle, departs, moved, ranRest⟩ :=
    exists_departure ran nofun
  have noSignal : ∀ other ∈ before, ¬ IsSignal action.transactionId other :=
    fun other member =>
      not_isSignal_of_stays (.inr ⟨phase, rfl⟩) (idle other member)
  cases event with
  | dispatch frame =>
      simp only [advance, receive] at departs
      split at departs
      · next isOwn =>
          cases departs
          obtain ⟨resumedRest, resumes, ranOn⟩ := resumes_of_decided ranRest
          refine ⟨.message frame.message, rest, resumedRest,
            ⟨before, ?_, noSignal⟩, resumes, ranOn⟩
          rw [← isOwn]
          rfl
      · exact absurd (Option.some.inj departs).symm moved
  | sent => cases departs
  | timeout =>
      cases departs
      obtain ⟨resumedRest, resumes, ranOn⟩ := resumes_of_decided ranRest
      exact ⟨.timedOut, rest, resumedRest, ⟨before, rfl, noSignal⟩, resumes,
        ranOn⟩
  | resume object address => cases departs
  | other operation => exact absurd (Option.some.inj departs).symm moved

/-- So is the first wait, even if the signal comes before it begins. -/
theorem firstSignal_of_sending
    (ran : run (advance action) (.sending none) events =
      some (.returned outcome)) :
    ∃ signal rest resumedRest,
      FirstSignal action.transactionId events signal rest ∧
      Resumes rest resumedRest ∧
      run (advance action) (resumed action .acknowledgement signal)
        resumedRest = some (.returned outcome) := by
  obtain ⟨before, event, next, rest, rfl, idle, departs, moved, ranRest⟩ :=
    exists_departure ran nofun
  have noSignal : ∀ other ∈ before, ¬ IsSignal action.transactionId other :=
    fun other member => not_isSignal_of_stays (.inl rfl) (idle other member)
  cases event with
  | dispatch frame =>
      simp only [advance, receive] at departs
      split at departs
      · next isOwn =>
          cases departs
          obtain ⟨resumedRest, resumes, ranOn⟩ := resumes_of_sending ranRest
          refine ⟨.message frame.message, rest, resumedRest,
            ⟨before, ?_, noSignal⟩, resumes, ranOn⟩
          rw [← isOwn]
          rfl
      · exact absurd (Option.some.inj departs).symm moved
  | sent =>
      cases departs
      obtain ⟨signal, later, resumedRest, first, resumes, ranOn⟩ :=
        firstSignal_of_waiting ranRest
      rw [List.append_cons]
      exact ⟨signal, later, resumedRest, first.append
        (List.forall_mem_append.mpr ⟨noSignal,
          List.forall_mem_singleton.mpr not_isSignal_sent⟩), resumes, ranOn⟩
  | timeout => cases departs
  | resume object address => cases departs
  | other operation => exact absurd (Option.some.inj departs).symm moved

theorem returned_of_run {last : ActionProgress}
    (ran : run (advance action) (.returned outcome) events = some last) :
    last = .returned outcome := by
  refine invariant_of_run (fun progress => progress = .returned outcome) ?_ rfl
    ran
  rintro _ event next rfl advanced
  cases event with
  | dispatch frame =>
      simp only [advance, receive, ite_self, Option.some.injEq] at advanced
      exact advanced.symm
  | other operation => exact (Option.some.inj advanced).symm
  | sent => cases advanced
  | timeout => cases advanced
  | resume object address => cases advanced

theorem quiet_sending {last : ActionProgress}
    (quiet : ∀ event ∈ events, ¬ IsSignal action.transactionId event)
    (ran : run (advance action) (.sending none) events = some last) :
    last = .sending none ∨ last = .waiting .acknowledgement := by
  refine history_of_run (fun events progress =>
      (∀ event ∈ events, ¬ IsSignal action.transactionId event) →
        progress = .sending none ∨ progress = .waiting .acknowledgement)
    (fun _ => .inl rfl) ?_ ran quiet
  intro events progress event next _ ih advanced quiet
  have notSignal := quiet event List.mem_concat_self
  have before := ih fun other member =>
    quiet other (List.mem_append_left _ member)
  cases event with
  | dispatch frame =>
      rw [isSignal_dispatch] at notSignal
      simp only [advance, if_neg notSignal, Option.some.injEq] at advanced
      exact advanced ▸ before
  | sent =>
      rcases before with rfl | rfl <;> cases advanced
      exact .inr rfl
  | timeout => exact absurd isSignal_timeout notSignal
  | resume object address => rcases before with rfl | rfl <;> cases advanced
  | other operation =>
      cases advanced
      exact before

/-- An acknowledgement has arrived and the continuation has not run yet. -/
def Acknowledged (progress : ActionProgress) : Prop :=
  progress = .sending (some .ack) ∨
    progress = .decided .acknowledgement (.message .ack)

theorem Acknowledged.receive {progress : ActionProgress}
    (acknowledged : Acknowledged progress) (message : InMessage) :
    progress.receive message = progress := by
  rcases acknowledged with rfl | rfl <;> rfl

/-- Without another signal, an acknowledged call waits for the response exactly
when its continuation has run. -/
theorem quiet_acknowledged {start last : ActionProgress}
    (acknowledged : Acknowledged start)
    (quiet : ∀ event ∈ events, ¬ IsSignal action.transactionId event)
    (ran : run (advance action) start events = some last) :
    ((∀ event ∈ events, event.isResume = false) ∧ Acknowledged last) ∨
      (∃ event ∈ events, event.isResume = true) ∧
        last = .waiting .response := by
  refine history_of_run (fun events progress =>
      (∀ event ∈ events, ¬ IsSignal action.transactionId event) →
        ((∀ event ∈ events, event.isResume = false) ∧
            Acknowledged progress) ∨
          (∃ event ∈ events, event.isResume = true) ∧
            progress = .waiting .response)
    (fun _ => .inl ⟨by simp, acknowledged⟩) ?_ ran quiet
  intro events progress event next _ ih advanced quiet
  have notSignal := quiet event List.mem_concat_self
  rcases ih fun other member => quiet other (List.mem_append_left _ member)
    with ⟨notResumed, isAcknowledged⟩ | ⟨⟨resumed, member, isResume⟩, rfl⟩
  · cases event with
    | dispatch frame =>
        rw [isSignal_dispatch] at notSignal
        simp only [advance, if_neg notSignal, Option.some.injEq] at advanced
        subst advanced
        exact .inl ⟨by simpa [ActionEvent.isResume, or_imp, forall_and] using
          notResumed, isAcknowledged⟩
    | sent =>
        rcases isAcknowledged with rfl | rfl <;> cases advanced
        exact .inl ⟨by simpa [ActionEvent.isResume, or_imp, forall_and] using
          notResumed, .inr rfl⟩
    | timeout => exact absurd isSignal_timeout notSignal
    | resume object address =>
        rcases isAcknowledged with rfl | rfl <;> cases advanced
        exact .inr ⟨⟨_, List.mem_concat_self, rfl⟩, rfl⟩
    | other operation =>
        cases advanced
        exact .inl ⟨by simpa [ActionEvent.isResume, or_imp, forall_and] using
          notResumed, isAcknowledged⟩
  · refine .inr ⟨⟨resumed, List.mem_append_left _ member, isResume⟩, ?_⟩
    cases event with
    | dispatch frame =>
        rw [isSignal_dispatch] at notSignal
        simp only [advance, if_neg notSignal, Option.some.injEq] at advanced
        exact advanced.symm
    | sent => cases advanced
    | timeout => exact absurd isSignal_timeout notSignal
    | resume object address => cases advanced
    | other operation => exact (Option.some.inj advanced).symm

/-- What a second frame finds, when the acknowledgement is the first signal
and the frame is the next one: a wait for it if the continuation has run, and
otherwise a call that is still to go on after the acknowledgement. -/
theorem before_second_frame {before between : List ActionEvent}
    {progress : ActionProgress}
    (ackIsFirst : ∀ event ∈ before, ¬ IsSignal action.transactionId event)
    (secondIsNext : ∀ event ∈ between,
      ¬ IsSignal action.transactionId event)
    (ran : run (advance action) (.sending none)
      (before ++ .dispatch ⟨action.transactionId, .ack⟩ :: between) =
        some progress) :
    ((∀ event ∈ between, event.isResume = false) ∧ Acknowledged progress) ∨
      (∃ event ∈ between, event.isResume = true) ∧
        progress = .waiting .response := by
  obtain ⟨first, ranBefore, ranAck⟩ := run_append_eq_some.mp ran
  obtain ⟨acknowledged, isDispatched, ranBetween⟩ :=
    run_cons_eq_some.mp ranAck
  simp only [advance, if_pos, Option.some.injEq] at isDispatched
  refine quiet_acknowledged ?_ secondIsNext ranBetween
  rw [← isDispatched]
  rcases quiet_sending ackIsFirst ranBefore with rfl | rfl
  · exact .inl rfl
  · exact .inr rfl

theorem outcome_of_decided_response {message : InMessage}
    (ran : run (advance action) (.decided .response (.message message))
      events = some (.returned outcome)) :
    outcome =
      sendActionWithResponse action.rxMsg action.env (.message message) := by
  obtain ⟨_, _, ranOn⟩ := resumes_of_decided ran
  have ended := returned_of_run ranOn
  exact ActionProgress.returned.inj ended

/-- The outcome of a completed call: the first signal ends it, unless it is an
acknowledgement; then the first signal behind the continuation does. -/
theorem outcome_of_run
    (ran : run (advance action) (.sending none) events =
      some (.returned outcome)) :
    ∃ first rest resumedRest,
      FirstSignal action.transactionId events first rest ∧
      Resumes rest resumedRest ∧
      ((∃ error, sendWithAck action.env first = .error error ∧
          outcome = .error error) ∨
        first = .message .ack ∧ ∃ second behind,
          FirstSignal action.transactionId resumedRest second behind ∧
          outcome = sendActionWithResponse action.rxMsg action.env second) := by
  obtain ⟨first, rest, resumedRest, isFirst, resumes, ranOn⟩ :=
    firstSignal_of_sending ran
  refine ⟨first, rest, resumedRest, isFirst, resumes, ?_⟩
  unfold resumed at ranOn
  cases acknowledged : sendWithAck action.env first with
  | error error =>
      simp only [acknowledged] at ranOn
      have ended := returned_of_run ranOn
      cases ended
      exact .inl ⟨error, rfl, rfl⟩
  | ok value =>
      simp only [acknowledged] at ranOn
      obtain ⟨second, behind, _, isSecond, _, ranEnd⟩ :=
        firstSignal_of_waiting ranOn
      obtain ⟨rfl, isAck⟩ := receiveOrNak_eq_ok acknowledged
      have ended := returned_of_run ranEnd
      cases ended
      cases value <;> simp only [InMessage.getId, reduceCtorEq] at isAck
      exact .inr ⟨rfl, second, behind, isSecond, rfl⟩

/-- Frames of other transactions and other operations are not seen. -/
theorem run_exchange (progress : ActionProgress) :
    run (advance action) progress (exchange action.transactionId events) =
      run (advance action) progress events := by
  induction events generalizing progress with
  | nil => rfl
  | cons event events ih =>
      cases event with
      | dispatch frame =>
          by_cases isOwn : frame.transactionId = action.transactionId
          · have kept : exchange action.transactionId
                (.dispatch frame :: events) =
                  .dispatch frame :: exchange action.transactionId events := by
              simp [exchange, isOwn]
            rw [kept, run_cons, run_cons]
            simp only [advance, if_pos isOwn, Option.bind_some, ih]
          · have dropped : exchange action.transactionId
                (.dispatch frame :: events) =
                  exchange action.transactionId events := by
              simp [exchange, isOwn]
            rw [dropped, run_cons, ih, advance, if_neg isOwn, Option.bind_some]
      | other operation =>
          have dropped : exchange action.transactionId
              (.other operation :: events) =
                exchange action.transactionId events := by
            simp [exchange]
          rw [dropped, run_cons, ih, advance, Option.bind_some]
      | sent =>
          have kept : exchange action.transactionId (.sent :: events) =
              .sent :: exchange action.transactionId events := by
            simp [exchange]
          rw [kept, run_cons, run_cons]
          exact congrArg _ (funext ih)
      | timeout =>
          have kept : exchange action.transactionId (.timeout :: events) =
              .timeout :: exchange action.transactionId events := by
            simp [exchange]
          rw [kept, run_cons, run_cons]
          exact congrArg _ (funext ih)
      | resume object address =>
          have kept : exchange action.transactionId
              (.resume object address :: events) =
                .resume object address ::
                  exchange action.transactionId events := by
            simp [exchange]
          rw [kept, run_cons, run_cons]
          exact congrArg _ (funext ih)

end ActionProgress

end CocktailMaker
