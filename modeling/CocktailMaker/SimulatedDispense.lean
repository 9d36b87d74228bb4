import CocktailMaker.PodAction
import CocktailMaker.SimulatedPod

/-!
# A long-running action on the simulated Pod

The Station calls `send_action_with_response` while the simulated Pod handles
requests of other transactions next to the one of the call.  Frames reach the
Station in the order in which the Pod has written them.  What the call returns
is what the Pod has done.
-/

namespace CocktailMaker

namespace SimulatedPod

open LabelledRun

/-- A call of the Station, the frames on their way to it and the Pod. -/
structure Link where
  client : CooperativeTasks Received Volumes InMessage
  wire : List InFrame := []
  call : ActionCall
  /-- The request of the call has not reached the Pod. -/
  underway : Bool := true

/-- The request of the call reaches the Pod, the Pod takes a step or gets a
request of another transaction, the first frame reaches the Station, or the
call goes on. -/
inductive LinkEvent
  | request
  | pod (event : CooperativeTasks.Event Received)
  | deliver
  | station (event : ActionEvent)
  deriving DecidableEq

namespace Link

/-- The Pod takes a step. -/
def advancePod (deviceInfo : InMessage) (link : Link)
    (event : CooperativeTasks.Event Received) : Option Link :=
  (CooperativeTasks.step (handle deviceInfo) link.client event).map
    fun (client, taken) =>
      { link with client, wire := link.wire ++ frames taken }

def step (deviceInfo : InMessage) (request : Request) (action : Action)
    (link : Link) : LinkEvent → Option Link
  | .request =>
      if link.underway = true then
        advancePod deviceInfo { link with underway := false }
          (.spawn ⟨request, action.transactionId⟩)
      else none
  | .pod event =>
      match event with
      | .spawn received =>
          if WithId action.transactionId received then none
          else advancePod deviceInfo link event
      | event => advancePod deviceInfo link event
  | .deliver =>
      match link.wire with
      | [] => none
      | frame :: wire =>
          (ActionCall.step action link.call (.dispatch frame)).map fun call =>
            { link with wire, call }
  | .station event =>
      match event with
      | .dispatch _ => none
      | event =>
          (ActionCall.step action link.call event).map fun call =>
            { link with call }

end Link

/-- The messages with the id that are dispatched. -/
def dispatched (id : TransactionId) (events : List ActionEvent) :
    List InMessage :=
  exchangeFrames id (events.filterMap fun
    | .dispatch frame => some frame
    | _ => none)

section Dispatched

variable {id : TransactionId} {events rest : List ActionEvent}

theorem exchangeFrames_append (first second : List InFrame) :
    exchangeFrames id (first ++ second) =
      exchangeFrames id first ++ exchangeFrames id second := by
  simp [exchangeFrames]

theorem dispatched_append (first second : List ActionEvent) :
    dispatched id (first ++ second) =
      dispatched id first ++ dispatched id second := by
  simp [dispatched, exchangeFrames]

theorem dispatched_quiet (quiet : ∀ event ∈ events, ¬ IsSignal id event) :
    dispatched id events = [] := by
  induction events with
  | nil => rfl
  | cons event events ih =>
      obtain ⟨notSignal, quietRest⟩ := List.forall_mem_cons.mp quiet
      have restEmpty := ih quietRest
      rw [← List.singleton_append, dispatched_append, restEmpty,
        List.append_nil]
      cases event with
      | dispatch frame =>
          rw [isSignal_dispatch] at notSignal
          simp [dispatched, exchangeFrames, notSignal]
      | _ => rfl

/-- The first signal is the first message, unless it is the timer. -/
theorem dispatched_firstSignal {message : InMessage}
    (first : FirstSignal id events (.message message) rest) :
    dispatched id events = message :: dispatched id rest := by
  obtain ⟨before, rfl, quiet⟩ := first
  rw [dispatched_append, dispatched_quiet quiet, List.nil_append,
    ← List.singleton_append, dispatched_append]
  simp [Signal.event, dispatched, exchangeFrames]

theorem dispatched_resumes (resumes : Resumes events rest) :
    dispatched id rest <:+ dispatched id events := by
  obtain ⟨before, object, address, rfl, _⟩ := resumes
  rw [List.append_cons, dispatched_append]
  exact List.suffix_append _ _

end Dispatched

/-- The call goes on as the calls of the Station do.  The messages with its id
that were dispatched and those that are on their way are the messages that were
taken from the handler of its request. -/
structure Exchanging (deviceInfo : InMessage) (request : Request)
    (action : Action) (initial : ActionCall) (link : Link) : Prop where
  stocked : Stocked link.client.state
  sound : ∀ task ∈ link.client.tasks,
    CooperativeTasks.Sound (handle deviceInfo) Stocked task
  called : ∃ events sent, run (ActionCall.step action) initial events =
      some link.call ∧
    dispatched action.transactionId events ++
      exchangeFrames action.transactionId link.wire = sent ∧
    ((link.underway = true ∧ sent = [] ∧
        CooperativeTasks.Concluded (WithId action.transactionId) link.client) ∨
      link.underway = false ∧ ∃ index,
        CooperativeTasks.Alone (WithId action.transactionId) index
          ⟨request, action.transactionId⟩ sent link.client)

section Steps

variable {deviceInfo : InMessage} {request : Request} {action : Action}
  {initial : ActionCall} {link next : Link}

theorem exchanging_advancePod {event : CooperativeTasks.Event Received}
    (exchanging : Exchanging deviceInfo request action initial link)
    (notOwn : ∀ received, event = .spawn received →
      ¬ WithId action.transactionId received)
    (stepped : link.advancePod deviceInfo event = some next) :
    Exchanging deviceInfo request action initial next := by
  obtain ⟨stocked, sound, events, sent, ran, isSent, origin⟩ := exchanging
  obtain ⟨⟨client, taken⟩, isStep, rfl⟩ := Option.map_eq_some_iff.mp stepped
  have podStepped := CooperativeTasks.stepped_of_step isStep
  obtain ⟨stockedNext, soundNext⟩ := CooperativeTasks.sound_of_step
    handle_preserves ⟨stocked, sound⟩ podStepped
  refine ⟨stockedNext, soundNext, events,
    sent ++ exchangeFrames action.transactionId (frames taken), ran, ?_, ?_⟩
  · rw [exchangeFrames_append, ← List.append_assoc, isSent]
  · rcases origin with ⟨underway, rfl, concluded⟩ | ⟨arrived, index, alone⟩
    · obtain ⟨nothing, concludedNext⟩ :=
        concluded.of_step notOwn podStepped
      rw [exchangeFrames_frames]
      exact .inl ⟨underway, nothing, concludedNext⟩
    · rw [exchangeFrames_frames]
      refine .inr ⟨arrived, index, alone.of_step notOwn podStepped⟩

theorem exchanging_request
    (exchanging : Exchanging deviceInfo request action initial link)
    (underway : link.underway = true)
    (stepped : Link.advancePod deviceInfo { link with underway := false }
      (.spawn ⟨request, action.transactionId⟩) = some next) :
    Exchanging deviceInfo request action initial next := by
  obtain ⟨stocked, sound, events, sent, ran, isSent, origin⟩ := exchanging
  obtain ⟨⟨client, taken⟩, isStep, rfl⟩ := Option.map_eq_some_iff.mp stepped
  obtain ⟨stockedNext, soundNext⟩ := CooperativeTasks.sound_of_step
    handle_preserves ⟨stocked, sound⟩ (CooperativeTasks.stepped_of_step isStep)
  rcases origin with ⟨_, isEmpty, concluded⟩ | ⟨arrived, _⟩
  · cases isStep
    refine ⟨stockedNext, soundNext, events, sent, ran, ?_, .inr ⟨rfl,
      link.client.tasks.length, ?_⟩⟩
    · rw [exchangeFrames_append, ← List.append_assoc, isSent]
      exact List.append_nil _
    · rw [isEmpty]
      exact CooperativeTasks.alone_spawn (handle deviceInfo) rfl concluded
  · rw [underway] at arrived
    cases arrived

theorem exchanging_call {event : ActionEvent} {call : ActionCall}
    (exchanging : Exchanging deviceInfo request action initial link)
    (stepped : ActionCall.step action link.call event = some call)
    {wire : List InFrame}
    (delivers : dispatched action.transactionId [event] ++
        exchangeFrames action.transactionId wire =
      exchangeFrames action.transactionId link.wire) :
    Exchanging deviceInfo request action initial { link with wire, call } := by
  obtain ⟨stocked, sound, events, sent, ran, isSent, origin⟩ := exchanging
  refine ⟨stocked, sound, events ++ [event], sent,
    run_concat_eq_some.mpr ⟨link.call, ran, stepped⟩, ?_, origin⟩
  rw [dispatched_append, List.append_assoc, delivers, isSent]

theorem exchanging_step {event : LinkEvent}
    (exchanging : Exchanging deviceInfo request action initial link)
    (stepped : link.step deviceInfo request action event = some next) :
    Exchanging deviceInfo request action initial next := by
  cases event with
  | request =>
      obtain ⟨underway, arrived⟩ := Option.ite_none_right_eq_some.mp stepped
      exact exchanging_request exchanging underway arrived
  | pod event =>
      cases event with
      | spawn received =>
          simp only [Link.step] at stepped
          split at stepped
          · cases stepped
          · next notOwn =>
              refine exchanging_advancePod exchanging ?_ stepped
              rintro _ ⟨⟩
              exact notOwn
      | _ =>
          refine exchanging_advancePod exchanging ?_ stepped
          rintro _ ⟨⟩
  | deliver =>
      simp only [Link.step] at stepped
      split at stepped
      · cases stepped
      · next frame wire isWire =>
          obtain ⟨call, isCall, rfl⟩ := Option.map_eq_some_iff.mp stepped
          refine exchanging_call exchanging isCall ?_
          rw [isWire]
          exact (exchangeFrames_append [frame] wire).symm
  | station event =>
      cases event with
      | dispatch frame => cases stepped
      | _ =>
          obtain ⟨call, isCall, rfl⟩ := Option.map_eq_some_iff.mp stepped
          exact exchanging_call exchanging isCall rfl

/-- A call that starts when the exchanges with its id are concluded. -/
theorem exchanging_of_run
    {client : CooperativeTasks Received Volumes InMessage}
    {earlier : List (Received × InMessage)}
    {before : List (CooperativeTasks.Event Received)}
    (ranBefore : run (traced (CooperativeTasks.step (handle deviceInfo)))
      ({ state := full }, []) before = some (client, earlier))
    (concluded :
      CooperativeTasks.Concluded (WithId action.transactionId) client)
    {wire : List InFrame}
    (noneUnderway : exchangeFrames action.transactionId wire = [])
    {events : List LinkEvent} {last : Link}
    (ran : run (Link.step deviceInfo request action)
      { client, wire, call := initial } events = some last) :
    Exchanging deviceInfo request action initial last := by
  refine invariant_of_run (Exchanging deviceInfo request action initial)
    (fun _ _ _ exchanging stepped => exchanging_step exchanging stepped) ?_ ran
  obtain ⟨stocked, sound⟩ := sound_of_run ranBefore
  exact ⟨stocked, sound, [], [], rfl, noneUnderway,
    .inl ⟨rfl, rfl, concluded⟩⟩

end Steps

section Outcomes

variable {deviceInfo : InMessage} {request : Request} {action : Action}
  {initial : ActionCall} {link : Link}

/-- A whole answer that concludes with `event`, unless the dispenser is
empty. -/
def WholeAnswer (event : MsgId) (messages : List InMessage) : Prop :=
  messages = [.nak .dispenserEmpty] ∨
    ∃ message, messages = [.ack, message] ∧ message.getId = event

/-- The outcome of a call whose frames begin one of the answers of the
Pod. -/
theorem outcome_of_answers {events : List ActionEvent}
    {outcome : Except PodError InMessage} {answers : List InMessage}
    (ran : run (ActionProgress.advance action) (.sending none) events =
      some (.returned outcome))
    (isPrefix : dispatched action.transactionId events <+: answers)
    (isAnswer : WholeAnswer action.rxMsg answers)
    (notNak : action.rxMsg ≠ .nak) :
    outcome = .error (.podTimeout action.env.podId) ∨
      (dispatched action.transactionId events = [.nak .dispenserEmpty] ∧
        outcome = .error
          (.dispenserEmpty action.env.podId action.env.dispenserId)) ∨
      ∃ message, dispatched action.transactionId events = [.ack, message] ∧
        outcome = .ok message := by
  obtain ⟨first, rest, continuation, isFirst, resumes, ends⟩ :=
    ActionProgress.outcome_of_run ran
  cases first with
  | timedOut =>
      rcases ends with ⟨error, isError, rfl⟩ | ⟨⟨⟩, _⟩
      rw [← isError]
      exact .inl rfl
  | message message =>
      have begins := dispatched_firstSignal isFirst
      rw [begins] at isPrefix ⊢
      rcases isAnswer with rfl | ⟨event, rfl, isEvent⟩
      · obtain ⟨rfl, restEmpty⟩ := List.cons_prefix_cons.mp isPrefix
        rcases ends with ⟨error, isError, rfl⟩ | ⟨⟨⟩, _⟩
        rw [List.prefix_nil.mp restEmpty, ← isError]
        exact .inr (.inl ⟨rfl, receiveOrNak_nak _ _ _⟩)
      · obtain ⟨rfl, restPrefix⟩ := List.cons_prefix_cons.mp isPrefix
        rcases ends with ⟨error, ⟨⟩, _⟩ | ⟨_, second, behind, isSecond, rfl⟩
        cases second with
        | timedOut => exact .inl rfl
        | message second =>
            have follows : dispatched action.transactionId continuation <:+
                dispatched action.transactionId rest :=
              dispatched_resumes resumes
            rw [dispatched_firstSignal isSecond] at follows
            rcases List.prefix_cons_iff.mp restPrefix with
              isEmpty | ⟨more, isRest, isLast⟩
            · rw [isEmpty, List.suffix_nil] at follows
              cases follows
            · rw [isRest, List.prefix_nil.mp isLast] at follows ⊢
              rcases List.suffix_cons_iff.mp follows with whole | inTail
              · obtain ⟨rfl, _⟩ := List.cons.inj whole
                refine .inr (.inr ⟨second, rfl, ?_⟩)
                rw [← isEvent] at notNak
                rw [sendActionWithResponse, receiveOrNak_other _ _ notNak,
                  if_pos isEvent]
              · cases List.suffix_nil.mp inTail

/-- A handler that has sent its whole answer has reported all it took. -/
theorem dispensedBy_of_complete {dispenserId : DispenserIndex}
    {task : CooperativeTask Received Volumes InMessage}
    (sound : CooperativeTasks.Sound (handle deviceInfo) Stocked task)
    (complete : ∀ later, (handle deviceInfo task.tag).Trace Stocked
      (task.sent ++ later) → later = []) :
    dispensedBy dispenserId task =
      (task.sent.map (dispensed dispenserId task.tag)).sum := by
  have nothingOwed : CooperativeTasks.owed (dispensed dispenserId task.tag)
      task = 0 := by
    unfold CooperativeTasks.owed
    split
    · rfl
    · unfold Coroutine.reported
      cases isRest : task.rest with
      | send message rest =>
          obtain ⟨messages, trace⟩ :=
            Coroutine.exists_trace sound.preserves full_stocked
          have isEmpty := complete messages (sound.follows messages trace)
          rw [isRest] at trace
          obtain ⟨later, isSend, _⟩ := trace
          cases isSend.symm.trans isEmpty
      | _ => rfl
  rw [dispensedBy, CooperativeTasks.reported, nothingOwed, add_zero]

theorem dispense_complete {transactionId : TransactionId}
    {dispenserId : DispenserIndex} {millilitre : Rat}
    {messages later : List InMessage}
    (isAnswer : messages = [.nak .dispenserEmpty] ∨
      ∃ message, messages = [.ack, message])
    (trace : (handle deviceInfo
      ⟨.dispense dispenserId millilitre, transactionId⟩).Trace Stocked
        (messages ++ later)) :
    later = [] := by
  rcases trace_dispense trace with whole | ⟨poured, whole, _⟩
  · rcases isAnswer with rfl | ⟨message, rfl⟩
    · simpa using whole
    · cases whole
  · rcases isAnswer with rfl | ⟨message, rfl⟩
    · cases whole
    · exact ((List.cons.inj (List.cons.inj whole).2).2)

/-- When the Station has a result of `dispense`, the Pod has taken that volume
out of the dispenser for it, and at most what was asked for. -/
theorem dispense_returns_poured {session : ResponseDispatch}
    {object : RegistrationId} {address : ChannelPtr}
    {dispenserId : DispenserIndex} {millilitre : Rat}
    (isDispense : request = .dispense dispenserId millilitre)
    (expects : action.rxMsg = .dispenseFinished)
    (started : ActionCall.start action session object address = some initial)
    {client : CooperativeTasks Received Volumes InMessage}
    {earlier : List (Received × InMessage)}
    {before : List (CooperativeTasks.Event Received)}
    (ranBefore : run (traced (CooperativeTasks.step (handle deviceInfo)))
      ({ state := full }, []) before = some (client, earlier))
    (concluded :
      CooperativeTasks.Concluded (WithId action.transactionId) client)
    {wire : List InFrame}
    (noneUnderway : exchangeFrames action.transactionId wire = [])
    {events : List LinkEvent}
    (ran : run (Link.step deviceInfo request action)
      { client, wire, call := initial } events = some link)
    {outcome : Except PodError InMessage}
    (returned : link.call.stage = .returned outcome) :
    outcome = .error (.podTimeout action.env.podId) ∨
      ∃ task ∈ link.client.tasks,
        task.tag = ⟨request, action.transactionId⟩ ∧
        ((outcome = .error (.dispenserEmpty action.env.podId
              action.env.dispenserId) ∧
            dispensedBy dispenserId task = 0) ∨
          ∃ poured, outcome = .ok (.dispenseFinished poured) ∧
            dispensedBy dispenserId task = milliLitre poured ∧
            poured ≤ millilitre) := by
  subst isDispense
  obtain ⟨stocked, sound, calls, sent, ranCalls, isSent, origin⟩ :=
    exchanging_of_run ranBefore concluded noneUnderway ran
  obtain ⟨progress, advanced, represents⟩ :=
    ActionCall.represents_of_run started ranCalls
  have isReturned := ActionCall.progress_of_returned represents returned
  subst isReturned
  have notNak : action.rxMsg ≠ .nak := by simp [expects]
  rcases origin with ⟨_, isEmpty, _⟩ | ⟨_, index, alone⟩
  · have nothing := (List.append_eq_nil_iff.mp (isSent.trans isEmpty)).1
    rcases outcome_of_answers advanced (nothing ▸ List.nil_prefix) (.inl rfl)
      notNak with timedOut | ⟨isNak, _⟩ | ⟨message, isAck, _⟩
    · exact .inl timedOut
    · cases nothing.symm.trans isNak
    · cases nothing.symm.trans isAck
  · -- The handler of the request has begun one of its two answers.
    obtain ⟨rest, ready, isTask⟩ := alone.isTask
    have isMember := List.mem_of_getElem? isTask
    have soundTask := sound _ isMember
    obtain ⟨later, trace⟩ :=
      Coroutine.exists_trace soundTask.preserves stocked
    have answered := soundTask.follows later trace
    simp only [← isSent, List.append_assoc] at answered
    have isAnswer : WholeAnswer action.rxMsg _ :=
      (trace_dispense answered).imp_right fun ⟨poured, isWhole, _⟩ =>
        ⟨.dispenseFinished poured, isWhole, expects.symm⟩
    have allSent {messages : List InMessage}
        (isWhole : messages = [.nak .dispenserEmpty] ∨
          ∃ message, messages = [.ack, message])
        (arrived : dispatched action.transactionId calls = messages) :
        sent = messages ∧ ∀ more, (handle deviceInfo
          ⟨.dispense dispenserId millilitre, action.transactionId⟩).Trace
            Stocked (sent ++ more) → more = [] := by
      rw [arrived] at answered isSent
      have nothing := dispense_complete isWhole answered
      rw [(List.append_eq_nil_iff.mp nothing).1, List.append_nil] at isSent
      subst isSent
      exact ⟨rfl, fun more => dispense_complete isWhole⟩
    rcases outcome_of_answers advanced (List.prefix_append _ _) isAnswer notNak
      with timedOut | ⟨isNak, ended⟩ | ⟨message, isAck, ended⟩
    · exact .inl timedOut
    · obtain ⟨sentNak, complete⟩ := allSent (.inl rfl) isNak
      refine .inr ⟨_, isMember, rfl, .inl ⟨ended, ?_⟩⟩
      rw [dispensedBy_of_complete soundTask complete]
      simp [sentNak, dispensed]
    · obtain ⟨sentAck, complete⟩ := allSent (.inr ⟨message, rfl⟩) isAck
      obtain ⟨poured, isFinished, atMost⟩ : ∃ poured,
          message = .dispenseFinished poured ∧ poured ≤ millilitre := by
        rw [isAck] at answered
        rcases trace_dispense answered with ⟨⟨⟩⟩ | ⟨poured, whole, bound, _⟩
        exact ⟨poured, (List.cons.inj (List.cons.inj whole).2).1, bound⟩
      subst isFinished
      refine .inr ⟨_, isMember, rfl, .inr ⟨poured, ended, ?_, atMost⟩⟩
      rw [dispensedBy_of_complete soundTask complete]
      simp [sentAck, dispensed]

/-- The volume of a call that has returned one. -/
def returnedVolume (call : ActionCall) : Option Rat :=
  match call.stage with
  | .returned (.ok (.dispenseFinished millilitre)) => some millilitre
  | _ => none

theorem returned_of_volume {call : ActionCall} {millilitre : Rat}
    (isVolume : returnedVolume call = some millilitre) :
    call.stage = .returned (.ok (.dispenseFinished millilitre)) := by
  unfold returnedVolume at isVolume
  split at isVolume
  · next isReturned =>
      cases isVolume
      exact isReturned
  · cases isVolume

theorem dispense_returns_poured_twenty :
    ∃ link : Link, link.call.stage = .returned (.ok (.dispenseFinished 20)) ∧
      ∃ task ∈ link.client.tasks, task.tag = ⟨.dispense 3 20, 5⟩ ∧
        dispensedBy 3 task = milliLitre 20 := by
  have started : ActionCall.start ActionCall.dispenseCall .initial 0 0 =
    some _ := rfl
  let call : ActionCall := ⟨.registerResponse .initial 5 0 0, some 0, .sending⟩
  have ended : (run (Link.step client1 (.dispense 3 20)
      ActionCall.dispenseCall) ⟨{ state := full }, [], call, true⟩
        [.station .sent, .request, .pod (.resume 0), .pod (.timer 0),
          .pod (.resume 0), .pod .take, .deliver, .station (.resume 1 1),
          .pod (.resume 0), .pod (.timer 0), .pod (.resume 0), .pod .take,
          .deliver, .station (.resume 2 2)]).bind
        (fun link => returnedVolume link.call) = some 20 := by
    decide +kernel
  obtain ⟨link, ran, isVolume⟩ := Option.bind_eq_some_iff.mp ended
  have returned := returned_of_volume isVolume
  rcases dispense_returns_poured rfl rfl started (run_nil _)
    (List.forall_mem_nil _) rfl ran returned with
    ⟨⟨⟩⟩ | ⟨task, isMember, isTag, ⟨⟨⟩, _⟩ | ⟨poured, ⟨⟩, isVolume, _⟩⟩
  exact ⟨link, returned, task, isMember, isTag, isVolume⟩

end Outcomes

end SimulatedPod

end CocktailMaker
