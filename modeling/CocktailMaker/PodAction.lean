import CocktailMaker.ActionProgress

/-!
# Long-running actions of a Pod

`send_action_with_response` registers for the acknowledgement, sends its
request, waits, and registers once more for the event that concludes the
action.  Frames are dispatched whenever bytes arrive, while the caller only
goes on when its posted continuation runs.  The call is modelled on top of the
session, next to everything else that happens there, and follows the course of
an action: its outcome is determined by the frames with its own id, and a
second frame that is dispatched before the continuation runs is lost.
-/

namespace CocktailMaker

open LabelledRun

inductive ActionStage
  | sending
  | waiting (phase : ActionPhase)
  | decided (phase : ActionPhase) (signal : Signal)
  | returned (outcome : Except PodError InMessage)

/-- The place in its body that a call has come to. -/
@[simp]
def ActionProgress.stage : ActionProgress → ActionStage
  | .sending _ => .sending
  | .waiting phase => .waiting phase
  | .decided phase signal => .decided phase signal
  | .returned outcome => .returned outcome

/-- The session and a call with its current registration. -/
structure ActionCall where
  session : ResponseDispatch
  object : Option RegistrationId
  stage : ActionStage

namespace ActionCall

/-- The destructor of the registration in `object`. -/
def release (session : ResponseDispatch) (object : Option RegistrationId) :
    ResponseDispatch :=
  match object with
  | none => session
  | some object =>
      match session.registrations.lookup object with
      | none => session
      | some registration => session.destroyRegistration object registration

/-- The message that waits in the channel of a registration. -/
def takeResponse (session : ResponseDispatch)
    (object : Option RegistrationId) : Option (InFrame × ResponseDispatch) := do
  let registration ← session.registrations.lookup (← object)
  let channel ← registration.channel
  let frame ← (session.channels channel).buffered.head?
  let received ← session.receiveFrom channel
  return (frame, received)

/-- A pending wait is satisfied as soon as there is a message in its
channel. -/
def poll (call : ActionCall) : ActionCall :=
  match call.stage with
  | .waiting phase =>
      match takeResponse call.session call.object with
      | some (frame, session) =>
          { call with session, stage := .decided phase (.message frame.message) }
      | none => call
  | _ => call

/-- Start a call with a new id, while no other exchange with it is pending:
`async_receive` registers at once. -/
def start (action : Action) (session : ResponseDispatch)
    (object : RegistrationId) (address : ChannelPtr) : Option ActionCall :=
  if session.dispatchMap.lookup action.transactionId = none ∧
      session.registrations.lookup object = none ∧ session.Unused address then
    some ⟨session.registerResponse action.transactionId object address,
      some object, .sending⟩
  else none

/-- The continuation of a wait runs.  Its registration is destroyed; after the
acknowledgement the call registers again, in free storage. -/
def continueCall (action : Action) (call : ActionCall) (phase : ActionPhase)
    (signal : Signal) (object : RegistrationId) (address : ChannelPtr) :
    Option ActionCall :=
  let session := release call.session call.object
  match phase with
  | .acknowledgement =>
      match sendWithAck action.env signal with
      | .error error => some ⟨session, none, .returned (.error error)⟩
      | .ok _ =>
          if session.registrations.lookup object = none ∧
              session.Unused address then
            some ⟨session.registerResponse action.transactionId object address,
              some object, .waiting .response⟩
          else none
  | .response =>
      some ⟨session, none, .returned
        (sendActionWithResponse action.rxMsg action.env signal)⟩

/-- An operation of somebody else, in a session that keeps running and where
nobody else uses the id of the call. -/
def Foreign (action : Action) (call : ActionCall) :
    ResponseDispatch.Event → Prop
  | .register id _ _ => id ≠ action.transactionId
  | .move source _ => call.object ≠ some source
  | .destroy object => call.object ≠ some object
  | .receive object => call.object ≠ some object
  | .dispatch _ => False
  | .shutdown => False

instance (action : Action) (call : ActionCall) :
    DecidablePred (Foreign action call)
  | .register _ _ _ => inferInstanceAs (Decidable (_ ≠ _))
  | .move _ _ => inferInstanceAs (Decidable (_ ≠ _))
  | .destroy _ => inferInstanceAs (Decidable (_ ≠ _))
  | .receive _ => inferInstanceAs (Decidable (_ ≠ _))
  | .dispatch _ => inferInstanceAs (Decidable False)
  | .shutdown => inferInstanceAs (Decidable False)

def step (action : Action) (call : ActionCall) :
    ActionEvent → Option ActionCall
  | .dispatch frame =>
      some { call with session := call.session.dispatch frame }.poll
  | .sent =>
      match call.stage with
      | .sending => some { call with stage := .waiting .acknowledgement }.poll
      | _ => none
  | .timeout =>
      match call.stage with
      | .waiting phase => some { call with stage := .decided phase .timedOut }
      | _ => none
  | .resume object address =>
      match call.stage with
      | .decided phase signal =>
          call.continueCall action phase signal object address
      | _ => none
  | .other event =>
      if Foreign action call event then
        (ResponseDispatch.step call.session event).map fun session =>
          { call with session }
      else none

/-- The registration of the call has the channel for itself, with `entry` in
the dispatch map and `content` in the channel. -/
structure Linked (session : ResponseDispatch) (id : TransactionId)
    (object : RegistrationId) (channel : ChannelPtr)
    (entry : Option ChannelPtr) (content : ResponseChannel) : Prop where
  holds : session.registrations.lookup object = some ⟨true, id, some channel⟩
  onlyHolder : ∀ other registration, other ≠ object →
    session.registrations.lookup other = some registration →
      registration.channel ≠ some channel
  onlyEntry : ∀ other, other ≠ id →
    session.dispatchMap.lookup other ≠ some channel
  entryOwn : entry = none ∨ entry = some channel
  entryEq : session.dispatchMap.lookup id = entry
  contentEq : session.channels channel = content

section Sessions

variable {session next : ResponseDispatch} {id : TransactionId}
  {object : RegistrationId} {channel address : ChannelPtr}
  {entry : Option ChannelPtr} {content : ResponseChannel}

theorem linked_register (noEntry : session.dispatchMap.lookup id = none)
    (unused : session.Unused address) :
    Linked (session.registerResponse id object address) id object address
      (some address) .empty := by
  simp only [ResponseDispatch.registerResponse, noEntry]
  constructor
  case holds => simp
  case onlyHolder =>
    intro other registration differs alive
    simp only [lookup_insert_ite, if_neg differs] at alive
    exact unused.not_held alive
  case onlyEntry =>
    intro other differs
    simp only [lookup_insert_ite, if_neg differs]
    exact unused.not_mapped other
  case entryOwn => simp
  case entryEq => simp
  case contentEq => simp

/-- A frame of another transaction goes to another channel. -/
theorem Linked.dispatch_other
    (linked : Linked session id object channel entry content)
    {frame : InFrame} (isOther : frame.transactionId ≠ id) :
    Linked (session.dispatch frame) id object channel entry content := by
  unfold ResponseDispatch.dispatch
  split
  · next target isTarget =>
      have differs : channel ≠ target := by
        rintro rfl
        exact linked.onlyEntry _ isOther isTarget
      constructor
      case holds => exact linked.holds
      case onlyHolder => exact linked.onlyHolder
      case onlyEntry =>
        intro other otherId
        rw [lookup_erase_ite]
        split
        · simp
        · exact linked.onlyEntry other otherId
      case entryOwn => exact linked.entryOwn
      case entryEq =>
        rw [lookup_erase_ite, if_neg isOther.symm]
        exact linked.entryEq
      case contentEq =>
        refine Eq.trans ?_ linked.contentEq
        cases (session.channels target).trySend frame with
        | none => rfl
        | some sent => exact Function.update_of_ne differs _ _
  · exact linked

/-- The frame that a registration waits for reaches its channel. -/
theorem Linked.dispatch_own
    (linked : Linked session id object channel (some channel) .empty)
    (message : InMessage) :
    Linked (session.dispatch ⟨id, message⟩) id object channel none
      ⟨[⟨id, message⟩], [], false⟩ := by
  have sends : (session.channels channel).trySend ⟨id, message⟩ =
      some ⟨[⟨id, message⟩], [], false⟩ := by
    rw [linked.contentEq]
    rfl
  simp only [ResponseDispatch.dispatch, linked.entryEq, sends]
  constructor
  case holds => exact linked.holds
  case onlyHolder => exact linked.onlyHolder
  case onlyEntry =>
    intro other otherId
    rw [lookup_erase_ite, if_neg otherId]
    exact linked.onlyEntry other otherId
  case entryOwn => exact .inl rfl
  case entryEq => rw [lookup_erase_ite, if_pos rfl]
  case contentEq => simp

theorem dispatch_discards (noEntry : session.dispatchMap.lookup id = none)
    (message : InMessage) :
    session.dispatch ⟨id, message⟩ = session := by
  simp [ResponseDispatch.dispatch, noEntry]

theorem Linked.register_other
    (linked : Linked session id object channel entry content)
    {otherId : TransactionId} {other : RegistrationId}
    (differs : otherId ≠ id) (free : session.registrations.lookup other = none)
    (unused : session.Unused address) :
    Linked (session.registerResponse otherId other address) id object channel
      entry content := by
  have otherObject : object ≠ other := by
    rintro rfl
    have holds := linked.holds
    rw [free] at holds
    cases holds
  have otherChannel : channel ≠ address := by
    rintro rfl
    exact unused.not_held linked.holds rfl
  unfold ResponseDispatch.registerResponse
  split
  · next shared isShared =>
      constructor
      case holds => rw [lookup_insert_ite, if_neg otherObject, linked.holds]
      case onlyHolder =>
        intro holder registration notOwn alive
        rw [lookup_insert_ite] at alive
        split at alive
        · cases alive
          rw [← isShared]
          exact linked.onlyEntry otherId differs
        · exact linked.onlyHolder holder registration notOwn alive
      case onlyEntry => exact linked.onlyEntry
      case entryOwn => exact linked.entryOwn
      case entryEq => exact linked.entryEq
      case contentEq => exact linked.contentEq
  · constructor
    · rw [lookup_insert_ite, if_neg otherObject, linked.holds]
    · intro holder registration notOwn alive
      rw [lookup_insert_ite] at alive
      split at alive
      · cases alive
        simpa using otherChannel.symm
      · exact linked.onlyHolder holder registration notOwn alive
    · intro someId notOwn
      rw [lookup_insert_ite]
      split
      · simpa using otherChannel.symm
      · exact linked.onlyEntry someId notOwn
    · exact linked.entryOwn
    · rw [lookup_insert_ite, if_neg differs.symm]
      exact linked.entryEq
    · dsimp only
      rw [Function.update_of_ne otherChannel]
      exact linked.contentEq

theorem Linked.move_other
    (linked : Linked session id object channel entry content)
    {source target : RegistrationId} {registration : ResponseRegistration}
    (differs : object ≠ source)
    (alive : session.registrations.lookup source = some registration)
    (free : session.registrations.lookup target = none) :
    Linked (session.moveRegistration source target registration) id object
      channel entry content := by
  have otherTarget : object ≠ target := by
    rintro rfl
    have holds := linked.holds
    rw [free] at holds
    cases holds
  constructor
  case holds =>
    rw [ResponseDispatch.lookup_moveRegistration, if_neg differs,
      if_neg otherTarget, linked.holds]
  case onlyHolder =>
    intro holder held notOwn holderAlive
    rw [ResponseDispatch.lookup_moveRegistration] at holderAlive
    split at holderAlive
    · cases holderAlive
      simp
    · split at holderAlive
      · cases holderAlive
        exact linked.onlyHolder source _ differs.symm alive
      · exact linked.onlyHolder holder held notOwn holderAlive
  case onlyEntry => exact linked.onlyEntry
  case entryOwn => exact linked.entryOwn
  case entryEq => exact linked.entryEq
  case contentEq => exact linked.contentEq

theorem Linked.destroy_other
    (linked : Linked session id object channel entry content)
    {other : RegistrationId} {registration : ResponseRegistration}
    (differs : object ≠ other)
    (alive : session.registrations.lookup other = some registration) :
    Linked (session.destroyRegistration other registration) id object channel
      entry content := by
  constructor
  case holds =>
    rw [ResponseDispatch.lookup_destroyRegistration, if_neg differs,
      linked.holds]
  case onlyHolder =>
    intro holder held notOwn holderAlive
    rw [ResponseDispatch.lookup_destroyRegistration,
      Option.ite_none_left_eq_some] at holderAlive
    exact linked.onlyHolder holder held notOwn holderAlive.2
  case onlyEntry =>
    intro someId notOwn
    rw [ResponseDispatch.dispatchMap_destroyRegistration]
    split
    · simp
    · exact linked.onlyEntry someId notOwn
  case entryOwn => exact linked.entryOwn
  case entryEq =>
    rw [ResponseDispatch.dispatchMap_destroyRegistration, if_neg,
      linked.entryEq]
    rintro ⟨⟨_, holdsChannel, isEntry⟩, rfl⟩
    rw [linked.entryEq] at isEntry
    rcases linked.entryOwn with none | own
    · rw [← isEntry, none] at holdsChannel
      cases holdsChannel
    · rw [own] at isEntry
      exact linked.onlyHolder other registration differs.symm alive
        isEntry.symm
  case contentEq => exact linked.contentEq

theorem Linked.receive_other
    (linked : Linked session id object channel entry content)
    {otherChannel : ChannelPtr} (differs : channel ≠ otherChannel)
    (received : session.receiveFrom otherChannel = some next) :
    Linked next id object channel entry content := by
  simp only [ResponseDispatch.receiveFrom, Option.map_eq_some_iff] at received
  obtain ⟨taken, _, rfl⟩ := received
  refine ⟨linked.holds, linked.onlyHolder, linked.onlyEntry, linked.entryOwn,
    linked.entryEq, ?_⟩
  dsimp only
  rw [Function.update_of_ne differs]
  exact linked.contentEq

/-- The operations of somebody else leave a linked registration alone. -/
theorem Linked.other
    (linked : Linked session id object channel entry content)
    {action : Action} {call : ActionCall} (isId : action.transactionId = id)
    (isObject : call.object = some object) {event : ResponseDispatch.Event}
    (foreign : Foreign action call event)
    (stepped : ResponseDispatch.step session event = some next) :
    Linked next id object channel entry content := by
  subst isId
  cases event with
  | register otherId other address =>
      obtain ⟨free, unused, rfl⟩ := ResponseDispatch.step_register stepped
      exact linked.register_other foreign free unused
  | move source target =>
      obtain ⟨registration, alive, free, rfl⟩ :=
        ResponseDispatch.step_move stepped
      refine linked.move_other ?_ alive free
      rintro rfl
      exact foreign isObject
  | destroy other =>
      obtain ⟨registration, alive, rfl⟩ := ResponseDispatch.step_destroy stepped
      refine linked.destroy_other ?_ alive
      rintro rfl
      exact foreign isObject
  | receive other =>
      obtain ⟨registration, otherChannel, alive, holds, received⟩ :=
        ResponseDispatch.step_receive stepped
      refine linked.receive_other ?_ received
      rintro rfl
      refine linked.onlyHolder other registration ?_ alive holds
      rintro rfl
      exact foreign isObject
  | dispatch frame => exact foreign.elim
  | shutdown => exact foreign.elim

/-- Nor do they make an entry for its id. -/
theorem noEntry_other (noEntry : session.dispatchMap.lookup id = none)
    {action : Action} {call : ActionCall} (isId : action.transactionId = id)
    {event : ResponseDispatch.Event} (foreign : Foreign action call event)
    (stepped : ResponseDispatch.step session event = some next) :
    next.dispatchMap.lookup id = none := by
  subst isId
  cases event with
  | register otherId other address =>
      obtain ⟨_, _, rfl⟩ := ResponseDispatch.step_register stepped
      unfold ResponseDispatch.registerResponse
      split
      · exact noEntry
      · rw [lookup_insert_ite, if_neg (Ne.symm foreign), noEntry]
  | move source target =>
      obtain ⟨_, _, _, rfl⟩ := ResponseDispatch.step_move stepped
      exact noEntry
  | destroy other =>
      obtain ⟨registration, _, rfl⟩ := ResponseDispatch.step_destroy stepped
      exact ResponseDispatch.noEntry_destroy noEntry other registration
  | receive other =>
      obtain ⟨_, _, _, _, received⟩ := ResponseDispatch.step_receive stepped
      simp only [ResponseDispatch.receiveFrom, Option.map_eq_some_iff]
        at received
      obtain ⟨_, _, rfl⟩ := received
      exact noEntry
  | dispatch frame => exact foreign.elim
  | shutdown => exact foreign.elim

theorem noEntry_dispatch (noEntry : session.dispatchMap.lookup id = none)
    (frame : InFrame) :
    (session.dispatch frame).dispatchMap.lookup id = none := by
  unfold ResponseDispatch.dispatch
  split
  · rw [lookup_erase_ite]
    split
    · rfl
    · exact noEntry
  · exact noEntry

theorem noEntry_release (noEntry : session.dispatchMap.lookup id = none)
    (object : Option RegistrationId) :
    (release session object).dispatchMap.lookup id = none := by
  unfold release
  split
  · exact noEntry
  · next object =>
      split
      · exact noEntry
      · next registration _ =>
          exact ResponseDispatch.noEntry_destroy noEntry object registration

end Sessions

/-- The registration of the call is open and nothing has arrived. -/
def Listening (action : Action) (call : ActionCall) : Prop :=
  ∃ object channel, call.object = some object ∧
    Linked call.session action.transactionId object channel (some channel)
      .empty

/-- `message` waits in the channel of the call's registration. -/
def Answered (action : Action) (call : ActionCall) (message : InMessage) :
    Prop :=
  ∃ object channel, call.object = some object ∧
    Linked call.session action.transactionId object channel none
      ⟨[⟨action.transactionId, message⟩], [], false⟩

/-- The session and the call stand where the course of the action says. -/
def Represents (action : Action) (call : ActionCall) : ActionProgress → Prop
  | .sending none => call.stage = .sending ∧ Listening action call
  | .sending (some message) =>
      call.stage = .sending ∧ Answered action call message
  | .waiting phase => call.stage = .waiting phase ∧ Listening action call
  | .decided phase signal =>
      call.stage = .decided phase signal ∧ (signal ≠ .timedOut →
        call.session.dispatchMap.lookup action.transactionId = none)
  | .returned outcome => call.stage = .returned outcome

section Simulation

variable {action : Action} {call next : ActionCall}

theorem Represents.stage_eq {progress : ActionProgress}
    (represents : Represents action call progress) :
    call.stage = progress.stage := by
  cases progress with
  | sending answer =>
      cases answer with
      | none => exact represents.1
      | some message => exact represents.1
  | waiting phase => exact represents.1
  | decided phase signal => exact represents.1
  | returned outcome => exact represents

theorem poll_of_listening (listening : Listening action call) :
    call.poll = call := by
  obtain ⟨object, channel, isObject, linked⟩ := listening
  have nothing : takeResponse call.session call.object = none := by
    simp [takeResponse, isObject, linked.holds, linked.contentEq,
      ResponseChannel.empty]
  unfold poll
  split <;> simp only [nothing]

theorem poll_of_answered {message : InMessage} {phase : ActionPhase}
    (answered : Answered action call message)
    (waits : call.stage = .waiting phase) :
    Represents action call.poll (.decided phase (.message message)) := by
  obtain ⟨object, channel, isObject, linked⟩ := answered
  have taken : takeResponse call.session call.object =
      some (⟨action.transactionId, message⟩, { call.session with
        channels := Function.update call.session.channels channel
          ⟨[], [⟨action.transactionId, message⟩], false⟩ }) := by
    simp [takeResponse, isObject, linked.holds, linked.contentEq,
      ResponseDispatch.receiveFrom, ResponseChannel.receive]
  simp only [poll, waits, taken]
  exact ⟨rfl, fun _ => linked.entryEq⟩

theorem poll_of_not_waiting
    (notWaiting : ∀ phase, call.stage ≠ .waiting phase) : call.poll = call := by
  unfold poll
  split
  · next phase waits => exact absurd waits (notWaiting phase)
  · rfl

theorem Represents.poll_eq {progress : ActionProgress}
    (represents : Represents action call progress) : call.poll = call := by
  cases progress with
  | waiting phase => exact poll_of_listening represents.2
  | sending answer =>
      exact poll_of_not_waiting (by simp [represents.stage_eq])
  | decided phase signal =>
      exact poll_of_not_waiting (by simp [represents.stage_eq])
  | returned outcome =>
      exact poll_of_not_waiting (by simp [represents.stage_eq])

/-- The session may change in any way that keeps the call's own registration,
and its id free once it has been dispatched. -/
theorem Represents.with_session {progress : ActionProgress}
    (represents : Represents action call progress)
    {session : ResponseDispatch}
    (keepsLinked : ∀ object channel entry content, call.object = some object →
      Linked call.session action.transactionId object channel entry content →
        Linked session action.transactionId object channel entry content)
    (keepsNoEntry :
      call.session.dispatchMap.lookup action.transactionId = none →
        session.dispatchMap.lookup action.transactionId = none) :
    Represents action { call with session } progress := by
  have keepsListening : Listening action call →
      Listening action { call with session } := by
    rintro ⟨object, channel, isObject, linked⟩
    exact ⟨object, channel, isObject, keepsLinked _ _ _ _ isObject linked⟩
  cases progress with
  | sending answer =>
      cases answer with
      | none => exact ⟨represents.1, keepsListening represents.2⟩
      | some message =>
          obtain ⟨stage, object, channel, isObject, linked⟩ := represents
          exact ⟨stage, object, channel, isObject,
            keepsLinked _ _ _ _ isObject linked⟩
  | waiting phase => exact ⟨represents.1, keepsListening represents.2⟩
  | decided phase signal =>
      exact ⟨represents.1, fun isMessage =>
        keepsNoEntry (represents.2 isMessage)⟩
  | returned outcome => exact represents

theorem represents_dispatch_other {progress : ActionProgress}
    (represents : Represents action call progress) {frame : InFrame}
    (isOther : frame.transactionId ≠ action.transactionId) :
    Represents action { call with session := call.session.dispatch frame }
      progress :=
  represents.with_session
    (fun _ _ _ _ _ linked => linked.dispatch_other isOther)
    (fun noEntry => noEntry_dispatch noEntry frame)

theorem represents_dispatch_own {progress : ActionProgress}
    (represents : Represents action call progress) (message : InMessage) :
    Represents action
      { call with session :=
          call.session.dispatch ⟨action.transactionId, message⟩ }.poll
      (progress.receive message) := by
  cases progress with
  | sending answer =>
      rw [poll_of_not_waiting (by simp [represents.stage_eq])]
      cases answer with
      | none =>
          obtain ⟨stage, object, channel, isObject, linked⟩ := represents
          exact ⟨stage, object, channel, isObject, linked.dispatch_own message⟩
      | some first =>
          obtain ⟨stage, object, channel, isObject, linked⟩ := represents
          rw [dispatch_discards linked.entryEq]
          exact ⟨stage, object, channel, isObject, linked⟩
  | waiting phase =>
      obtain ⟨stage, object, channel, isObject, linked⟩ := represents
      exact poll_of_answered
        ⟨object, channel, isObject, linked.dispatch_own message⟩ stage
  | decided phase signal =>
      rw [poll_of_not_waiting (by simp [represents.stage_eq])]
      exact ⟨represents.1, fun isMessage =>
        noEntry_dispatch (represents.2 isMessage) _⟩
  | returned outcome =>
      rw [poll_of_not_waiting (by simp [represents.stage_eq])]
      exact represents

theorem represents_dispatch {progress : ActionProgress}
    (represents : Represents action call progress) (frame : InFrame) :
    ∃ advanced, progress.advance action (.dispatch frame) = some advanced ∧
      Represents action
        { call with session := call.session.dispatch frame }.poll advanced := by
  by_cases isOwn : frame.transactionId = action.transactionId
  · obtain ⟨frameId, message⟩ := frame
    simp only at isOwn
    subst isOwn
    exact ⟨progress.receive message, by simp [ActionProgress.advance],
      represents_dispatch_own represents message⟩
  · have kept := represents_dispatch_other represents isOwn
    refine ⟨progress, by simp [ActionProgress.advance, isOwn], ?_⟩
    rw [kept.poll_eq]
    exact kept

/-- The continuation of a wait that is over runs. -/
theorem represents_continueCall {phase : ActionPhase} {signal : Signal}
    {object : RegistrationId} {address : ChannelPtr}
    (noEntry : signal ≠ .timedOut →
      call.session.dispatchMap.lookup action.transactionId = none)
    (continued : call.continueCall action phase signal object address =
      some next) :
    Represents action next (ActionProgress.resumed action phase signal) := by
  unfold continueCall at continued
  unfold ActionProgress.resumed
  cases phase with
  | response =>
      cases continued
      rfl
  | acknowledgement =>
      cases acknowledged : sendWithAck action.env signal with
      | error error =>
          simp only [acknowledged] at continued ⊢
          cases continued
          rfl
      | ok value =>
          simp only [acknowledged, Option.ite_none_right_eq_some]
            at continued ⊢
          obtain ⟨⟨_, unused⟩, registered⟩ := continued
          cases registered
          have isMessage : signal ≠ .timedOut := by
            rw [(receiveOrNak_eq_ok acknowledged).1]
            simp
          exact ⟨rfl, object, address, rfl,
            linked_register (noEntry_release (noEntry isMessage) _) unused⟩

/-- Every step of the model is a step in the course of the action. -/
theorem represents_step {progress : ActionProgress} {event : ActionEvent}
    (represents : Represents action call progress)
    (stepped : step action call event = some next) :
    ∃ advanced, progress.advance action event = some advanced ∧
      Represents action next advanced := by
  cases event with
  | dispatch frame =>
      cases stepped
      exact represents_dispatch represents frame
  | sent =>
      have stage := represents.stage_eq
      cases progress with
      | sending answer =>
          simp only [step, stage, ActionProgress.stage, Option.some.injEq]
            at stepped
          subst stepped
          cases answer with
          | none =>
              have listens : Listening action
                  { call with stage := .waiting .acknowledgement } :=
                represents.2
              rw [poll_of_listening listens]
              exact ⟨_, rfl, rfl, listens⟩
          | some message =>
              have answered : Answered action
                  { call with stage := .waiting .acknowledgement } message :=
                represents.2
              exact ⟨_, rfl, poll_of_answered answered rfl⟩
      | waiting phase => simp [step, stage] at stepped
      | decided phase signal => simp [step, stage] at stepped
      | returned outcome => simp [step, stage] at stepped
  | timeout =>
      have stage := represents.stage_eq
      cases progress with
      | sending answer => simp [step, stage] at stepped
      | waiting phase =>
          simp only [step, stage, ActionProgress.stage, Option.some.injEq]
            at stepped
          subst stepped
          exact ⟨_, rfl, rfl, fun notTimedOut => absurd rfl notTimedOut⟩
      | decided phase signal => simp [step, stage] at stepped
      | returned outcome => simp [step, stage] at stepped
  | resume object address =>
      have stage := represents.stage_eq
      cases progress with
      | sending answer => simp [step, stage] at stepped
      | waiting phase => simp [step, stage] at stepped
      | decided phase signal =>
          simp only [step, stage, ActionProgress.stage] at stepped
          exact ⟨_, rfl, represents_continueCall represents.2 stepped⟩
      | returned outcome => simp [step, stage] at stepped
  | other operation =>
      simp only [step, Option.ite_none_right_eq_some, Option.map_eq_some_iff]
        at stepped
      obtain ⟨foreign, session, steppedOther, rfl⟩ := stepped
      exact ⟨progress, rfl, represents.with_session
        (fun _ _ _ _ isObject linked =>
          linked.other rfl isObject foreign steppedOther)
        (fun noEntry => noEntry_other noEntry rfl foreign steppedOther)⟩

theorem represents_start {session : ResponseDispatch}
    {object : RegistrationId} {address : ChannelPtr}
    (started : start action session object address = some call) :
    Represents action call (.sending none) := by
  simp only [start, Option.ite_none_right_eq_some] at started
  obtain ⟨⟨noEntry, _, unused⟩, isCall⟩ := started
  cases isCall
  exact ⟨rfl, object, address, rfl, linked_register noEntry unused⟩

theorem represents_of_run {session : ResponseDispatch}
    {object : RegistrationId} {address : ChannelPtr} {initial last : ActionCall}
    {events : List ActionEvent}
    (started : start action session object address = some initial)
    (ran : run (step action) initial events = some last) :
    ∃ progress,
      run (ActionProgress.advance action) (.sending none) events =
        some progress ∧
      Represents action last progress :=
  simulation_of_run (fun _ _ _ _ => represents_step) (represents_start started)
    ran

end Simulation

section Outcomes

variable {action : Action} {session : ResponseDispatch}
  {object : RegistrationId} {address : ChannelPtr} {initial last : ActionCall}
  {events : List ActionEvent}

theorem progress_of_returned {progress : ActionProgress}
    {outcome : Except PodError InMessage}
    (represents : Represents action last progress)
    (completed : last.stage = .returned outcome) :
    progress = .returned outcome := by
  have stage := represents.stage_eq
  rw [completed] at stage
  cases progress with
  | sending answer => cases stage
  | waiting phase => cases stage
  | decided phase signal => cases stage
  | returned other =>
      rw [ActionProgress.stage, ActionStage.returned.injEq] at stage
      rw [stage]

/-- A pending wait ends with whatever comes first for its id. -/
theorem exists_signal {progress : ActionProgress} {phase : ActionPhase}
    (represents : Represents action last progress)
    (isWaiting : last.stage = .waiting phase) (signal : Signal) :
    ∃ next, step action last (signal.event action.transactionId) = some next ∧
      next.stage = .decided phase signal := by
  have stage := represents.stage_eq
  rw [isWaiting] at stage
  cases progress with
  | sending answer => cases stage
  | waiting _ =>
      cases stage
      cases signal with
      | timedOut =>
          simp only [Signal.event, step, isWaiting]
          exact ⟨_, rfl, rfl⟩
      | message message =>
          obtain ⟨advanced, isAdvanced, representsNext⟩ :=
            represents_dispatch represents ⟨action.transactionId, message⟩
          simp only [ActionProgress.advance, if_pos, Option.some.injEq]
            at isAdvanced
          subst isAdvanced
          exact ⟨_, rfl, representsNext.stage_eq⟩
  | decided _ signal => cases stage
  | returned outcome => cases stage

/-- A posted continuation can always run: the call completes, or it registers
again wherever there is free storage. -/
theorem exists_resume {phase : ActionPhase} {signal : Signal}
    (isDecided : last.stage = .decided phase signal)
    {newObject : RegistrationId} {newAddress : ChannelPtr}
    (free : (release last.session last.object).registrations.lookup newObject =
      none)
    (unused : (release last.session last.object).Unused newAddress) :
    ∃ next, step action last (.resume newObject newAddress) = some next ∧
      (next.stage = .waiting .response ∨
        ∃ outcome, next.stage = .returned outcome) := by
  simp only [step, isDecided, continueCall]
  cases phase with
  | response => exact ⟨_, rfl, .inr ⟨_, rfl⟩⟩
  | acknowledgement =>
      cases sendWithAck action.env signal with
      | error error => exact ⟨_, rfl, .inr ⟨_, rfl⟩⟩
      | ok value => exact ⟨_, if_pos ⟨free, unused⟩, .inl rfl⟩

/-- A long-running action reports only its own exchange.  The first signal for
its id decides the first wait; unless it is an acknowledgement, it ends the
call.  The first signal behind the continuation ends the second wait, with a
value only if it is the expected message.  Runs with the same exchange have
the same outcome, whatever else happens in the session.  No wait misses its
signal, and its continuation can always run. -/
theorem action_reports_own_exchange
    (started : start action session object address = some initial)
    (ran : run (step action) initial events = some last) :
    (∀ outcome, last.stage = .returned outcome →
      ∃ first rest continuation,
        FirstSignal action.transactionId events first rest ∧
        Resumes rest continuation ∧
        ((∃ error, outcome = .error error ∧
            Ends .ack action.env first (.error error)) ∨
          first = .message .ack ∧ ∃ second behind,
            FirstSignal action.transactionId continuation second behind ∧
            Ends action.rxMsg action.env second outcome)) ∧
    (∀ outcome, last.stage = .returned outcome →
      ∀ otherSession otherObject otherAddress otherInitial otherEvents
          otherLast otherOutcome,
        start action otherSession otherObject otherAddress =
          some otherInitial →
        run (step action) otherInitial otherEvents = some otherLast →
        exchange action.transactionId otherEvents =
          exchange action.transactionId events →
        otherLast.stage = .returned otherOutcome →
          otherOutcome = outcome) ∧
    (∀ phase, last.stage = .waiting phase → ∀ signal,
      ∃ next,
        step action last (Signal.event action.transactionId signal) =
          some next ∧
        next.stage = .decided phase signal) ∧
    ∀ phase signal newObject newAddress,
      last.stage = .decided phase signal →
      (release last.session last.object).registrations.lookup newObject =
        none →
      (release last.session last.object).Unused newAddress →
        ∃ next, step action last (.resume newObject newAddress) = some next ∧
          (next.stage = .waiting .response ∨
            ∃ outcome, next.stage = .returned outcome) := by
  obtain ⟨progress, advanced, represents⟩ := represents_of_run started ran
  refine ⟨?_, ?_, ?_, ?_⟩
  · intro outcome completed
    have isReturned := progress_of_returned represents completed
    subst isReturned
    obtain ⟨first, rest, continuation, isFirst, resumes, ends⟩ :=
      ActionProgress.outcome_of_run advanced
    refine ⟨first, rest, continuation, isFirst, resumes, ?_⟩
    rcases ends with ⟨error, acknowledged, rfl⟩ | ⟨isAck, second, behind,
      isSecond, rfl⟩
    · refine .inl ⟨error, rfl, ?_⟩
      rw [← acknowledged]
      exact ends_receiveOrNak .ack action.env first
    · exact .inr ⟨isAck, second, behind, isSecond,
        ends_receiveOrNak action.rxMsg action.env second⟩
  · intro outcome completed otherSession otherObject otherAddress otherInitial
      otherEvents otherLast otherOutcome otherStarted otherRan sameExchange
      otherCompleted
    obtain ⟨otherProgress, otherAdvanced, otherRepresents⟩ :=
      represents_of_run otherStarted otherRan
    rw [← ActionProgress.run_exchange, sameExchange,
      ActionProgress.run_exchange, advanced, Option.some.injEq]
      at otherAdvanced
    have isReturned := progress_of_returned represents completed
    have otherReturned := progress_of_returned otherRepresents otherCompleted
    rw [← otherAdvanced, isReturned] at otherReturned
    exact (ActionProgress.returned.inj otherReturned).symm
  · intro phase isWaiting signal
    exact exists_signal represents isWaiting signal
  · intro phase signal newObject newAddress isDecided free unused
    exact exists_resume isDecided free unused

end Outcomes

/-- The call that the examples are about: a Pod dispenses. -/
def dispenseCall : Action := ⟨5, .dispenseFinished, ⟨"pod", 0⟩⟩

/-- A dispense with a frame of another transaction in between. -/
theorem dispense_reports_volume :
    ∃ first rest continuation,
      FirstSignal 5 [.sent, .dispatch ⟨5, .ack⟩, .resume 1 1,
        .dispatch ⟨6, .pong⟩, .dispatch ⟨5, .dispenseFinished 20⟩,
        .resume 2 2] first rest ∧
      Resumes rest continuation ∧
      ((∃ error, (.ok (.dispenseFinished 20) : Except PodError InMessage) =
          .error error ∧ Ends .ack ⟨"pod", 0⟩ first (.error error)) ∨
        first = .message .ack ∧ ∃ second behind,
          FirstSignal 5 continuation second behind ∧
          Ends .dispenseFinished ⟨"pod", 0⟩ second
            (.ok (.dispenseFinished 20))) := by
  have started : start dispenseCall .initial 0 0 = some _ := rfl
  have ran : run (step dispenseCall)
      ⟨ResponseDispatch.registerResponse .initial 5 0 0, some 0, .sending⟩
      [.sent, .dispatch ⟨5, .ack⟩, .resume 1 1, .dispatch ⟨6, .pong⟩,
        .dispatch ⟨5, .dispenseFinished 20⟩, .resume 2 2] = some _ := rfl
  exact (action_reports_own_exchange started ran).1 _ rfl

/-- What the executor runs without interruption: a read with every frame that
is parsed from it, or another handler. -/
inductive Turn
  | read (frames : List InFrame)
  | handler (event : ActionEvent)

def Turn.events : Turn → List ActionEvent
  | .read frames => frames.map .dispatch
  | .handler event => [event]

/-- The second frame, dispatched after `before`, reaches the call, and the
call completes with it: at once when its continuation runs, and in any case
with the outcome that this frame asks for. -/
def Delivered (action : Action) (initial last : ActionCall)
    (before : List ActionEvent) (second : InMessage) : Prop :=
  ∃ call, run (step action) initial
      (before ++ [.dispatch ⟨action.transactionId, second⟩]) = some call ∧
    call.stage = .decided .response (.message second) ∧
    (∀ object address, ∃ next,
      step action call (.resume object address) = some next ∧
      next.stage = .returned
        (sendActionWithResponse action.rxMsg action.env (.message second))) ∧
    ∀ outcome, last.stage = .returned outcome →
      outcome =
        sendActionWithResponse action.rxMsg action.env (.message second)

section Delivery

variable {action : Action} {session : ResponseDispatch}
  {object : RegistrationId} {address : ChannelPtr} {initial last : ActionCall}

/-- The run around the dispatch of a frame of the call, next to the course of
the action. -/
theorem exists_dispatch {before after : List ActionEvent} {message : InMessage}
    (started : start action session object address = some initial)
    (ran : run (step action) initial
      (before ++ .dispatch ⟨action.transactionId, message⟩ :: after) =
        some last) :
    ∃ found call lastProgress,
      run (ActionProgress.advance action) (.sending none) before =
        some found ∧
      run (step action) initial
        (before ++ [.dispatch ⟨action.transactionId, message⟩]) = some call ∧
      Represents action call (found.receive message) ∧
      run (ActionProgress.advance action) (found.receive message) after =
        some lastProgress ∧
      Represents action last lastProgress := by
  rw [← List.singleton_append, ← List.append_assoc] at ran
  obtain ⟨call, ranCall, _⟩ := run_append_eq_some.mp ran
  obtain ⟨lastProgress, advancedAll, representsLast⟩ :=
    represents_of_run started ran
  obtain ⟨progress, advanced, advancedAfter⟩ :=
    run_append_eq_some.mp advancedAll
  obtain ⟨calledProgress, advancedCall, represents⟩ :=
    represents_of_run started ranCall
  rw [advanced, Option.some.injEq] at advancedCall
  subst advancedCall
  obtain ⟨found, advancedBefore, isDispatched⟩ :=
    run_concat_eq_some.mp advanced
  simp only [ActionProgress.advance, if_pos, Option.some.injEq]
    at isDispatched
  subst isDispatched
  exact ⟨found, call, lastProgress, advancedBefore, ranCall, represents,
    advancedAfter, representsLast⟩

/-- For every sequence of frames and every grouping of them into reads: when
the acknowledgement is the first signal and the second frame the next one,
the second frame is delivered exactly when the continuation has run between
them. -/
theorem second_frame_delivered_iff {turns : List Turn}
    {before between after : List ActionEvent} {second : InMessage}
    (started : start action session object address = some initial)
    (ran : run (step action) initial (turns.flatMap Turn.events) = some last)
    (split : turns.flatMap Turn.events =
      before ++ .dispatch ⟨action.transactionId, .ack⟩ :: between ++
        .dispatch ⟨action.transactionId, second⟩ :: after)
    (ackIsFirst : ∀ event ∈ before, ¬ IsSignal action.transactionId event)
    (secondIsNext : ∀ event ∈ between,
      ¬ IsSignal action.transactionId event) :
    Delivered action initial last
        (before ++ .dispatch ⟨action.transactionId, .ack⟩ :: between) second ↔
      ∃ event ∈ between, event.isResume = true := by
  rw [split] at ran
  obtain ⟨found, call, lastProgress, advancedBetween, ranSecond, represents,
      advancedAfter, representsLast⟩ := exists_dispatch started ran
  rcases ActionProgress.before_second_frame ackIsFirst secondIsNext
    advancedBetween with ⟨notResumed, acknowledged⟩ | ⟨isResumed, rfl⟩
  · -- The registration was consumed by the acknowledgement.
    rw [acknowledged.receive] at represents
    constructor
    · rintro ⟨delivered, ranDelivered, stage, _⟩
      rw [ranSecond, Option.some.injEq] at ranDelivered
      subst ranDelivered
      rw [represents.stage_eq] at stage
      rcases acknowledged with rfl | rfl
      · cases stage
      · cases stage
    · rintro ⟨event, member, isResume⟩
      rw [notResumed event member] at isResume
      cases isResume
  · -- The call had registered again and waited.
    refine ⟨fun _ => isResumed, fun _ => ?_⟩
    have stage : call.stage = .decided .response (.message second) :=
      represents.stage_eq
    refine ⟨call, ranSecond, stage, ?_, ?_⟩
    · intro newObject newAddress
      simp only [step, stage, continueCall]
      exact ⟨_, rfl, rfl⟩
    · intro outcome completed
      have isReturned := progress_of_returned representsLast completed
      subst isReturned
      exact ActionProgress.outcome_of_decided_response advancedAfter

/-- The two frames arrive in separate reads and the continuation runs in
between. -/
theorem second_frame_delivered_in_second_read :
    ∃ initial last, Delivered dispenseCall initial last
      [.sent, .dispatch ⟨5, .ack⟩, .resume 1 1] (.dispenseFinished 20) := by
  have started : start dispenseCall .initial 0 0 = some _ := rfl
  have ran : run (step dispenseCall)
      ⟨ResponseDispatch.registerResponse .initial 5 0 0, some 0, .sending⟩
      ([.handler .sent, .read [⟨5, .ack⟩], .handler (.resume 1 1),
        .read [⟨5, .dispenseFinished 20⟩]].flatMap Turn.events) = some _ := rfl
  have split : ([.handler .sent, .read [⟨5, .ack⟩], .handler (.resume 1 1),
      .read [⟨5, .dispenseFinished 20⟩]] : List Turn).flatMap Turn.events =
        [.sent] ++ .dispatch ⟨5, .ack⟩ :: [.resume 1 1] ++
          .dispatch ⟨5, .dispenseFinished 20⟩ :: [] := rfl
  refine ⟨_, _, (second_frame_delivered_iff started ran split ?_ ?_).mpr ?_⟩
  · simp [not_isSignal_sent]
  · simp [not_isSignal_resume]
  · simp [ActionEvent.isResume]

/-- Both frames arrive in one read: the second one is discarded, and the call
runs into its timeout. -/
theorem second_frame_lost_in_one_read :
    ¬ ∀ action session object address initial last turns before between after
        second,
      start action session object address = some initial →
      run (step action) initial (List.flatMap Turn.events turns) = some last →
      turns.flatMap Turn.events =
        before ++ .dispatch ⟨action.transactionId, .ack⟩ :: between ++
          .dispatch ⟨action.transactionId, second⟩ :: after →
      (∀ event ∈ before, ¬ IsSignal action.transactionId event) →
      (∀ event ∈ between, ¬ IsSignal action.transactionId event) →
      second.getId = action.rxMsg ∨ second.getId = .nak →
        Delivered action initial last
          (before ++ .dispatch ⟨action.transactionId, .ack⟩ :: between)
          second := by
  intro delivered
  have started : start dispenseCall .initial 0 0 = some _ := rfl
  have ran : run (step dispenseCall)
      ⟨ResponseDispatch.registerResponse .initial 5 0 0, some 0, .sending⟩
      ([.handler .sent, .read [⟨5, .ack⟩, ⟨5, .dispenseFinished 20⟩],
        .handler (.resume 1 1), .handler .timeout,
        .handler (.resume 2 2)].flatMap Turn.events) = some _ := rfl
  obtain ⟨_, _, _, _, completes⟩ := delivered dispenseCall .initial 0 0 _ _ _
    [.sent] [] [.resume 1 1, .timeout, .resume 2 2] (.dispenseFinished 20)
    started ran rfl (by simp [not_isSignal_sent]) (by simp) (.inl rfl)
  have timedOut := completes (.error (.podTimeout "pod")) rfl
  cases timedOut

end Delivery

end ActionCall

end CocktailMaker
