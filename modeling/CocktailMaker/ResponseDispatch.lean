import CocktailMaker.LabelledRun
import CocktailMaker.PodMessage
import CocktailMaker.FiniteMap
import Mathlib.Logic.Function.Basic

/-!
# The dispatch map of a Pod session

A caller that waits for a response owns a `ResponseRegistration`.  The session
maps the transaction id to a channel that the registration shares; dispatching
a frame removes the entry and sends the frame into the channel, and so does the
destructor, but only for the registration's own channel.  This file models the
operations on the map, on the registration objects and on the channels they
point to, and the invariant that every sequence of them keeps.
-/

namespace CocktailMaker

open LabelledRun

/-- The address of a `ResponseChannel`. -/
abbrev ChannelPtr := Nat

/-- The storage of a `ResponseRegistration`. -/
abbrev RegistrationId := Nat

/-- `kResponseChannelCapacity`. -/
def kResponseChannelCapacity : Nat := 1

/-- A buffered channel, with the messages its reader has already taken out. -/
structure ResponseChannel where
  buffered : List InFrame
  received : List InFrame
  closed : Bool
  deriving DecidableEq

namespace ResponseChannel

/-- A new channel. -/
def empty : ResponseChannel := ⟨[], [], false⟩

/-- Everything that was ever sent into the channel. -/
def messages (channel : ResponseChannel) : List InFrame :=
  channel.received ++ channel.buffered

/-- Neither answered nor closed. -/
def IsOpen (channel : ResponseChannel) : Prop :=
  channel.messages = [] ∧ channel.closed = false

instance (channel : ResponseChannel) : Decidable channel.IsOpen :=
  inferInstanceAs (Decidable (_ ∧ _))

/-- `chan->try_send`: fails on a closed channel and on a full buffer. -/
def trySend (channel : ResponseChannel) (frame : InFrame) :
    Option ResponseChannel :=
  if channel.closed = true ∨
      kResponseChannelCapacity ≤ channel.buffered.length then none
  else some { channel with buffered := channel.buffered ++ [frame] }

/-- The reader takes the oldest buffered message. -/
def receive (channel : ResponseChannel) : Option ResponseChannel :=
  match channel.buffered with
  | [] => none
  | frame :: rest =>
      some { channel with
        buffered := rest, received := channel.received ++ [frame] }

def close (channel : ResponseChannel) : ResponseChannel :=
  { channel with closed := true }

theorem isOpen_empty : empty.IsOpen :=
  ⟨rfl, rfl⟩

@[simp]
theorem messages_empty : empty.messages = [] :=
  rfl

@[simp]
theorem messages_close (channel : ResponseChannel) :
    channel.close.messages = channel.messages :=
  rfl

theorem not_isOpen_close (channel : ResponseChannel) :
    ¬ channel.close.IsOpen := by
  rintro ⟨_, closed⟩
  cases closed

theorem IsOpen.trySend {channel : ResponseChannel} (isOpen : channel.IsOpen)
    (frame : InFrame) :
    ∃ sent, channel.trySend frame = some sent ∧ sent.messages = [frame] := by
  obtain ⟨unanswered, notClosed⟩ := isOpen
  obtain ⟨receivedNil, bufferedNil⟩ := List.append_eq_nil_iff.mp unanswered
  refine ⟨{ channel with buffered := [frame] }, ?_, ?_⟩
  · simp [ResponseChannel.trySend, notClosed, bufferedNil,
      kResponseChannelCapacity]
  · simp [messages, receivedNil]

theorem receive_spec {channel taken : ResponseChannel}
    (receives : channel.receive = some taken) :
    taken.messages = channel.messages ∧ taken.closed = channel.closed := by
  unfold receive at receives
  split at receives
  · cases receives
  · next frame rest bufferedEq =>
      cases receives
      simp [messages, bufferedEq]

end ResponseChannel

/-- A registration object.  Moving from it clears its session and its
channel. -/
structure ResponseRegistration where
  hasSession : Bool
  transactionId : TransactionId
  channel : Option ChannelPtr
  deriving DecidableEq

/-- The response side of a session: `dispatch_map_`, the channels behind its
pointers and the registrations that are alive. -/
structure ResponseDispatch where
  dispatchMap : FiniteMap TransactionId ChannelPtr
  channels : ChannelPtr → ResponseChannel
  registrations : FiniteMap RegistrationId ResponseRegistration

namespace ResponseDispatch

/-- A session without registrations. -/
def initial : ResponseDispatch where
  dispatchMap := ∅
  channels _ := .empty
  registrations := ∅

/-- No live object holds a pointer to `address`. -/
def Unused (session : ResponseDispatch) (address : ChannelPtr) : Prop :=
  (∀ entry ∈ session.dispatchMap.entries, entry.2 ≠ address) ∧
    ∀ entry ∈ session.registrations.entries, entry.2.channel ≠ some address

instance (session : ResponseDispatch) (address : ChannelPtr) :
    Decidable (session.Unused address) :=
  inferInstanceAs (Decidable (_ ∧ _))

/-- `register_response`: share the channel of an existing entry, or create one
at `address`. -/
def registerResponse (session : ResponseDispatch) (id : TransactionId)
    (object : RegistrationId) (address : ChannelPtr) : ResponseDispatch :=
  match session.dispatchMap.lookup id with
  | some channel =>
      { session with
        registrations :=
          session.registrations.insert object ⟨true, id, some channel⟩ }
  | none =>
      { dispatchMap := session.dispatchMap.insert id address
        channels := Function.update session.channels address .empty
        registrations :=
          session.registrations.insert object ⟨true, id, some address⟩ }

/-- The dispatch step of `read_loop`. -/
def dispatch (session : ResponseDispatch) (frame : InFrame) :
    ResponseDispatch :=
  match session.dispatchMap.lookup frame.transactionId with
  | some channel =>
      { session with
        dispatchMap := session.dispatchMap.erase frame.transactionId
        channels :=
          match (session.channels channel).trySend frame with
          | some sent => Function.update session.channels channel sent
          | none => session.channels }
  | none => session

/-- The move constructor: `target` takes over, `source` keeps its id only. -/
def moveRegistration (session : ResponseDispatch)
    (source target : RegistrationId) (registration : ResponseRegistration) :
    ResponseDispatch :=
  { session with
    registrations :=
      (session.registrations.insert target registration).insert source
        ⟨false, registration.transactionId, none⟩ }

/-- The entry of `registration` in the dispatch map is its own. -/
def OwnsEntry (session : ResponseDispatch)
    (registration : ResponseRegistration) : Prop :=
  registration.hasSession = true ∧ registration.channel.isSome = true ∧
    session.dispatchMap.lookup registration.transactionId =
      registration.channel

instance (session : ResponseDispatch) (registration : ResponseRegistration) :
    Decidable (session.OwnsEntry registration) :=
  inferInstanceAs (Decidable (_ ∧ _ ∧ _))

/-- The destructor: the entry is removed only when it is the registration's
own. -/
def destroyRegistration (session : ResponseDispatch) (object : RegistrationId)
    (registration : ResponseRegistration) : ResponseDispatch :=
  { session with
    dispatchMap :=
      if session.OwnsEntry registration then
        session.dispatchMap.erase registration.transactionId
      else session.dispatchMap
    registrations := session.registrations.erase object }

/-- The reader of `channel` takes a message out of it. -/
def receiveFrom (session : ResponseDispatch) (channel : ChannelPtr) :
    Option ResponseDispatch :=
  (session.channels channel).receive.map fun taken =>
    { session with channels := Function.update session.channels channel taken }

/-- `shutdown_channels`: close every channel in the map and clear it. -/
def shutdownChannels (session : ResponseDispatch) : ResponseDispatch :=
  { session with
    dispatchMap := ∅
    channels := fun channel =>
      if ∃ entry ∈ session.dispatchMap.entries, entry.2 = channel then
        (session.channels channel).close
      else session.channels channel }

/-- The operations on a session's registrations, in any order.  `address` is
where a new channel would be allocated. -/
inductive Event
  | register (id : TransactionId) (object : RegistrationId)
      (address : ChannelPtr)
  | dispatch (frame : InFrame)
  | move (source target : RegistrationId)
  | destroy (object : RegistrationId)
  | receive (object : RegistrationId)
  | shutdown
  deriving DecidableEq

/-- Perform one operation.  Objects are created in free storage, and a channel
is allocated at an address that nobody holds any more. -/
def step (session : ResponseDispatch) : Event → Option ResponseDispatch
  | .register id object address =>
      if session.registrations.lookup object = none ∧
          session.Unused address then
        some (session.registerResponse id object address)
      else none
  | .dispatch frame => some (session.dispatch frame)
  | .move source target =>
      match session.registrations.lookup source,
          session.registrations.lookup target with
      | some registration, none =>
          some (session.moveRegistration source target registration)
      | _, _ => none
  | .destroy object =>
      (session.registrations.lookup object).map
        (session.destroyRegistration object)
  | .receive object =>
      (session.registrations.lookup object).bind fun registration =>
        registration.channel.bind session.receiveFrom
  | .shutdown => some session.shutdownChannels

section Steps

variable {session next : ResponseDispatch} {object target : RegistrationId}
  {id : TransactionId} {address : ChannelPtr}

theorem step_register
    (stepped : step session (.register id object address) = some next) :
    session.registrations.lookup object = none ∧ session.Unused address ∧
      next = session.registerResponse id object address := by
  simp only [step, Option.ite_none_right_eq_some] at stepped
  exact ⟨stepped.1.1, stepped.1.2, (Option.some.inj stepped.2).symm⟩

theorem step_move (stepped : step session (.move object target) = some next) :
    ∃ registration, session.registrations.lookup object = some registration ∧
      session.registrations.lookup target = none ∧
      next = session.moveRegistration object target registration := by
  simp only [step] at stepped
  split at stepped
  · next registration alive free =>
      exact ⟨registration, alive, free, (Option.some.inj stepped).symm⟩
  · cases stepped

theorem step_destroy (stepped : step session (.destroy object) = some next) :
    ∃ registration, session.registrations.lookup object = some registration ∧
      next = session.destroyRegistration object registration := by
  simp only [step, Option.map_eq_some_iff] at stepped
  obtain ⟨registration, alive, destroyed⟩ := stepped
  exact ⟨registration, alive, destroyed.symm⟩

theorem step_receive (stepped : step session (.receive object) = some next) :
    ∃ registration channel,
      session.registrations.lookup object = some registration ∧
      registration.channel = some channel ∧
      session.receiveFrom channel = some next := by
  simp only [step, Option.bind_eq_some_iff] at stepped
  obtain ⟨registration, alive, channel, holds, received⟩ := stepped
  exact ⟨registration, channel, alive, holds, received⟩

end Steps

/-- `object` is alive and its registration waits for `id` on `channel`: it has
been neither answered nor closed. -/
def OpenFor (session : ResponseDispatch) (object : RegistrationId)
    (id : TransactionId) (channel : ChannelPtr) : Prop :=
  session.registrations.lookup object = some ⟨true, id, some channel⟩ ∧
    (session.channels channel).IsOpen

/-- At most one open registration per transaction id is alive. -/
def AtMostOneOpen (session : ResponseDispatch) : Prop :=
  ∀ first second id firstChannel secondChannel,
    session.OpenFor first id firstChannel →
      session.OpenFor second id secondChannel → first = second

/-- `registration` waits for a response. -/
def Waits (session : ResponseDispatch) (registration : ResponseRegistration) :
    Prop :=
  registration.hasSession = true ∧
    ∃ channel ∈ registration.channel, (session.channels channel).IsOpen

instance (session : ResponseDispatch) : DecidablePred session.Waits :=
  fun _ => inferInstanceAs (Decidable (_ ∧ _))

theorem openFor_of_waits {session : ResponseDispatch}
    {object : RegistrationId} {registration : ResponseRegistration}
    (alive : session.registrations.lookup object = some registration)
    (waits : session.Waits registration) :
    ∃ channel, session.OpenFor object registration.transactionId channel := by
  obtain ⟨live, channel, holds, isOpen⟩ := waits
  refine ⟨channel, ?_, isOpen⟩
  rw [alive, ← live, ← Option.mem_def.mp holds]

theorem OpenFor.waits {session : ResponseDispatch} {object : RegistrationId}
    {id : TransactionId} {channel : ChannelPtr}
    (isOpen : session.OpenFor object id channel) :
    session.Waits ⟨true, id, some channel⟩ :=
  ⟨rfl, channel, rfl, isOpen.2⟩

/-- The live objects are the entries of a list, so that the hypothesis of the
invariant can be decided. -/
theorem atMostOneOpen_iff {session : ResponseDispatch} :
    session.AtMostOneOpen ↔
      ∀ first ∈ session.registrations.entries, session.Waits first.2 →
        ∀ second ∈ session.registrations.entries, session.Waits second.2 →
          first.2.transactionId = second.2.transactionId →
            first.1 = second.1 := by
  constructor
  · intro atMostOne first firstAlive firstWaits second secondAlive
      secondWaits sameId
    obtain ⟨_, firstOpen⟩ := openFor_of_waits
      ((lookup_eq_some_iff _ _ _).mpr firstAlive) firstWaits
    obtain ⟨_, secondOpen⟩ := openFor_of_waits
      ((lookup_eq_some_iff _ _ _).mpr secondAlive) secondWaits
    exact atMostOne _ _ _ _ _ firstOpen (sameId ▸ secondOpen)
  · intro onEntries first second id firstChannel secondChannel firstOpen
      secondOpen
    exact onEntries _ ((lookup_eq_some_iff _ _ _).mp firstOpen.1)
      firstOpen.waits _ ((lookup_eq_some_iff _ _ _).mp secondOpen.1)
      secondOpen.waits rfl

instance : DecidablePred AtMostOneOpen :=
  fun _ => decidable_of_iff _ atMostOneOpen_iff.symm

/-- The invariant of the dispatch map.  Live registrations do not share
channels; an entry belongs to a live open registration and every such
registration has its entry; a channel carries at most one message, with the
id of its registration. -/
structure Consistent (session : ResponseDispatch) : Prop where
  holder : ∀ object registration channel,
    session.registrations.lookup object = some registration →
      registration.channel = some channel → registration.hasSession = true
  separate : ∀ first second firstRegistration secondRegistration channel,
    session.registrations.lookup first = some firstRegistration →
      session.registrations.lookup second = some secondRegistration →
        firstRegistration.channel = some channel →
          secondRegistration.channel = some channel → first = second
  mapped : ∀ id channel, session.dispatchMap.lookup id = some channel →
    ∃ object, session.OpenFor object id channel
  openMapped : ∀ object id channel, session.OpenFor object id channel →
    session.dispatchMap.lookup id = some channel
  answered : ∀ object registration channel,
    session.registrations.lookup object = some registration →
      registration.channel = some channel →
        (session.channels channel).messages.length ≤ 1 ∧
          ∀ frame ∈ (session.channels channel).messages,
            frame.transactionId = registration.transactionId

theorem consistent_initial : initial.Consistent where
  holder _ _ _ alive := by cases alive
  separate _ _ _ _ _ alive := by cases alive
  mapped _ _ entry := by cases entry
  openMapped _ _ _ isOpen := by cases isOpen.1
  answered _ _ _ alive := by cases alive

section Preservation

variable {session : ResponseDispatch}

theorem Unused.not_mapped {address : ChannelPtr}
    (unused : session.Unused address) (id : TransactionId) :
    session.dispatchMap.lookup id ≠ some address := by
  intro entry
  exact unused.1 _ ((lookup_eq_some_iff _ _ _).mp entry) rfl

theorem Unused.not_held {address : ChannelPtr}
    (unused : session.Unused address) {object : RegistrationId}
    {registration : ResponseRegistration}
    (alive : session.registrations.lookup object = some registration) :
    registration.channel ≠ some address :=
  unused.2 _ ((lookup_eq_some_iff _ _ _).mp alive)

theorem Consistent.same_id (consistent : session.Consistent)
    {first second : RegistrationId} {firstId secondId : TransactionId}
    {channel : ChannelPtr} (firstOpen : session.OpenFor first firstId channel)
    (secondOpen : session.OpenFor second secondId channel) :
    firstId = secondId := by
  have sameObject := consistent.separate _ _ _ _ _ firstOpen.1 secondOpen.1
    rfl rfl
  have sameRegistration := firstOpen.1.symm.trans (sameObject ▸ secondOpen.1)
  simpa using sameRegistration

/-- After a registration that creates its channel, an object is the new one or
holds a channel that it held before. -/
theorem held_before_registerNew {id : TransactionId} {object : RegistrationId}
    {address : ChannelPtr} (noEntry : session.dispatchMap.lookup id = none)
    (unused : session.Unused address) {other : RegistrationId}
    {held : ResponseRegistration}
    (alive : (session.registerResponse id object address).registrations.lookup
      other = some held) :
    other = object ∧ held = ⟨true, id, some address⟩ ∨
      session.registrations.lookup other = some held ∧
        held.channel ≠ some address := by
  simp only [registerResponse, noEntry, lookup_insert_ite] at alive
  split at alive
  case isTrue isNew => exact .inl ⟨isNew, (Option.some.inj alive).symm⟩
  case isFalse => exact .inr ⟨alive, unused.not_held alive⟩

theorem dispatchMap_registerNew {id : TransactionId}
    (noEntry : session.dispatchMap.lookup id = none) (object : RegistrationId)
    (address : ChannelPtr) (other : TransactionId) :
    (session.registerResponse id object address).dispatchMap.lookup other =
      if other = id then some address
      else session.dispatchMap.lookup other := by
  simp only [registerResponse, noEntry, lookup_insert_ite]

theorem channels_registerNew {id : TransactionId}
    (noEntry : session.dispatchMap.lookup id = none) (object : RegistrationId)
    {address channel : ChannelPtr} (differs : channel ≠ address) :
    (session.registerResponse id object address).channels channel =
      session.channels channel := by
  simp [registerResponse, noEntry, differs]

theorem alive_registerNew {id : TransactionId} {object other : RegistrationId}
    (free : session.registrations.lookup object = none)
    (noEntry : session.dispatchMap.lookup id = none) (address : ChannelPtr)
    {held : ResponseRegistration}
    (alive : session.registrations.lookup other = some held) :
    (session.registerResponse id object address).registrations.lookup other =
      some held := by
  have differs : other ≠ object := by
    rintro rfl
    rw [free] at alive
    cases alive
  simp only [registerResponse, noEntry, lookup_insert_ite, if_neg differs,
    alive]

theorem consistent_registerNew (consistent : session.Consistent)
    {id : TransactionId} {object : RegistrationId} {address : ChannelPtr}
    (free : session.registrations.lookup object = none)
    (noEntry : session.dispatchMap.lookup id = none)
    (unused : session.Unused address) :
    (session.registerResponse id object address).Consistent := by
  have before {other held} := @held_before_registerNew session id object
    address noEntry unused other held
  constructor
  case holder =>
    intro other held channel alive holds
    rcases before alive with ⟨-, rfl⟩ | ⟨aliveBefore, -⟩
    · rfl
    · exact consistent.holder _ _ _ aliveBefore holds
  case separate =>
    intro first second firstHeld secondHeld channel firstAlive secondAlive
      firstHolds secondHolds
    rcases before firstAlive with ⟨isFirst, rfl⟩ | ⟨firstBefore, firstKept⟩ <;>
      rcases before secondAlive with
        ⟨isSecond, rfl⟩ | ⟨secondBefore, secondKept⟩
    · exact isFirst.trans isSecond.symm
    · exact absurd (secondHolds.trans firstHolds.symm) secondKept
    · exact absurd (firstHolds.trans secondHolds.symm) firstKept
    · exact consistent.separate _ _ _ _ _ firstBefore secondBefore firstHolds
        secondHolds
  case mapped =>
    intro entryId channel entry
    rw [dispatchMap_registerNew noEntry] at entry
    split at entry
    case isTrue isNew =>
      cases entry
      refine ⟨object, ?_, ?_⟩ <;>
        simp [registerResponse, noEntry, isNew, ResponseChannel.isOpen_empty]
    case isFalse =>
      obtain ⟨owner, alive, isOpen⟩ := consistent.mapped _ _ entry
      have differs : channel ≠ address := by
        rintro rfl
        exact unused.not_mapped _ entry
      exact ⟨owner, alive_registerNew free noEntry address alive,
        by rwa [channels_registerNew noEntry object differs]⟩
  case openMapped =>
    intro owner entryId channel isOpen
    obtain ⟨alive, isOpen⟩ := isOpen
    rw [dispatchMap_registerNew noEntry]
    rcases before alive with ⟨-, isNew⟩ | ⟨aliveBefore, notNew⟩
    · cases isNew
      rw [if_pos rfl]
    · have differs : channel ≠ address := fun same => notNew (by rw [same])
      rw [channels_registerNew noEntry object differs] at isOpen
      have entry := consistent.openMapped owner entryId channel
        ⟨aliveBefore, isOpen⟩
      rw [if_neg, entry]
      rintro rfl
      rw [noEntry] at entry
      cases entry
  case answered =>
    intro owner held channel alive holds
    rcases before alive with ⟨-, rfl⟩ | ⟨aliveBefore, notNew⟩
    · cases holds
      simp [registerResponse, noEntry]
    · have differs : channel ≠ address := fun same =>
        notNew (holds.trans (by rw [same]))
      rw [channels_registerNew noEntry object differs]
      exact consistent.answered _ _ _ aliveBefore holds

theorem dispatch_of_entry (consistent : session.Consistent) {frame : InFrame}
    {channel : ChannelPtr}
    (entry : session.dispatchMap.lookup frame.transactionId = some channel) :
    ∃ sent, sent.messages = [frame] ∧
      (session.channels channel).trySend frame = some sent ∧
      session.dispatch frame =
        { session with
          dispatchMap := session.dispatchMap.erase frame.transactionId
          channels := Function.update session.channels channel sent } := by
  obtain ⟨_, _, isOpen⟩ := consistent.mapped _ _ entry
  obtain ⟨sent, sends, messagesEq⟩ := isOpen.trySend frame
  refine ⟨sent, messagesEq, sends, ?_⟩
  simp [dispatch, entry, sends]

theorem dispatch_of_noEntry {frame : InFrame}
    (noEntry : session.dispatchMap.lookup frame.transactionId = none) :
    session.dispatch frame = session := by
  simp [dispatch, noEntry]

theorem consistent_dispatch (consistent : session.Consistent)
    (frame : InFrame) : (session.dispatch frame).Consistent := by
  cases entry : session.dispatchMap.lookup frame.transactionId with
  | none => rwa [dispatch_of_noEntry entry]
  | some answeredChannel =>
      obtain ⟨sent, messagesEq, _, result⟩ := dispatch_of_entry consistent entry
      obtain ⟨owner, ownerOpen⟩ := consistent.mapped _ _ entry
      have notOpen : ¬ sent.IsOpen := by
        rintro ⟨unanswered, _⟩
        rw [messagesEq] at unanswered
        cases unanswered
      rw [result]
      constructor
      case holder => exact consistent.holder
      case separate => exact consistent.separate
      case mapped =>
        intro id channel stillMapped
        rw [lookup_erase_ite] at stillMapped
        split at stillMapped
        · cases stillMapped
        · next otherId =>
            obtain ⟨holder, alive, isOpen⟩ := consistent.mapped _ _ stillMapped
            refine ⟨holder, alive, ?_⟩
            dsimp only
            rw [Function.update_of_ne]
            · exact isOpen
            · rintro rfl
              exact otherId (consistent.same_id ⟨alive, isOpen⟩ ownerOpen)
      case openMapped =>
        intro holder id channel isOpen
        obtain ⟨alive, isOpen⟩ := isOpen
        have otherChannel : channel ≠ answeredChannel := by
          rintro rfl
          simp only [Function.update_self] at isOpen
          exact notOpen isOpen
        simp only [Function.update_of_ne otherChannel] at isOpen
        have stillMapped := consistent.openMapped holder id channel
          ⟨alive, isOpen⟩
        rw [lookup_erase_ite, if_neg, stillMapped]
        rintro rfl
        rw [entry] at stillMapped
        exact otherChannel (Option.some.inj stillMapped).symm
      case answered =>
        intro holder registration channel alive holds
        by_cases same : channel = answeredChannel
        · subst same
          have sameObject := consistent.separate _ _ _ _ _ alive ownerOpen.1
            holds rfl
          subst sameObject
          have sameRegistration := alive.symm.trans ownerOpen.1
          cases sameRegistration
          simp [messagesEq]
        · simp only [Function.update_of_ne same]
          exact consistent.answered _ _ _ alive holds

theorem lookup_moveRegistration {source target : RegistrationId}
    {registration : ResponseRegistration} (object : RegistrationId) :
    (session.moveRegistration source target registration).registrations.lookup
        object =
      if object = source then some ⟨false, registration.transactionId, none⟩
      else if object = target then some registration
      else session.registrations.lookup object := by
  simp only [moveRegistration, lookup_insert_ite]

/-- The object that held what `object` holds after a move. -/
def moveOrigin (source target object : RegistrationId) : RegistrationId :=
  if object = target then source else object

/-- Only the target of a move holds a channel that another object held
before. -/
theorem held_before_move {source target object : RegistrationId}
    {registration held : ResponseRegistration} {channel : ChannelPtr}
    (sourceAlive : session.registrations.lookup source = some registration)
    (alive : (session.moveRegistration source target
      registration).registrations.lookup object = some held)
    (holds : held.channel = some channel) :
    session.registrations.lookup (moveOrigin source target object) =
      some held ∧ object ≠ source := by
  rw [lookup_moveRegistration] at alive
  split at alive
  · cases alive
    cases holds
  · next notSource =>
      refine ⟨?_, notSource⟩
      unfold moveOrigin
      split at alive
      · next isTarget => rw [if_pos isTarget, sourceAlive, alive]
      · next notTarget => rw [if_neg notTarget, alive]

/-- A move hands the channel over with everything that is known about it. -/
theorem consistent_move (consistent : session.Consistent)
    {source target : RegistrationId} {registration : ResponseRegistration}
    (sourceAlive : session.registrations.lookup source = some registration)
    (targetFree : session.registrations.lookup target = none) :
    (session.moveRegistration source target registration).Consistent := by
  have differ : target ≠ source := by
    rintro rfl
    rw [targetFree] at sourceAlive
    cases sourceAlive
  constructor
  case holder =>
    intro object held channel alive holds
    exact consistent.holder _ _ _
      (held_before_move sourceAlive alive holds).1 holds
  case separate =>
    intro first second firstHeld secondHeld channel firstAlive secondAlive
      firstHolds secondHolds
    obtain ⟨firstBefore, firstNotSource⟩ :=
      held_before_move sourceAlive firstAlive firstHolds
    obtain ⟨secondBefore, secondNotSource⟩ :=
      held_before_move sourceAlive secondAlive secondHolds
    have sameOrigin := consistent.separate _ _ _ _ _ firstBefore secondBefore
      firstHolds secondHolds
    unfold moveOrigin at sameOrigin
    grind
  case mapped =>
    intro id channel entry
    obtain ⟨owner, alive, isOpen⟩ := consistent.mapped id channel entry
    by_cases isSource : owner = source
    · refine ⟨target, ?_, isOpen⟩
      rw [lookup_moveRegistration, if_neg differ, if_pos rfl,
        ← sourceAlive, ← isSource, alive]
    · refine ⟨owner, ?_, isOpen⟩
      rw [lookup_moveRegistration, if_neg isSource, if_neg, alive]
      rintro rfl
      rw [targetFree] at alive
      cases alive
  case openMapped =>
    intro object id channel openAfter
    obtain ⟨alive, isOpen⟩ := openAfter
    exact consistent.openMapped _ id channel
      ⟨(held_before_move sourceAlive alive rfl).1, isOpen⟩
  case answered =>
    intro object held channel alive holds
    exact consistent.answered _ _ channel
      (held_before_move sourceAlive alive holds).1 holds

theorem lookup_destroyRegistration (object other : RegistrationId)
    (registration : ResponseRegistration) :
    (session.destroyRegistration object registration).registrations.lookup
        other =
      if other = object then none
      else session.registrations.lookup other := by
  rw [destroyRegistration, lookup_erase_ite]

/-- A destructor removes at most the entry of its registration. -/
theorem dispatchMap_destroyRegistration (id : TransactionId)
    (object : RegistrationId) (registration : ResponseRegistration) :
    (session.destroyRegistration object registration).dispatchMap.lookup id =
      if session.OwnsEntry registration ∧ id = registration.transactionId then
        none
      else session.dispatchMap.lookup id := by
  unfold destroyRegistration
  by_cases owns : session.OwnsEntry registration
  · simp only [owns, if_true, lookup_erase_ite, true_and]
  · simp only [owns, if_false, false_and]

/-- The channel-identity test of the destructor protects every other
registration. -/
theorem consistent_destroy (consistent : session.Consistent)
    {object : RegistrationId} {registration : ResponseRegistration}
    (alive : session.registrations.lookup object = some registration) :
    (session.destroyRegistration object registration).Consistent := by
  have survivor : ∀ {other : RegistrationId} {held : ResponseRegistration},
      (session.destroyRegistration object registration).registrations.lookup
          other = some held →
        other ≠ object ∧ session.registrations.lookup other = some held := by
    intro other held otherAlive
    rwa [lookup_destroyRegistration, Option.ite_none_left_eq_some]
      at otherAlive
  constructor
  case holder =>
    intro other held channel otherAlive
    exact consistent.holder _ _ _ (survivor otherAlive).2
  case separate =>
    intro first second firstHeld secondHeld channel firstAlive secondAlive
    exact consistent.separate _ _ _ _ _ (survivor firstAlive).2
      (survivor secondAlive).2
  case mapped =>
    intro id channel entry
    rw [dispatchMap_destroyRegistration, Option.ite_none_left_eq_some]
      at entry
    obtain ⟨kept, entryBefore⟩ := entry
    obtain ⟨owner, ownerAlive, isOpen⟩ :=
      consistent.mapped id channel entryBefore
    refine ⟨owner, ?_, isOpen⟩
    have notDestroyed : owner ≠ object := by
      rintro rfl
      rw [alive] at ownerAlive
      cases ownerAlive
      exact kept ⟨⟨rfl, rfl, entryBefore⟩, rfl⟩
    rw [lookup_destroyRegistration, if_neg notDestroyed]
    exact ownerAlive
  case openMapped =>
    intro owner id channel openAfter
    obtain ⟨ownerAlive, isOpen⟩ := openAfter
    obtain ⟨notDestroyed, aliveBefore⟩ := survivor ownerAlive
    have entry := consistent.openMapped owner id channel ⟨aliveBefore, isOpen⟩
    rw [dispatchMap_destroyRegistration, if_neg, entry]
    rintro ⟨owns, rfl⟩
    have ownChannel := owns.2.2.symm.trans entry
    exact notDestroyed
      (consistent.separate _ _ _ _ _ aliveBefore alive rfl ownChannel)
  case answered =>
    intro other held channel otherAlive
    exact consistent.answered _ _ _ (survivor otherAlive).2

theorem noEntry_destroy {id : TransactionId}
    (noEntry : session.dispatchMap.lookup id = none) (object : RegistrationId)
    (registration : ResponseRegistration) :
    (session.destroyRegistration object registration).dispatchMap.lookup id =
      none := by
  rw [dispatchMap_destroyRegistration, noEntry, ite_self]

/-- Taking a message out of a channel changes nothing that is said about
it. -/
theorem consistent_receive (consistent : session.Consistent)
    {channel : ChannelPtr} {next : ResponseDispatch}
    (receives : session.receiveFrom channel = some next) :
    next.Consistent := by
  simp only [receiveFrom, Option.map_eq_some_iff] at receives
  obtain ⟨taken, takes, rfl⟩ := receives
  obtain ⟨sameMessages, sameClosed⟩ := ResponseChannel.receive_spec takes
  have unchanged : ∀ other,
      (Function.update session.channels channel taken other).messages =
          (session.channels other).messages ∧
        (Function.update session.channels channel taken other).closed =
          (session.channels other).closed := by
    intro other
    by_cases same : other = channel
    · subst same
      rw [Function.update_self]
      exact ⟨sameMessages, sameClosed⟩
    · rw [Function.update_of_ne same]
      exact ⟨rfl, rfl⟩
  have openUnchanged : ∀ other,
      (Function.update session.channels channel taken other).IsOpen ↔
        (session.channels other).IsOpen := by
    intro other
    simp only [ResponseChannel.IsOpen, unchanged]
  constructor
  case holder => exact consistent.holder
  case separate => exact consistent.separate
  case mapped =>
    intro id other entry
    obtain ⟨owner, alive, isOpen⟩ := consistent.mapped id other entry
    exact ⟨owner, alive, (openUnchanged other).mpr isOpen⟩
  case openMapped =>
    intro owner id other openAfter
    exact consistent.openMapped owner id other
      ⟨openAfter.1, (openUnchanged other).mp openAfter.2⟩
  case answered =>
    intro object registration other alive holds
    rw [(unchanged other).1]
    exact consistent.answered _ _ _ alive holds

theorem consistent_shutdown (consistent : session.Consistent) :
    session.shutdownChannels.Consistent := by
  constructor
  case holder => exact consistent.holder
  case separate => exact consistent.separate
  case mapped =>
    intro id channel entry
    cases entry
  case openMapped =>
    intro owner id channel openAfter
    obtain ⟨alive, isOpen⟩ := openAfter
    simp only [shutdownChannels] at isOpen
    split at isOpen
    · exact absurd isOpen (ResponseChannel.not_isOpen_close _)
    · next notMapped =>
        have entry := consistent.openMapped owner id channel ⟨alive, isOpen⟩
        exact absurd ⟨_, (lookup_eq_some_iff _ _ _).mp entry, rfl⟩ notMapped
  case answered =>
    intro object registration channel alive holds
    have messagesEq : (session.shutdownChannels.channels channel).messages =
        (session.channels channel).messages := by
      simp only [shutdownChannels]
      split <;> rfl
    rw [messagesEq]
    exact consistent.answered _ _ _ alive holds

/-- A second open registration for one id is what the hypothesis of the
invariant excludes. -/
theorem not_atMostOneOpen_registerShared (consistent : session.Consistent)
    {id : TransactionId} {object : RegistrationId} {address : ChannelPtr}
    (free : session.registrations.lookup object = none)
    (entry : session.dispatchMap.lookup id ≠ none) :
    ¬ (session.registerResponse id object address).AtMostOneOpen := by
  intro atMostOne
  obtain ⟨channel, mapped⟩ := Option.ne_none_iff_exists'.mp entry
  obtain ⟨owner, alive, isOpen⟩ := consistent.mapped id channel mapped
  have differs : owner ≠ object := by
    rintro rfl
    rw [free] at alive
    cases alive
  simp only [registerResponse, mapped] at atMostOne
  refine differs (atMostOne owner object id channel channel ⟨?_, isOpen⟩
    ⟨?_, isOpen⟩)
  · rw [lookup_insert_ite, if_neg differs, alive]
  · rw [lookup_insert_ite, if_pos rfl]

theorem consistent_step {event : Event} {next : ResponseDispatch}
    (consistent : session.Consistent) (atMostOne : next.AtMostOneOpen)
    (stepped : step session event = some next) : next.Consistent := by
  cases event with
  | register id object address =>
      obtain ⟨free, unused, rfl⟩ := step_register stepped
      by_cases noEntry : session.dispatchMap.lookup id = none
      · exact consistent_registerNew consistent free noEntry unused
      · exact absurd atMostOne
          (not_atMostOneOpen_registerShared consistent free noEntry)
  | dispatch frame =>
      cases stepped
      exact consistent_dispatch consistent frame
  | move source target =>
      obtain ⟨registration, sourceAlive, targetFree, rfl⟩ := step_move stepped
      exact consistent_move consistent sourceAlive targetFree
  | destroy object =>
      obtain ⟨registration, alive, rfl⟩ := step_destroy stepped
      exact consistent_destroy consistent alive
  | receive object =>
      obtain ⟨_, _, _, _, receives⟩ := step_receive stepped
      exact consistent_receive consistent receives
  | shutdown =>
      cases stepped
      exact consistent_shutdown consistent

theorem consistent_of_run {events : List Event} {last : ResponseDispatch}
    (ran : run step initial events = some last)
    (atMostOne : Always step AtMostOneOpen initial events) :
    last.Consistent :=
  invariant_of_always
    (fun _ _ _ consistent _ atMostOneNext stepped =>
      consistent_step consistent atMostOneNext stepped)
    atMostOne consistent_initial ran

theorem dispatchMap_destroy_of_not_waits (consistent : session.Consistent)
    {object : RegistrationId} {registration : ResponseRegistration}
    (answered : ¬ session.Waits registration) :
    (session.destroyRegistration object registration).dispatchMap =
      session.dispatchMap := by
  simp only [destroyRegistration]
  rw [if_neg]
  rintro ⟨live, holds, ownEntry⟩
  obtain ⟨channel, holdsChannel⟩ := Option.isSome_iff_exists.mp holds
  rw [holdsChannel] at ownEntry
  obtain ⟨owner, ownerAlive, isOpen⟩ := consistent.mapped _ _ ownEntry
  exact answered ⟨live, channel, holdsChannel, isOpen⟩

end Preservation

/-- The dispatch map after any sequence of operations that keeps at most one
open registration per id alive: its keys are the ids of the open
registrations, with their own channels; a registration gets at most one
message, and one with its id; a frame that nobody waits for changes nothing;
sending into a mapped channel succeeds; and a registration that is not open
takes no entry along when it is destroyed. -/
theorem dispatchMap_invariant {events : List Event} {last : ResponseDispatch}
    (ran : run step initial events = some last)
    (atMostOne : Always step AtMostOneOpen initial events) :
    (∀ id, id ∈ last.dispatchMap ↔
      ∃ object channel, last.OpenFor object id channel) ∧
    (∀ id entry object channel, last.dispatchMap.lookup id = some entry →
      last.OpenFor object id channel → entry = channel) ∧
    (∀ object registration channel,
      last.registrations.lookup object = some registration →
        registration.channel = some channel →
          (last.channels channel).messages.length ≤ 1 ∧
            ∀ frame ∈ (last.channels channel).messages,
              frame.transactionId = registration.transactionId) ∧
    (∀ frame : InFrame,
      (¬ ∃ object channel, last.OpenFor object frame.transactionId channel) →
        last.dispatch frame = last) ∧
    (∀ (frame : InFrame) entry,
      last.dispatchMap.lookup frame.transactionId = some entry →
        ((last.channels entry).trySend frame).isSome) ∧
    ∀ object registration,
      last.registrations.lookup object = some registration →
        (¬ ∃ id channel, last.OpenFor object id channel) →
          (last.destroyRegistration object registration).dispatchMap =
            last.dispatchMap := by
  have consistent := consistent_of_run ran atMostOne
  have keys : ∀ id, id ∈ last.dispatchMap ↔
      ∃ object channel, last.OpenFor object id channel := by
    intro id
    rw [← AList.lookup_isSome, Option.isSome_iff_exists]
    constructor
    · rintro ⟨channel, entry⟩
      obtain ⟨object, isOpen⟩ := consistent.mapped id channel entry
      exact ⟨object, channel, isOpen⟩
    · rintro ⟨object, channel, isOpen⟩
      exact ⟨channel, consistent.openMapped object id channel isOpen⟩
  refine ⟨keys, ?_, consistent.answered, ?_, ?_, ?_⟩
  · intro id entry object channel mapped isOpen
    rw [consistent.openMapped object id channel isOpen] at mapped
    exact (Option.some.inj mapped).symm
  · intro frame nobody
    refine dispatch_of_noEntry ?_
    rw [AList.lookup_eq_none, keys]
    exact nobody
  · intro frame entry mapped
    obtain ⟨sent, _, sends, _⟩ := dispatch_of_entry consistent mapped
    rw [sends, Option.isSome_some]
  · intro object registration alive notOpen
    refine dispatchMap_destroy_of_not_waits consistent ?_
    intro waits
    obtain ⟨channel, isOpen⟩ := openFor_of_waits alive waits
    exact notOpen ⟨_, channel, isOpen⟩

/-- A registration that has been answered outlives the next one's creation:
its destruction leaves the new entry in the map. -/
theorem dispatchMap_invariant_reuse :
    ∃ last, run step initial
        [.register 5 0 0, .dispatch ⟨5, .ack⟩, .register 5 1 1,
          .destroy 0] = some last ∧
      ∃ object channel, last.OpenFor object 5 channel := by
  have atMostOne : Always step AtMostOneOpen initial
      [.register 5 0 0, .dispatch ⟨5, .ack⟩, .register 5 1 1,
        .destroy 0] := by decide
  refine ⟨_, rfl, ?_⟩
  exact ((dispatchMap_invariant rfl atMostOne).1 5).mp (by decide)

end ResponseDispatch

end CocktailMaker
