import CocktailMaker.FramedStream
import CocktailMaker.Resynchronisation
import CocktailMaker.SimulatedPod
import CocktailMaker.WriteLoop

/-!
# The link between the Station and a simulated Pod

Requests and responses travel as frames on two byte streams, and either side
reads what is there in pieces of any length.  The Pod starts a handler for every
request that it reads, and its handlers hand their frames to its write loop.
As long as nothing is written after a write has failed, no request and no
response is lost, duplicated or reordered.
-/

namespace CocktailMaker

namespace StationPodLink

open FramedStream IncrementalParsing LabelledRun SimulatedPod

section ReadLoops

variable {Msg : Type*}

/-- The loop around the read of the client.  `processAll` is the library
function that handles all messages in the buffer and returns how many bytes
they are. -/
def clientRead (processAll : List UInt8 → List Msg × Nat)
    (loop : ReadLoop Msg) (chunk : List UInt8) : Option (ReadLoop Msg) :=
  if loop.returned = true ∨ chunk = [] ∨ loop.rx.free < chunk.length then none
  else
    let rx := loop.rx.append chunk
    let processed := processAll rx.pending
    some (ReadLoop.continueWith (rx.consumeFront processed.2)
      (loop.dispatched ++ processed.1))

/-- The loop of the Station. -/
def stationRead (read : FrameRead Msg) (loop : ReadLoop Msg)
    (chunk : List UInt8) : Option (ReadLoop Msg) :=
  ReadLoop.step read loop (.received chunk)

/-- The inner loop of the Station as a decoder. -/
def drainAll {read : FrameRead Msg} (contract : ReadContract read)
    (bytes : List UInt8) : List Msg × Nat :=
  let drained := (ReadLoop.frontParser contract).drain bytes
  (drained.1, bytes.length - drained.2.length)

/-- What a step of a loop does: it decodes what is pending, and its buffer
stays of one of its sizes. -/
structure Feeds (decode : List UInt8 → List Msg × Nat)
    (loop : ReadLoop Msg) (chunk : List UInt8) (next : ReadLoop Msg) : Prop where
  received : (next.dispatched, next.rx.pending) =
    feed decode (loop.dispatched, loop.rx.pending) chunk
  sized : ReadLoop.Sized loop → ReadLoop.Sized next

theorem feeds_of_clientRead {processAll : List UInt8 → List Msg × Nat}
    {loop next : ReadLoop Msg} {chunk : List UInt8}
    (stepped : clientRead processAll loop chunk = some next) :
    Feeds processAll loop chunk next := by
  unfold clientRead at stepped
  split at stepped
  case isTrue impossible => cases stepped
  case isFalse possible =>
    obtain rfl := Option.some.inj stepped
    simp only [not_or, Nat.not_lt] at possible
    constructor
    · simp only [ReadLoop.continueWith_dispatched,
        ReadLoop.continueWith_pending, RxBuffer.pending_consumeFront,
        RxBuffer.pending_append, feed]
    · intro sized
      apply ReadLoop.sized_continueWith
      rw [RxBuffer.size_consumeFront, RxBuffer.size_append possible.2.2]
      exact sized.size_eq

theorem feeds_of_stationRead {read : FrameRead Msg}
    (contract : ReadContract read) {loop next : ReadLoop Msg}
    {chunk : List UInt8} (stepped : stationRead read loop chunk = some next) :
    Feeds (drainAll contract) loop chunk next := by
  constructor
  · obtain ⟨dispatched, pending⟩ := ReadLoop.step_drains contract stepped
    rw [dispatched, pending, feed, drainAll]
    congr 1
    exact List.suffix_iff_eq_drop.mp (FrontParser.drain_snd_suffix _)
  · intro sized
    obtain ⟨running, nonempty, fits⟩ := ReadLoop.received_of_step stepped
    obtain ⟨parsed, isNext, _, sameSize⟩ :=
      ReadLoop.step_received contract running nonempty fits
    rw [stationRead, isNext, Option.some.injEq] at stepped
    subst stepped
    exact ReadLoop.sized_continueWith _ (sameSize ▸ sized.size_eq)

theorem decodes_drainAll {read : FrameRead Msg} (contract : ReadContract read)
    {sync : List UInt8} {Intact : List UInt8 → Msg → Prop}
    {frameLength : Msg → Nat}
    (syncing : SyncContract read sync Intact frameLength) :
    Decodes Intact (drainAll contract) := by
  intro frames messages rest intact isPartial
  have drained : (ReadLoop.frontParser contract).drain
      (frames.flatten ++ rest) = (messages, rest) := by
    induction intact with
    | nil =>
        refine FrontParser.drain_of_waits ?_
        rcases isPartial with rfl | ⟨frame, message, intact, begins, proper⟩
        · exact ReadLoop.attempt_of_short syncing Nat.two_pos
        · exact ReadLoop.attempt_of_waits syncing intact begins proper
    | @cons frame message frames messages carries _ ih =>
        rw [List.flatten_cons, List.append_assoc]
        have result := syncing.intact_read frame message
          (frame ++ (frames.flatten ++ rest)) carries (List.prefix_append _ _)
        have attempted : (ReadLoop.frontParser contract).attempt
            (frame ++ (frames.flatten ++ rest)) =
              some (some message, frame.length) := by
          simp only [ReadLoop.frontParser, ReadLoop.attempt, result]
          rfl
        rw [FrontParser.drain_of_attempt attempted, List.drop_left, ih]
        rfl
  rw [drainAll, drained, List.length_append, Nat.add_sub_cancel_right]

/-- Reading a beginning of intact frames that fit the buffer hands on their
messages, and the loop goes on. -/
theorem framed_of_reads {step : ReadLoop Msg → List UInt8 → Option (ReadLoop Msg)}
    {decode : List UInt8 → List Msg × Nat}
    (feeds : ∀ loop chunk next, step loop chunk = some next →
      Feeds decode loop chunk next)
    {Intact : List UInt8 → Msg → Prop} (decodes : Decodes Intact decode)
    {frames : List (List UInt8)} {messages : List Msg}
    (intact : List.Forall₂ Intact frames messages)
    {chunks : List (List UInt8)} {loop : ReadLoop Msg}
    (ran : run step ReadLoop.start chunks = some loop)
    (isPrefix : chunks.flatten <+: frames.flatten) :
    Framed Intact frames messages chunks.flatten
        (loop.dispatched, loop.rx.pending) ∧
      ReadLoop.Sized loop := by
  refine history_of_run (fun chunks loop => chunks.flatten <+: frames.flatten →
    Framed Intact frames messages chunks.flatten
        (loop.dispatched, loop.rx.pending) ∧
      ReadLoop.Sized loop) ?_ ?_ ran isPrefix
  · intro _
    refine ⟨?_, ReadLoop.sized_continueWith [] ⟨0, by omega, by simp⟩⟩
    simpa [ReadLoop.start] using framed_nil intact
  · intro chunks loop chunk next _ before stepped isPrefix
    rw [List.flatten_append, List.flatten_singleton] at isPrefix ⊢
    obtain ⟨framed, sized⟩ :=
      before ((List.prefix_append _ _).trans isPrefix)
    obtain ⟨received, sizedNext⟩ := feeds _ _ _ stepped
    rw [received]
    exact ⟨framed.feed decodes isPrefix, sizedNext sized⟩

theorem not_returned {Intact : List UInt8 → Msg → Prop}
    {frames : List (List UInt8)} {messages : List Msg} {stream : List UInt8}
    {loop : ReadLoop Msg}
    (framed : Framed Intact frames messages stream
      (loop.dispatched, loop.rx.pending))
    (sized : ReadLoop.Sized loop)
    (fit : ∀ frame ∈ frames, frame.length ≤ ReadLoop.kMaxBufferSize) :
    loop.returned = false := by
  by_contra returned
  obtain ⟨isFull, atLimit⟩ := sized.full (Bool.not_eq_false _ ▸ returned)
  have full : loop.rx.pending.length = ReadLoop.kMaxBufferSize := by
    rw [RxBuffer.pending_length, isFull, atLimit]
  generalize isReceived : (loop.dispatched, loop.rx.pending) = received
    at framed
  cases framed with
  | @split done later handedOn ahead rest handed intact begins =>
      obtain ⟨-, rfl⟩ := Prod.mk.inj isReceived
      rcases begins with nothing | ⟨frame, following, rfl, begins, proper⟩
      · rw [nothing] at full
        cases full
      · have short := fit frame (by simp)
        have same := begins.eq_of_length_le (short.trans full.ge)
        exact proper same

end ReadLoops

section WriteLoops

/-- The results of the writes of a loop. -/
def wroteResults (events : List WriteLoop.Event) : List WriteResult :=
  events.filterMap fun
    | .wrote result => some result
    | _ => none

/-- Nothing of a later frame is written after a write has failed. -/
def SilentAfterFailure (results : List WriteResult) : Prop :=
  ∀ before result after, results = before ++ result :: after →
    result.error ≠ none → ∀ later ∈ after, later.bytesTransferred = 0

@[simp]
theorem wroteResults_append (first second : List WriteLoop.Event) :
    wroteResults (first ++ second) =
      wroteResults first ++ wroteResults second :=
  List.filterMap_append

theorem silentAfterFailure_of_noError {results : List WriteResult}
    (noError : ∀ result ∈ results, result.error = none) :
    SilentAfterFailure results := by
  rintro before result after rfl failed
  exact absurd (noError result (by simp)) failed

theorem silentAfterError_of_results {events : List WriteLoop.Event}
    (silent : SilentAfterFailure (wroteResults events)) :
    WriteLoop.SilentAfterError events := by
  rintro before result after rfl failed later member
  apply silent (wroteResults before) result (wroteResults after)
  · rw [← List.singleton_append, wroteResults_append, wroteResults_append]
    rfl
  · exact failed
  · exact List.mem_filterMap.mpr ⟨_, member, rfl⟩

theorem wire_prefix_of_step {loop next : WriteLoop} {event : WriteLoop.Event}
    (stepped : WriteLoop.step loop event = some next) :
    loop.wire <+: next.wire := by
  by_cases wrote : ∃ result, event = .wrote result
  · obtain ⟨result, rfl⟩ := wrote
    obtain ⟨frame, _, _, rfl⟩ := WriteLoop.step_wrote stepped
    exact List.prefix_append _ _
  · rw [WriteLoop.wire_eq_of_not_wrote stepped fun result isWrote =>
      wrote ⟨result, isWrote⟩]

theorem wire_prefix_of_run {loop last : WriteLoop}
    {events : List WriteLoop.Event}
    (ran : run WriteLoop.step loop events = some last) :
    loop.wire <+: last.wire :=
  invariant_of_run (fun next => loop.wire <+: next.wire)
    (fun _ _ _ before stepped => before.trans (wire_prefix_of_step stepped))
    List.prefix_rfl ran

/-- What a write loop has put on the stream is a beginning of the frames that
it has taken, and all of them when it is idle and no write has failed. -/
structure Written (results : List WriteResult) (loop : WriteLoop) : Prop where
  isPrefix : loop.wire <+: loop.taken.flatten
  complete : (∀ result ∈ results, result.error = none) →
    loop.writing = none → loop.wire = loop.taken.flatten

theorem written_of_run {events : List WriteLoop.Event} {loop : WriteLoop}
    (ran : run WriteLoop.step .initial events = some loop)
    (silent : SilentAfterFailure (wroteResults events)) :
    Written (wroteResults events) loop := by
  have aligned :=
    WriteLoop.aligned_of_run (silentAfterError_of_results silent) ran
  refine ⟨aligned.isPrefix, fun noError idle => ?_⟩
  obtain ⟨done, taken, wire⟩ := aligned.complete fun result member =>
    noError result (List.mem_filterMap.mpr ⟨_, member, rfl⟩)
  rw [wire, taken, idle, Option.toList_none, List.append_nil]

end WriteLoops

section Transmission

/-- The handlers of the Pod, the frames that its write loop has got from them,
and the write loop. -/
structure Transmitter where
  client : CooperativeTasks Received Volumes InMessage := { state := full }
  sent : List InFrame := []
  loop : WriteLoop := .initial

inductive TransmitterEvent
  | task (event : CooperativeTasks.Event Received)
  | wrote (result : WriteResult)
  | leave
  deriving DecidableEq

variable (encode : InFrame → List UInt8) (deviceInfo : InMessage)

/-- The queue of the client has no buffer: a frame enters it when the write
loop takes it. -/
def handOver (loop : WriteLoop) (frame : InFrame) : Option WriteLoop :=
  run WriteLoop.step loop [.send (encode frame), .take]

def Transmitter.step (transmitter : Transmitter) :
    TransmitterEvent → Option Transmitter
  | .task event => do
      let (client, taken) ← CooperativeTasks.step (handle deviceInfo)
        transmitter.client event
      let loop ← (frames taken).foldlM (handOver encode) transmitter.loop
      return { client, sent := transmitter.sent ++ frames taken, loop }
  | .wrote result =>
      (WriteLoop.step transmitter.loop (.wrote result)).map fun loop =>
        { transmitter with loop }
  | .leave =>
      (WriteLoop.step transmitter.loop .leave).map fun loop =>
        { transmitter with loop }

/-- The results of the writes of the Pod. -/
def results (events : List TransmitterEvent) : List WriteResult :=
  events.filterMap fun
    | .wrote result => some result
    | _ => none

@[simp]
theorem results_append (first second : List TransmitterEvent) :
    results (first ++ second) = results first ++ results second :=
  List.filterMap_append

/-- The write loop of the Pod has run by itself, and has taken the frames that
the handlers have sent. -/
structure Transmits (events : List TransmitterEvent)
    (transmitter : Transmitter) : Prop where
  ran : ∃ loopEvents,
    run WriteLoop.step .initial loopEvents = some transmitter.loop ∧
      wroteResults loopEvents = results events
  taken : transmitter.loop.taken = transmitter.sent.map encode
  buffered : transmitter.loop.queue.buffered = []
  waiting : transmitter.loop.queue.waiting = []

variable {encode deviceInfo}

theorem handOver_eq_some {loop next : WriteLoop} {frame : InFrame}
    (buffered : loop.queue.buffered = []) (waiting : loop.queue.waiting = [])
    (handed : handOver encode loop frame = some next) :
    next.taken = loop.taken ++ [encode frame] ∧
      next.queue.buffered = [] ∧ next.queue.waiting = [] := by
  obtain ⟨⟨buffer, senders, closed⟩, taken, writing, wire, running⟩ := loop
  obtain rfl : buffer = [] := buffered
  obtain rfl : senders = [] := waiting
  cases closed with
  | true => cases handed
  | false =>
      obtain ⟨filled, sent, handed⟩ := run_cons_eq_some.mp handed
      obtain rfl := Option.some.inj sent
      obtain ⟨last, stepped, isLast⟩ := run_cons_eq_some.mp handed
      obtain rfl := Option.some.inj isLast
      simp only [WriteLoop.step, Option.ite_none_right_eq_some] at stepped
      obtain rfl := Option.some.inj stepped.2
      exact ⟨rfl, rfl, rfl⟩

/-- The write loop takes the frames one after the other. -/
theorem exists_run_of_handOver {sent : List InFrame} {loop next : WriteLoop}
    (buffered : loop.queue.buffered = []) (waiting : loop.queue.waiting = [])
    (handed : sent.foldlM (handOver encode) loop = some next) :
    (∃ loopEvents, run WriteLoop.step loop loopEvents = some next ∧
        wroteResults loopEvents = []) ∧
      next.taken = loop.taken ++ sent.map encode ∧
      next.queue.buffered = [] ∧ next.queue.waiting = [] := by
  induction sent generalizing loop with
  | nil =>
      obtain rfl := Option.some.inj handed
      exact ⟨⟨[], rfl, rfl⟩, by simp, buffered, waiting⟩
  | cons frame sent ih =>
      rw [List.foldlM_cons] at handed
      obtain ⟨middle, first, rest⟩ := Option.bind_eq_some_iff.mp handed
      obtain ⟨takenFirst, bufferedFirst, waitingFirst⟩ :=
        handOver_eq_some buffered waiting first
      obtain ⟨⟨loopEvents, ran, silent⟩, taken, empty⟩ :=
        ih bufferedFirst waitingFirst rest
      have begins : run WriteLoop.step loop [.send (encode frame), .take] =
          some middle := first
      refine ⟨⟨[.send (encode frame), .take] ++ loopEvents,
        run_append_eq_some.mpr ⟨middle, begins, ran⟩, ?_⟩, ?_, empty⟩
      · rw [wroteResults_append, silent]
        rfl
      · rw [taken, takenFirst, List.map_cons, List.append_assoc,
          List.singleton_append]

theorem transmits_new :
    Transmits encode [] ({} : Transmitter) where
  ran := ⟨[], rfl, rfl⟩
  taken := rfl
  buffered := rfl
  waiting := rfl

theorem Transmits.step {events : List TransmitterEvent}
    {transmitter next : Transmitter} {event : TransmitterEvent}
    (transmits : Transmits encode events transmitter)
    (stepped : Transmitter.step encode deviceInfo transmitter event =
      some next) : Transmits encode (events ++ [event]) next := by
  obtain ⟨⟨loopEvents, ran, same⟩, taken, buffered, waiting⟩ := transmits
  cases event with
  | task event =>
      obtain ⟨⟨client, sent⟩, _, rest⟩ := Option.bind_eq_some_iff.mp stepped
      obtain ⟨loop, handed, isNext⟩ := Option.bind_eq_some_iff.mp rest
      obtain rfl := Option.some.inj isNext
      obtain ⟨⟨more, ranMore, silent⟩, takenNow, bufferedNow, waitingNow⟩ :=
        exists_run_of_handOver buffered waiting handed
      refine ⟨⟨loopEvents ++ more,
        run_append_eq_some.mpr ⟨_, ran, ranMore⟩, ?_⟩, ?_, bufferedNow,
        waitingNow⟩
      · rw [wroteResults_append, silent, same, results_append]
        rfl
      · rw [takenNow, taken, List.map_append]
  | wrote result =>
      obtain ⟨loop, wrote, rfl⟩ := Option.map_eq_some_iff.mp stepped
      obtain ⟨frame, _, _, isLoop⟩ := WriteLoop.step_wrote wrote
      refine ⟨⟨loopEvents ++ [.wrote result],
        run_concat_eq_some.mpr ⟨_, ran, wrote⟩, ?_⟩, ?_, ?_, ?_⟩
      · rw [wroteResults_append, same, results_append]
        rfl
      · rw [isLoop]
        exact taken
      · rw [isLoop]
        exact buffered
      · rw [isLoop]
        exact waiting
  | leave =>
      obtain ⟨loop, left, rfl⟩ := Option.map_eq_some_iff.mp stepped
      have leaves := left
      simp only [WriteLoop.step, Option.ite_none_right_eq_some] at leaves
      obtain rfl := Option.some.inj leaves.2
      refine ⟨⟨loopEvents ++ [.leave],
        run_concat_eq_some.mpr ⟨_, ran, left⟩, ?_⟩, taken, buffered, waiting⟩
      rw [wroteResults_append, same, results_append]
      rfl

theorem transmits_of_run {events : List TransmitterEvent}
    {transmitter : Transmitter}
    (ran : run (Transmitter.step encode deviceInfo) {} events =
      some transmitter) : Transmits encode events transmitter :=
  history_of_run (Transmits encode) transmits_new
    (fun _ _ _ _ _ transmits stepped => transmits.step stepped) ran

theorem wire_prefix_of_transmitter {transmitter next : Transmitter}
    {event : TransmitterEvent}
    (stepped : Transmitter.step encode deviceInfo transmitter event =
      some next) : transmitter.loop.wire <+: next.loop.wire := by
  cases event with
  | task event =>
      obtain ⟨⟨client, sent⟩, _, rest⟩ := Option.bind_eq_some_iff.mp stepped
      obtain ⟨loop, handed, isNext⟩ := Option.bind_eq_some_iff.mp rest
      obtain rfl := Option.some.inj isNext
      exact invariant_of_run
        (fun later : WriteLoop => transmitter.loop.wire <+: later.wire)
        (fun _ _ _ before handed => before.trans (wire_prefix_of_run handed))
        List.prefix_rfl handed
  | wrote result =>
      obtain ⟨loop, wrote, rfl⟩ := Option.map_eq_some_iff.mp stepped
      exact wire_prefix_of_step wrote
  | leave =>
      obtain ⟨loop, left, rfl⟩ := Option.map_eq_some_iff.mp stepped
      exact wire_prefix_of_step left

end Transmission

section Delivery

variable {Writer WriterEvent Msg : Type*}
  {write : Writer → WriterEvent → Option Writer} {wire : Writer → List UInt8}
  {read : ReadLoop Msg → List UInt8 → Option (ReadLoop Msg)}
  {decode : List UInt8 → List Msg × Nat} {Intact : List UInt8 → Msg → Prop}

/-- A frame that is not empty and fits the largest buffer. -/
def Fits (frame : List UInt8) : Prop :=
  frame ≠ [] ∧ frame.length ≤ ReadLoop.kMaxBufferSize

instance (frame : List UInt8) : Decidable (Fits frame) :=
  inferInstanceAs (Decidable (_ ∧ _))

/-- The reader of a pipe hands on the first messages of what the writer has to
write, and all of them once they are written and nothing is in transit. -/
theorem delivers_of_run
    (grows : ∀ writer event next, write writer event = some next →
      wire writer <+: wire next)
    (feeds : ∀ loop chunk next, read loop chunk = some next →
      Feeds decode loop chunk next)
    (decodes : Decodes Intact decode) {writer : Writer}
    (silent : wire writer = []) {events : List (PipeEvent WriterEvent)}
    {pipe : Pipe UInt8 Writer (ReadLoop Msg)}
    (ran : run (Pipe.step write wire read)
      { writer, reader := ReadLoop.start } events = some pipe)
    {frames : List (List UInt8)} {messages : List Msg}
    (intact : List.Forall₂ Intact frames messages)
    (fit : ∀ frame ∈ frames, Fits frame)
    (isPrefix : wire pipe.writer <+: frames.flatten) :
    pipe.reader.dispatched <+: messages ∧ pipe.reader.returned = false ∧
      (wire pipe.writer = frames.flatten → pipe.transit = [] →
        pipe.reader.dispatched = messages) := by
  obtain ⟨-, chunks, ranReader, written⟩ := Pipe.exists_chunks grows silent ran
  have isRead : chunks.flatten <+: frames.flatten :=
    (List.prefix_append _ _).trans (written ▸ isPrefix)
  obtain ⟨framed, sized⟩ :=
    framed_of_reads feeds decodes intact ranReader isRead
  refine ⟨framed.isPrefix, not_returned framed sized fun frame member =>
    (fit frame member).2, fun isAll settled => ?_⟩
  rw [settled, List.append_nil, isAll] at written
  rw [written] at framed
  exact congrArg Prod.fst
    (framed.complete fun frame member => (fit frame member).1)

end Delivery

section Exchange

/-- Requests on their way to the Pod, and responses on their way back. -/
structure Exchange where
  requests : Pipe UInt8 WriteLoop (ReadLoop Received) :=
    { writer := .initial, reader := ReadLoop.start }
  responses : Pipe UInt8 Transmitter (ReadLoop InFrame) :=
    { writer := {}, reader := ReadLoop.start }

/-- The write loop of the Station or one of its senders does something, the Pod
reads, its handlers or its write loop go on, or the Station reads. -/
inductive Event
  | stationWrite (event : WriteLoop.Event)
  | podRead (count : Nat)
  | pod (event : TransmitterEvent)
  | stationRead (count : Nat)
  deriving DecidableEq

/-- A handler is only started for a request. -/
def IsSpawn : TransmitterEvent → Bool
  | .task (.spawn _) => true
  | _ => false

variable (encode : InFrame → List UInt8) (deviceInfo : InMessage)
  (processAll : List UInt8 → List Received × Nat) (read : FrameRead InFrame)

def requestStep :
    Pipe UInt8 WriteLoop (ReadLoop Received) → PipeEvent WriteLoop.Event →
      Option (Pipe UInt8 WriteLoop (ReadLoop Received)) :=
  Pipe.step WriteLoop.step WriteLoop.wire (clientRead processAll)

def responseStep :
    Pipe UInt8 Transmitter (ReadLoop InFrame) → PipeEvent TransmitterEvent →
      Option (Pipe UInt8 Transmitter (ReadLoop InFrame)) :=
  Pipe.step (Transmitter.step encode deviceInfo)
    (fun transmitter => transmitter.loop.wire) (stationRead read)

/-- The events that start the handlers of the requests that have just been
read. -/
def spawns (before after : ReadLoop Received) :
    List (PipeEvent TransmitterEvent) :=
  (after.dispatched.drop before.dispatched.length).map fun received =>
    .write (.task (.spawn received))

def step (exchange : Exchange) : Event → Option Exchange
  | .stationWrite event =>
      (requestStep processAll exchange.requests (.write event)).map
        fun requests => { exchange with requests }
  | .podRead count => do
      let requests ← requestStep processAll exchange.requests (.read count)
      let responses ← run (responseStep encode deviceInfo read)
        exchange.responses
        (spawns exchange.requests.reader requests.reader)
      return { requests, responses }
  | .pod event =>
      if IsSpawn event = true then none
      else
        (responseStep encode deviceInfo read exchange.responses
          (.write event)).map fun responses => { exchange with responses }
  | .stationRead count =>
      (responseStep encode deviceInfo read exchange.responses
        (.read count)).map fun responses => { exchange with responses }

/-- The results of the writes of the Station. -/
def stationResults (events : List Event) : List WriteResult :=
  events.filterMap fun
    | .stationWrite (.wrote result) => some result
    | _ => none

def podResults (events : List Event) : List WriteResult :=
  events.filterMap fun
    | .pod (.wrote result) => some result
    | _ => none

end Exchange

section Handlers

/-- The requests for which a handler has been started. -/
def handled (transmitter : Transmitter) : List Received :=
  transmitter.client.tasks.map CooperativeTask.tag

variable {encode : InFrame → List UInt8} {deviceInfo : InMessage}
  {read : FrameRead InFrame}

theorem map_set_of_eq {Item Key : Type*} {key : Item → Key} {items : List Item}
    {index : Nat} {old new : Item} (isAt : items[index]? = some old)
    (same : key new = key old) : (items.set index new).map key =
      items.map key := by
  rw [List.map_set, same]
  obtain ⟨inside, rfl⟩ := List.getElem?_eq_some_iff.mp isAt
  apply List.ext_getElem?
  intro other
  by_cases isOther : index = other
  · subst isOther
    simp [inside]
  · rw [List.getElem?_set_ne isOther]

theorem tags_of_step {client next : CooperativeTasks Received Volumes InMessage}
    {event : CooperativeTasks.Event Received}
    {taken : List (Received × InMessage)}
    (stepped : CooperativeTasks.step (handle deviceInfo) client event =
      some (next, taken))
    (noSpawn : ∀ received, event ≠ .spawn received) :
    next.tasks.map CooperativeTask.tag =
      client.tasks.map CooperativeTask.tag := by
  cases CooperativeTasks.stepped_of_step stepped with
  | spawned received => exact absurd rfl (noSpawn received)
  | resumed isTask ready => exact map_set_of_eq isTask rfl
  | timedOut isTask => exact map_set_of_eq isTask rfl
  | took isFirst isTask => exact map_set_of_eq isTask rfl

theorem handled_of_step {transmitter next : Transmitter}
    {event : TransmitterEvent}
    (stepped : Transmitter.step encode deviceInfo transmitter event =
      some next) (noSpawn : IsSpawn event = false) :
    handled next = handled transmitter := by
  cases event with
  | task event =>
      obtain ⟨⟨client, sent⟩, moved, rest⟩ := Option.bind_eq_some_iff.mp stepped
      obtain ⟨loop, _, isNext⟩ := Option.bind_eq_some_iff.mp rest
      obtain rfl := Option.some.inj isNext
      refine tags_of_step moved ?_
      rintro received rfl
      cases noSpawn
  | wrote result =>
      obtain ⟨loop, _, rfl⟩ := Option.map_eq_some_iff.mp stepped
      rfl
  | leave =>
      obtain ⟨loop, _, rfl⟩ := Option.map_eq_some_iff.mp stepped
      rfl

/-- Every request that arrives gets a handler of its own. -/
theorem handled_of_spawns {arrived : List Received}
    {pipe last : Pipe UInt8 Transmitter (ReadLoop InFrame)}
    (ran : run (responseStep encode deviceInfo read) pipe
      (arrived.map fun received => .write (.task (.spawn received))) =
        some last) :
    handled last.writer = handled pipe.writer ++ arrived := by
  induction arrived generalizing pipe with
  | nil =>
      obtain rfl := Option.some.inj ran
      exact (List.append_nil _).symm
  | cons received arrived ih =>
      obtain ⟨next, stepped, rest⟩ := run_cons_eq_some.mp ran
      simp only [responseStep, Pipe.step, Option.map_eq_some_iff] at stepped
      obtain ⟨writer, spawned, rfl⟩ := stepped
      obtain rfl := Option.some.inj spawned
      rw [ih rest, ← List.singleton_append, ← List.append_assoc]
      simp [handled]

end Handlers

section Projections

variable {encode : InFrame → List UInt8} {deviceInfo : InMessage}
  {processAll : List UInt8 → List Received × Nat} {read : FrameRead InFrame}

/-- The two pipes have run by themselves, and a handler has been started for
every request that has been read. -/
structure Linked (encode : InFrame → List UInt8) (deviceInfo : InMessage)
    (processAll : List UInt8 → List Received × Nat) (read : FrameRead InFrame)
    (events : List Event) (exchange : Exchange) : Prop where
  requests : ∃ pipeEvents,
    run (requestStep processAll) ({} : Exchange).requests pipeEvents =
        some exchange.requests ∧
      wroteResults (writes pipeEvents) = stationResults events
  responses : ∃ pipeEvents,
    run (responseStep encode deviceInfo read) ({} : Exchange).responses
        pipeEvents = some exchange.responses ∧
      results (writes pipeEvents) = podResults events
  handled : handled exchange.responses.writer =
    exchange.requests.reader.dispatched

theorem results_spawns (before after : ReadLoop Received) :
    results (writes (spawns before after)) = [] := by
  unfold spawns
  generalize after.dispatched.drop before.dispatched.length = arrived
  induction arrived with
  | nil => rfl
  | cons received arrived ih => exact ih

/-- The requests that are read are added to those before. -/
theorem dispatched_of_read {pipe next : Pipe UInt8 WriteLoop (ReadLoop Received)}
    {count : Nat} (stepped : requestStep processAll pipe (.read count) =
      some next) :
    next.reader.dispatched = pipe.reader.dispatched ++
      next.reader.dispatched.drop pipe.reader.dispatched.length := by
  simp only [requestStep, Pipe.step, Option.map_eq_some_iff] at stepped
  obtain ⟨reader, read, rfl⟩ := stepped
  have extended := congrArg Prod.fst (feeds_of_clientRead read).received
  simp only [feed] at extended
  rw [extended, List.drop_left]

theorem Linked.step {events : List Event} {exchange next : Exchange}
    {event : Event}
    (linked : Linked encode deviceInfo processAll read events exchange)
    (stepped : step encode deviceInfo processAll read exchange event =
      some next) :
    Linked encode deviceInfo processAll read (events ++ [event]) next := by
  obtain ⟨⟨requestEvents, ranRequests, sameRequests⟩,
    ⟨responseEvents, ranResponses, sameResponses⟩, handlers⟩ := linked
  cases event with
  | stationWrite event =>
      obtain ⟨requests, moved, rfl⟩ := Option.map_eq_some_iff.mp stepped
      refine ⟨⟨requestEvents ++ [.write event],
        run_concat_eq_some.mpr ⟨_, ranRequests, moved⟩, ?_⟩,
        ⟨responseEvents, ranResponses, ?_⟩, ?_⟩
      · rw [writes_concat, wroteResults_append, sameRequests, stationResults,
          stationResults, List.filterMap_append]
        cases event <;> rfl
      · rw [sameResponses, podResults, podResults, List.filterMap_append]
        exact (List.append_nil _).symm
      · simp only [requestStep, Pipe.step, Option.map_eq_some_iff] at moved
        obtain ⟨writer, _, rfl⟩ := moved
        exact handlers
  | podRead count =>
      obtain ⟨requests, moved, rest⟩ := Option.bind_eq_some_iff.mp stepped
      obtain ⟨responses, spawned, isNext⟩ := Option.bind_eq_some_iff.mp rest
      obtain rfl := Option.some.inj isNext
      refine ⟨⟨requestEvents ++ [.read count],
        run_concat_eq_some.mpr ⟨_, ranRequests, moved⟩, ?_⟩,
        ⟨responseEvents ++ spawns exchange.requests.reader requests.reader,
          run_append_eq_some.mpr ⟨_, ranResponses, spawned⟩, ?_⟩, ?_⟩
      · rw [writes_concat, writes_read, List.append_nil, sameRequests,
          stationResults, stationResults, List.filterMap_append]
        exact (List.append_nil _).symm
      · rw [writes, List.filterMap_append, results_append, podResults,
          List.filterMap_append]
        exact congrArg₂ _ sameResponses (results_spawns _ _)
      · rw [handled_of_spawns spawned, handlers, ← dispatched_of_read moved]
  | pod event =>
      simp only [StationPodLink.step] at stepped
      split at stepped
      case isTrue spawn => cases stepped
      case isFalse noSpawn =>
        obtain ⟨responses, moved, rfl⟩ := Option.map_eq_some_iff.mp stepped
        refine ⟨⟨requestEvents, ranRequests, ?_⟩,
          ⟨responseEvents ++ [.write event],
            run_concat_eq_some.mpr ⟨_, ranResponses, moved⟩, ?_⟩, ?_⟩
        · rw [sameRequests, stationResults, stationResults,
            List.filterMap_append]
          exact (List.append_nil _).symm
        · rw [writes_concat, results_append, sameResponses, podResults,
            podResults, List.filterMap_append]
          cases event <;> rfl
        · simp only [responseStep, Pipe.step, Option.map_eq_some_iff] at moved
          obtain ⟨writer, movedWriter, rfl⟩ := moved
          exact (handled_of_step movedWriter
            (Bool.eq_false_iff.mpr noSpawn)).trans handlers
  | stationRead count =>
      obtain ⟨responses, moved, rfl⟩ := Option.map_eq_some_iff.mp stepped
      refine ⟨⟨requestEvents, ranRequests, ?_⟩,
        ⟨responseEvents ++ [.read count],
          run_concat_eq_some.mpr ⟨_, ranResponses, moved⟩, ?_⟩, ?_⟩
      · rw [sameRequests, stationResults, stationResults,
          List.filterMap_append]
        exact (List.append_nil _).symm
      · rw [writes_concat, writes_read, List.append_nil, sameResponses,
          podResults, podResults, List.filterMap_append]
        exact (List.append_nil _).symm
      · simp only [responseStep, Pipe.step, Option.map_eq_some_iff] at moved
        obtain ⟨reader, _, rfl⟩ := moved
        exact handlers

theorem linked_new :
    Linked encode deviceInfo processAll read [] ({} : Exchange) where
  requests := ⟨[], run_nil _, rfl⟩
  responses := ⟨[], run_nil _, rfl⟩
  handled := by
    have noRequest : (ReadLoop.start : ReadLoop Received).dispatched = [] :=
      ReadLoop.continueWith_dispatched _ _
    exact noRequest.symm

theorem linked_of_run {events : List Event} {exchange : Exchange}
    (ran : run (StationPodLink.step encode deviceInfo processAll read) {}
      events = some exchange) :
    Linked encode deviceInfo processAll read events exchange :=
  history_of_run (Linked encode deviceInfo processAll read) linked_new
    (fun _ _ _ _ _ linked stepped => linked.step stepped) ran

end Projections

section MainResult

variable {encode : InFrame → List UInt8} {deviceInfo : InMessage}
  {processAll : List UInt8 → List Received × Nat} {read : FrameRead InFrame}
  {IntactRequest : List UInt8 → Received → Prop} {sync : List UInt8}
  {Intact : List UInt8 → InFrame → Prop} {frameLength : InFrame → Nat}

/-- Nothing of the requests is underway, and no write of one has failed. -/
def RequestsSettled (events : List Event) (exchange : Exchange) : Prop :=
  (∀ result ∈ stationResults events, result.error = none) ∧
    exchange.requests.writer.queue.buffered = [] ∧
    exchange.requests.writer.writing = none ∧ exchange.requests.transit = []

def ResponsesSettled (events : List Event) (exchange : Exchange) : Prop :=
  (∀ result ∈ podResults events, result.error = none) ∧
    exchange.responses.writer.loop.writing = none ∧
    exchange.responses.transit = []

theorem Written.queued_isPrefix {results : List WriteResult}
    {loop : WriteLoop} (written : Written results loop) :
    loop.wire <+: loop.queued.flatten := by
  rw [WriteLoop.queued, List.flatten_append]
  exact written.isPrefix.trans (List.prefix_append _ _)

theorem written_of_requests {events : List (PipeEvent WriteLoop.Event)}
    {pipe : Pipe UInt8 WriteLoop (ReadLoop Received)}
    (ran : run (requestStep processAll) ({} : Exchange).requests events =
      some pipe)
    (silent : SilentAfterFailure (wroteResults (writes events))) :
    Written (wroteResults (writes events)) pipe.writer :=
  written_of_run
    (Pipe.exists_chunks (fun _ _ _ => wire_prefix_of_step) rfl ran).1 silent

/-- What the Pod has put on its stream is a beginning of the frames that its
handlers have sent. -/
theorem written_of_responses {events : List (PipeEvent TransmitterEvent)}
    {pipe : Pipe UInt8 Transmitter (ReadLoop InFrame)}
    (ran : run (responseStep encode deviceInfo read) ({} : Exchange).responses
      events = some pipe)
    (silent : SilentAfterFailure (results (writes events))) :
    pipe.writer.loop.wire <+: (pipe.writer.sent.map encode).flatten ∧
      ((∀ result ∈ results (writes events), result.error = none) →
        pipe.writer.loop.writing = none →
          pipe.writer.loop.wire = (pipe.writer.sent.map encode).flatten) := by
  obtain ⟨⟨loopEvents, ranLoop, same⟩, taken, _, _⟩ := transmits_of_run
    (Pipe.exists_chunks (fun _ _ _ => wire_prefix_of_transmitter) rfl ran).1
  have written := written_of_run ranLoop (same ▸ silent)
  rw [same] at written
  rw [← taken]
  exact ⟨written.isPrefix, written.complete⟩

/-- The Pod starts one handler for each of the first requests that the Station
has queued, and the Station dispatches the first frames that the handlers have
sent, each once and in order.  Neither read loop ends for want of room.  When
nothing is underway, these are all requests and all frames. -/
theorem messages_in_order (requestsDecode : Decodes IntactRequest processAll)
    (contract : ReadContract read)
    (syncing : SyncContract read sync Intact frameLength)
    {events : List Event} {exchange : Exchange}
    (ran : run (step encode deviceInfo processAll read) {} events =
      some exchange)
    (stationSilent : SilentAfterFailure (stationResults events))
    (podSilent : SilentAfterFailure (podResults events))
    {queued : List Received}
    (requestsIntact : List.Forall₂ IntactRequest
      exchange.requests.writer.queued queued)
    (requestsFit : ∀ frame ∈ exchange.requests.writer.queued, Fits frame)
    (framesIntact : ∀ frame ∈ exchange.responses.writer.sent,
      Intact (encode frame) frame ∧ Fits (encode frame)) :
    handled exchange.responses.writer <+: queued ∧
      (RequestsSettled events exchange →
        handled exchange.responses.writer = queued) ∧
      exchange.responses.reader.dispatched <+:
        exchange.responses.writer.sent ∧
      (ResponsesSettled events exchange →
        exchange.responses.reader.dispatched =
          exchange.responses.writer.sent) ∧
      exchange.requests.reader.returned = false ∧
      exchange.responses.reader.returned = false := by
  obtain ⟨⟨requestEvents, ranRequests, sameRequests⟩,
    ⟨responseEvents, ranResponses, sameResponses⟩, handlers⟩ :=
    linked_of_run ran
  have requestsWritten := written_of_requests ranRequests
    (sameRequests ▸ stationSilent)
  have responsesWritten := written_of_responses ranResponses
    (sameResponses ▸ podSilent)
  rw [sameRequests] at requestsWritten
  rw [sameResponses] at responsesWritten
  obtain ⟨requestsOrdered, requestsGoOn, requestsAll⟩ :=
    delivers_of_run (fun _ _ _ => wire_prefix_of_step)
      (fun _ _ _ => feeds_of_clientRead) requestsDecode rfl ranRequests
      requestsIntact requestsFit requestsWritten.queued_isPrefix
  obtain ⟨responsesOrdered, responsesGoOn, responsesAll⟩ :=
    delivers_of_run (fun _ _ _ => wire_prefix_of_transmitter)
      (fun _ _ _ => feeds_of_stationRead contract)
      (decodes_drainAll contract syncing) rfl ranResponses
      (List.forall₂_map_left_iff.mpr (List.forall₂_same.mpr fun frame member =>
        (framesIntact frame member).1))
      (List.forall_mem_map.mpr fun frame member =>
        (framesIntact frame member).2) responsesWritten.1
  rw [handlers]
  refine ⟨requestsOrdered, ?_, responsesOrdered, ?_, requestsGoOn,
    responsesGoOn⟩
  · rintro ⟨noError, nothingQueued, idle, arrived⟩
    refine requestsAll ?_ arrived
    rw [requestsWritten.complete noError idle, WriteLoop.queued,
      nothingQueued, List.append_nil]
  · rintro ⟨noError, idle, arrived⟩
    exact responsesAll (responsesWritten.2 noError idle) arrived

end MainResult

section DocumentedFrames

open WireFrame

variable {Msg : Type*}

/-- The reader of the documented frames, for the messages that `parse` knows. -/
def readMessage (parse : List UInt8 → Option Msg) : FrameRead Msg :=
  fun bytes =>
    let result := WireFrame.read bytes
    if result.es ≠ .success then ⟨result.es, none, result.consumed⟩
    else
      match result.msg.bind parse with
      | some msg => ⟨.success, some msg, result.consumed⟩
      | none => ⟨.invalidMsgId, none, result.consumed⟩

/-- A well-formed frame around the content of a message. -/
def CarriesMessage (parse : List UInt8 → Option Msg) (frame : List UInt8)
    (msg : Msg) : Prop :=
  ∃ content, frame = encode content ∧ WellFormed content ∧
    parse content = some msg

/-- All messages at the front, as a loop over the reader finds them. -/
def readAll (read : FrameRead Msg) (bytes : List UInt8) : List Msg × Nat :=
  match ReadLoop.parseLoop read (bytes.length + 1)
    ⟨bytes, bytes.length, le_rfl⟩ with
  | some (messages, rx) => (messages, bytes.length - rx.validBytes)
  | none => ([], 0)

variable {parse : List UInt8 → Option Msg}

@[simp]
theorem readMessage_consumed (bytes : List UInt8) :
    (readMessage parse bytes).consumed = (WireFrame.read bytes).consumed := by
  unfold readMessage
  dsimp only
  split
  · rfl
  · split <;> rfl

theorem readMessage_of_failed {bytes : List UInt8}
    (failed : (WireFrame.read bytes).es ≠ .success) :
    (readMessage parse bytes).es = (WireFrame.read bytes).es := by
  simp [readMessage, failed]

theorem readMessage_success {bytes : List UInt8}
    (isSuccess : (readMessage parse bytes).es = .success) :
    (WireFrame.read bytes).es = .success ∧ ∃ content msg,
      (WireFrame.read bytes).msg = some content ∧ parse content = some msg ∧
        (readMessage parse bytes).msg = some msg := by
  unfold readMessage at isSuccess ⊢
  dsimp only at isSuccess ⊢
  split at isSuccess
  · next failed => exact absurd isSuccess failed
  · next success =>
      rw [if_neg success]
      split at isSuccess
      · next msg found =>
          obtain ⟨content, isContent, parsed⟩ :=
            Option.bind_eq_some_iff.mp found
          exact ⟨Decidable.not_not.mp success, content, msg, isContent, parsed,
            rfl⟩
      · cases isSuccess

theorem readContract_readMessage : ReadContract (readMessage parse) where
  nil_waits := rfl
  consumed_le bytes := by
    rw [readMessage_consumed]
    exact WireFrame.readContract.consumed_le bytes
  success_pos bytes success := by
    rw [readMessage_consumed]
    exact WireFrame.readContract.success_pos bytes
      (readMessage_success success).1

/-- The reader resynchronises as the one of the frames does, when the length
of a frame is determined by its message. -/
theorem syncContract_readMessage {contentLength : Msg → Nat}
    (sized : ∀ content msg, parse content = some msg →
      content.length = contentLength msg) :
    SyncContract (readMessage parse) sync (CarriesMessage parse)
      (fun msg => contentLength msg + 6) where
  sync_length := rfl
  short_waits bytes short := by
    have waiting := WireFrame.syncContract.short_waits bytes short
    rw [readMessage_of_failed (by simp [waiting]), waiting]
  noSync bytes long noSync := by
    obtain ⟨failed, consumed⟩ :=
      WireFrame.syncContract.noSync bytes long noSync
    rw [readMessage_of_failed (by simp [failed]), readMessage_consumed]
    exact ⟨failed, consumed⟩
  partial_waits frame msg bytes intact isPrefix proper := by
    obtain ⟨content, isFrame, wellFormed, _⟩ := intact
    have waiting := WireFrame.syncContract.partial_waits frame content bytes
      ⟨isFrame, wellFormed⟩ isPrefix proper
    rw [readMessage_of_failed (by simp [waiting]), waiting]
  intact_read frame msg bytes intact isPrefix := by
    obtain ⟨content, isFrame, wellFormed, parsed⟩ := intact
    have found := WireFrame.syncContract.intact_read frame content bytes
      ⟨isFrame, wellFormed⟩ isPrefix
    simp [readMessage, found, parsed]
  intact_length frame msg intact := by
    obtain ⟨content, rfl, _, parsed⟩ := intact
    rw [encode_length, frameLength, sized content msg parsed]
  success_length bytes msg success carries := by
    obtain ⟨succeeded, content, found, isContent, parsed, isFound⟩ :=
      readMessage_success success
    obtain rfl := Option.some.inj (isFound.symm.trans carries)
    rw [readMessage_consumed, ← sized content found parsed]
    exact WireFrame.syncContract.success_length bytes content succeeded
      isContent

theorem readAll_eq_drainAll {read : FrameRead Msg}
    (contract : ReadContract read) : readAll read = drainAll contract := by
  funext bytes
  obtain ⟨last, parsed, remainder, _⟩ := ReadLoop.parseLoop_drains contract
    (bytes.length + 1) ⟨bytes, bytes.length, le_rfl⟩ (Nat.lt_succ_self _)
  have isPending :
      (⟨bytes, bytes.length, le_rfl⟩ : RxBuffer).pending = bytes :=
    List.take_length
  rw [isPending] at parsed remainder
  rw [readAll, parsed, drainAll, ← remainder, RxBuffer.pending_length]

/-- The content of requests and responses without further fields. -/
def parseRequest : List UInt8 → Option Received
  | [0, 1, transactionId] => some ⟨.ping, transactionId⟩
  | [0, 2, transactionId] => some ⟨.emergencyStop, transactionId⟩
  | _ => none

def parseResponse : List UInt8 → Option InFrame
  | [0, 3, transactionId] => some ⟨transactionId, .pong⟩
  | [0, 4, transactionId] => some ⟨transactionId, .ack⟩
  | _ => none

theorem parseRequest_length {content : List UInt8} {received : Received}
    (parsed : parseRequest content = some received) : content.length = 3 := by
  unfold parseRequest at parsed
  split at parsed
  · rfl
  · rfl
  · cases parsed

theorem parseResponse_length {content : List UInt8} {frame : InFrame}
    (parsed : parseResponse content = some frame) : content.length = 3 := by
  unfold parseResponse at parsed
  split at parsed
  · rfl
  · rfl
  · cases parsed

theorem decodes_readAll : Decodes (CarriesMessage parseRequest)
    (readAll (readMessage parseRequest)) := by
  rw [readAll_eq_drainAll readContract_readMessage]
  apply decodes_drainAll
  exact syncContract_readMessage fun _ _ => parseRequest_length

def encodeResponse (frame : InFrame) : List UInt8 :=
  match frame.message with
  | .pong => encode [0, 3, frame.transactionId]
  | .ack => encode [0, 4, frame.transactionId]
  | _ => []

/-- A ping and an emergency stop: the Pod reads them in pieces and answers the
second one first. -/
def pingAndStop : List Event :=
  [.stationWrite (.send (encode [0, 1, 5])), .stationWrite .take,
    .stationWrite (.send (encode [0, 2, 6])),
    .stationWrite (.wrote ⟨none, 9⟩), .stationWrite .take,
    .stationWrite (.wrote ⟨none, 9⟩), .podRead 4, .podRead 10, .podRead 4,
    .pod (.task (.resume 0)), .pod (.task (.resume 1)),
    .pod (.task (.timer 1)), .pod (.task (.resume 1)), .pod (.task .take),
    .pod (.wrote ⟨none, 9⟩), .pod (.task (.timer 0)),
    .pod (.task (.resume 0)), .pod (.task .take), .stationRead 7,
    .pod (.wrote ⟨none, 9⟩), .stationRead 100]

/-- Both requests are handled, and both responses are dispatched. -/
theorem messages_in_order_pingAndStop :
    ∃ exchange,
      run (step encodeResponse .pong (readAll (readMessage parseRequest))
        (readMessage parseResponse)) {} pingAndStop = some exchange ∧
      handled exchange.responses.writer =
        [⟨.ping, 5⟩, ⟨.emergencyStop, 6⟩] ∧
      exchange.responses.reader.dispatched = [⟨6, .ack⟩, ⟨5, .pong⟩] := by
  have ended : (run (step encodeResponse .pong
      (readAll (readMessage parseRequest)) (readMessage parseResponse)) {}
      pingAndStop).any (fun exchange =>
        exchange.requests.writer.taken = [encode [0, 1, 5], encode [0, 2, 6]] ∧
        exchange.requests.writer.queue.buffered = [] ∧
        exchange.requests.writer.writing = none ∧
        exchange.requests.transit = [] ∧
        exchange.responses.writer.sent = [⟨6, .ack⟩, ⟨5, .pong⟩] ∧
        exchange.responses.writer.loop.writing = none ∧
        exchange.responses.transit = []) = true := by
    decide +kernel
  obtain ⟨exchange, ran, holds⟩ := (Option.any_eq_true _ _).mp ended
  obtain ⟨isTaken, noneBuffered, noneWriting, noRequest, isSent, noneLeft,
    noResponse⟩ := of_decide_eq_true holds
  have noStationError :
      ∀ result ∈ stationResults pingAndStop, result.error = none := by
    decide
  have noPodError :
      ∀ result ∈ podResults pingAndStop, result.error = none := by
    decide
  have requestsIntact : List.Forall₂ (CarriesMessage parseRequest)
      exchange.requests.writer.queued
      [⟨.ping, 5⟩, ⟨.emergencyStop, 6⟩] := by
    rw [WriteLoop.queued, isTaken, noneBuffered]
    exact .cons ⟨_, rfl, by decide, rfl⟩ (.cons ⟨_, rfl, by decide, rfl⟩ .nil)
  have requestsFit : ∀ frame ∈ exchange.requests.writer.queued,
      Fits frame := by
    rw [WriteLoop.queued, isTaken, noneBuffered]
    decide
  have framesIntact : ∀ frame ∈ exchange.responses.writer.sent,
      CarriesMessage parseResponse (encodeResponse frame) frame ∧
        Fits (encodeResponse frame) := by
    rw [isSent]
    rintro frame member
    rcases List.mem_pair.mp member with rfl | rfl
    · exact ⟨⟨_, rfl, by decide, rfl⟩, by decide⟩
    · exact ⟨⟨_, rfl, by decide, rfl⟩, by decide⟩
  obtain ⟨-, allHandled, -, allDispatched, -, -⟩ := messages_in_order
    decodes_readAll readContract_readMessage
    (syncContract_readMessage fun _ _ => parseResponse_length) ran
    (silentAfterFailure_of_noError noStationError)
    (silentAfterFailure_of_noError noPodError) requestsIntact requestsFit
    framesIntact
  refine ⟨exchange, ran, ?_, ?_⟩
  · exact allHandled ⟨noStationError, noneBuffered, noneWriting, noRequest⟩
  · rw [allDispatched ⟨noPodError, noneLeft, noResponse⟩, isSent]

end DocumentedFrames

end StationPodLink

end CocktailMaker
