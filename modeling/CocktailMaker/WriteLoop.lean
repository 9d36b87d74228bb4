import CocktailMaker.LabelledRun
import Mathlib.Data.List.Basic

/-!
# The write loop of a Pod session

`async_send` queues serialised frames, and `write_loop` writes them to the
stream one after the other.  It means to give up when a write throws, but the
stream drops the tuple with the error code, so a write that failed looks like
one that succeeded and the next frame follows whatever part of the last one
went out.
-/

namespace CocktailMaker

open LabelledRun

/-- `kWriteQueueCapacity`. -/
def kWriteQueueCapacity : Nat := 10

/-- The channel between the senders and the write loop.  A sender that finds
the buffer full waits. -/
structure WriteQueue where
  buffered : List (List UInt8)
  waiting : List (List UInt8)
  closed : Bool
  deriving DecidableEq

namespace WriteQueue

/-- `async_send` on the channel; a closed channel throws. -/
def asyncSend (queue : WriteQueue) (frame : List UInt8) : Option WriteQueue :=
  if queue.closed then none
  else if queue.buffered.length < kWriteQueueCapacity then
    some { queue with buffered := queue.buffered ++ [frame] }
  else some { queue with waiting := queue.waiting ++ [frame] }

/-- A sender that waits is stopped. -/
def cancelSend (queue : WriteQueue) (position : Nat) : WriteQueue :=
  { queue with waiting := queue.waiting.eraseIdx position }

/-- `async_receive` on the channel: the oldest frame leaves the buffer and the
first waiting sender takes its place. -/
def asyncReceive (queue : WriteQueue) : Option (List UInt8 × WriteQueue) :=
  match queue.buffered with
  | [] => none
  | frame :: rest =>
      some (frame, { queue with
        buffered := rest ++ queue.waiting.take 1
        waiting := queue.waiting.drop 1 })

def close (queue : WriteQueue) : WriteQueue :=
  { queue with waiting := [], closed := true }

theorem asyncReceive_buffered {queue next : WriteQueue} {frame : List UInt8}
    (received : queue.asyncReceive = some (frame, next)) :
    queue.buffered <+: frame :: next.buffered := by
  unfold asyncReceive at received
  split at received
  · cases received
  · next bufferedEq =>
      cases received
      rw [bufferedEq, ← List.cons_append]
      exact List.prefix_append _ _

end WriteQueue

/-- Why a stream write ended early. -/
inductive WriteError
  | connectionLost
  | operationAborted
  deriving DecidableEq

/-- The tuple that `asio::async_write` completes with. -/
structure WriteResult where
  error : Option WriteError
  bytesTransferred : Nat
  deriving DecidableEq

/-- A write reports at most the bytes of its buffer, and all of them when it
reports no error. -/
def WriteResult.Fits (result : WriteResult) (frame : List UInt8) : Prop :=
  result.bytesTransferred ≤ frame.length ∧
    (result.error = none → result.bytesTransferred = frame.length)

instance (result : WriteResult) (frame : List UInt8) :
    Decidable (result.Fits frame) :=
  inferInstanceAs (Decidable (_ ∧ _))

/-- The queue, every frame that was taken out of it, the frame being written
and the bytes on the wire. -/
structure WriteLoop where
  queue : WriteQueue
  taken : List (List UInt8)
  writing : Option (List UInt8)
  wire : List UInt8
  running : Bool
  deriving DecidableEq

namespace WriteLoop

/-- A session that has just been started. -/
def initial : WriteLoop := ⟨⟨[], [], false⟩, [], none, [], true⟩

/-- Every frame that the queue has accepted, in queue order. -/
def queued (loop : WriteLoop) : List (List UInt8) :=
  loop.taken ++ loop.queue.buffered

/-- `SocketIoStream::async_write`: the tuple is dropped, so the task completes
without an exception whatever it says. -/
def asyncWrite (_ : WriteResult) : Except WriteError Unit :=
  .ok ()

/-- The rest of an iteration of `write_loop`, once the stream is done. -/
def afterWrite (loop : WriteLoop) (frame : List UInt8)
    (result : WriteResult) : WriteLoop :=
  let wire := loop.wire ++ frame.take result.bytesTransferred
  match asyncWrite result with
  | .ok () => { loop with writing := none, wire }
  | .error _ => { loop with writing := none, wire, running := false }

/-- What the senders, the stream and the loop can do.  The loop leaves when
its receive throws on the closed queue or is stopped. -/
inductive Event
  | send (frame : List UInt8)
  | cancelSend (position : Nat)
  | close
  | take
  | wrote (result : WriteResult)
  | leave
  deriving DecidableEq

def step (loop : WriteLoop) : Event → Option WriteLoop
  | .send frame =>
      (loop.queue.asyncSend frame).map fun queue => { loop with queue }
  | .cancelSend position =>
      some { loop with queue := loop.queue.cancelSend position }
  | .close => some { loop with queue := loop.queue.close }
  | .take =>
      if loop.running = true ∧ loop.writing = none then
        loop.queue.asyncReceive.map fun (frame, queue) =>
          { loop with
            queue, taken := loop.taken ++ [frame], writing := some frame }
      else none
  | .wrote result =>
      match loop.writing with
      | some frame =>
          if result.Fits frame then some (loop.afterWrite frame result)
          else none
      | none => none
  | .leave =>
      if loop.running = true ∧ loop.writing = none then
        some { loop with running := false }
      else none

/-- The bytes on the wire are always a prefix of the queued frames, and a
write that failed or was cut short is the last one that writes. -/
def FrameAligned (events : List Event) : Prop :=
  Always step (fun loop => loop.wire <+: loop.queued.flatten) initial events ∧
    ∀ before result after middle last,
      events = before ++ .wrote result :: after → result.error ≠ none →
        run step initial (before ++ [.wrote result]) = some middle →
          run step initial events = some last → last.wire = middle.wire

/-- Once a write has failed, the stream accepts nothing of later frames. -/
def SilentAfterError (events : List Event) : Prop :=
  ∀ before result after, events = before ++ .wrote result :: after →
    result.error ≠ none →
      ∀ later, .wrote later ∈ after → later.bytesTransferred = 0

section Steps

variable {loop next : WriteLoop}

/-- Only a write puts bytes on the wire, and it starts no other frame. -/
theorem step_wrote {result : WriteResult}
    (stepped : step loop (.wrote result) = some next) :
    ∃ frame, loop.writing = some frame ∧ result.Fits frame ∧
      next = { loop with
        writing := none
        wire := loop.wire ++ frame.take result.bytesTransferred } := by
  simp only [step] at stepped
  split at stepped
  · next frame writing =>
      split at stepped
      · next fits =>
          cases stepped
          exact ⟨frame, writing, fits, rfl⟩
      · cases stepped
  · cases stepped

theorem step_take (stepped : step loop .take = some next) :
    ∃ frame, loop.writing = none ∧ next.writing = some frame ∧
      next.taken = loop.taken ++ [frame] ∧ next.wire = loop.wire ∧
      loop.queue.buffered <+: frame :: next.queue.buffered := by
  simp only [step, Option.ite_none_right_eq_some, Option.map_eq_some_iff]
    at stepped
  obtain ⟨⟨_, idle⟩, ⟨frame, queue⟩, received, rfl⟩ := stepped
  exact ⟨frame, idle, rfl, rfl, rfl,
    WriteQueue.asyncReceive_buffered received⟩

theorem step_other {event : Event} (stepped : step loop event = some next)
    (notTake : event ≠ .take) (notWrote : ∀ result, event ≠ .wrote result) :
    next.taken = loop.taken ∧ next.writing = loop.writing ∧
      next.wire = loop.wire := by
  cases event with
  | send frame =>
      simp only [step, Option.map_eq_some_iff] at stepped
      obtain ⟨_, _, rfl⟩ := stepped
      exact ⟨rfl, rfl, rfl⟩
  | cancelSend position =>
      cases stepped
      exact ⟨rfl, rfl, rfl⟩
  | close =>
      cases stepped
      exact ⟨rfl, rfl, rfl⟩
  | take => exact absurd rfl notTake
  | wrote result => exact absurd rfl (notWrote result)
  | leave =>
      simp only [step, Option.ite_none_right_eq_some] at stepped
      obtain ⟨_, left⟩ := stepped
      cases left
      exact ⟨rfl, rfl, rfl⟩

theorem wire_eq_of_not_wrote {event : Event}
    (stepped : step loop event = some next)
    (notWrote : ∀ result, event ≠ .wrote result) : next.wire = loop.wire := by
  by_cases take : event = .take
  · subst take
    obtain ⟨_, _, _, _, same, _⟩ := step_take stepped
    exact same
  · exact (step_other stepped take notWrote).2.2

theorem wire_length_of_step {event : Event}
    (stepped : step loop event = some next) :
    loop.wire.length ≤ next.wire.length ∧
      ∀ result, event = .wrote result →
        next.wire.length = loop.wire.length + result.bytesTransferred := by
  by_cases wrote : ∃ result, event = .wrote result
  · obtain ⟨result, rfl⟩ := wrote
    obtain ⟨frame, _, fits, rfl⟩ := step_wrote stepped
    have count : (frame.take result.bytesTransferred).length =
        result.bytesTransferred := List.length_take_of_le fits.1
    simp [count]
  · rw [wire_eq_of_not_wrote stepped fun result isWrote =>
      wrote ⟨result, isWrote⟩]
    exact ⟨Nat.le_refl _, fun result isWrote => absurd ⟨result, isWrote⟩ wrote⟩

theorem wire_eq_of_step {event : Event}
    (stepped : step loop event = some next)
    (silent : ∀ result, event = .wrote result → result.bytesTransferred = 0) :
    next.wire = loop.wire := by
  by_cases wrote : ∃ result, event = .wrote result
  · obtain ⟨result, rfl⟩ := wrote
    obtain ⟨_, _, _, rfl⟩ := step_wrote stepped
    simp [silent result rfl]
  · exact wire_eq_of_not_wrote stepped fun result isWrote =>
      wrote ⟨result, isWrote⟩

end Steps

section Runs

theorem wire_length_le_of_run {start last : WriteLoop} {events : List Event}
    (ran : run step start events = some last) :
    start.wire.length ≤ last.wire.length :=
  invariant_of_run (fun loop =>
      start.wire.length ≤ loop.wire.length)
    (fun _ _ _ bound stepped =>
      Nat.le_trans bound (wire_length_of_step stepped).1)
    (Nat.le_refl _) ran

theorem wire_eq_of_run {start last : WriteLoop} {events : List Event}
    (ran : run step start events = some last)
    (silent : ∀ later, .wrote later ∈ events → later.bytesTransferred = 0) :
    last.wire = start.wire := by
  induction events using List.reverseRecOn generalizing last with
  | nil =>
      rw [run_nil, Option.some.injEq] at ran
      rw [ran]
  | append_singleton events event ih =>
      obtain ⟨middle, ranBefore, stepped⟩ := run_concat_eq_some.mp ran
      rw [wire_eq_of_step stepped, ih ranBefore]
      · intro later member
        exact silent later (List.mem_append_left _ member)
      · rintro result rfl
        exact silent result (List.mem_concat_self)

theorem SilentAfterError.of_prefix {shorter events : List Event}
    (silent : SilentAfterError events) (isPrefix : shorter <+: events) :
    SilentAfterError shorter := by
  obtain ⟨rest, rfl⟩ := isPrefix
  rintro before result after rfl failed later member
  exact silent before result (after ++ rest) (by simp) failed later
    (List.mem_append_left _ member)

/-- No write of the run has failed so far. -/
def NoErrorYet (events : List Event) : Prop :=
  ∀ result, .wrote result ∈ events → result.error = none

/-- What is on the wire: all frames taken so far, but for the one being
written, as long as no write has failed, and a prefix of them in any case. -/
structure Aligned (events : List Event) (loop : WriteLoop) : Prop where
  complete : NoErrorYet events →
    ∃ done, loop.taken = done ++ loop.writing.toList ∧
      loop.wire = done.flatten
  isPrefix : loop.wire <+: loop.taken.flatten

theorem NoErrorYet.of_concat {events : List Event} {event : Event}
    (noError : NoErrorYet (events ++ [event])) : NoErrorYet events :=
  fun result member => noError result (List.mem_append_left _ member)

theorem aligned_wrote {events : List Event} {loop next : WriteLoop}
    {result : WriteResult} (aligned : Aligned events loop)
    (silent : SilentAfterError (events ++ [.wrote result]))
    (stepped : step loop (.wrote result) = some next) :
    Aligned (events ++ [.wrote result]) next := by
  obtain ⟨frame, writing, fits, rfl⟩ := step_wrote stepped
  by_cases noError : NoErrorYet events
  · obtain ⟨done, takenEq, wireEq⟩ := aligned.complete noError
    simp only [writing, Option.toList_some] at takenEq
    constructor
    · intro noErrorNow
      have whole := fits.2 (noErrorNow result List.mem_concat_self)
      exact ⟨done ++ [frame], by simpa using takenEq,
        by simp [wireEq, whole]⟩
    · simp only [takenEq, wireEq, List.flatten_append, List.flatten_singleton,
        List.prefix_append_right_inj]
      exact List.take_prefix _ _
  · have silentNow : result.bytesTransferred = 0 := by
      simp only [NoErrorYet, not_forall] at noError
      obtain ⟨failure, member, failed⟩ := noError
      obtain ⟨before, after, rfl⟩ := List.append_of_mem member
      exact silent before failure (after ++ [.wrote result]) (by simp) failed
        result List.mem_concat_self
    constructor
    · exact fun noErrorNow => absurd noErrorNow.of_concat noError
    · simpa [silentNow] using aligned.isPrefix

theorem aligned_take {events : List Event} {loop next : WriteLoop}
    (aligned : Aligned events loop) (stepped : step loop .take = some next) :
    Aligned (events ++ [.take]) next := by
  obtain ⟨frame, idle, writing, takenEq, wireEq, _⟩ := step_take stepped
  constructor
  · intro noError
    obtain ⟨done, takenBefore, wireBefore⟩ :=
      aligned.complete noError.of_concat
    refine ⟨done, ?_, by rw [wireEq, wireBefore]⟩
    rw [takenEq, takenBefore, idle, writing, Option.toList_none,
      Option.toList_some, List.append_nil]
  · rw [wireEq, takenEq, List.flatten_append]
    exact aligned.isPrefix.trans (List.prefix_append _ _)

theorem aligned_of_run {events : List Event} {last : WriteLoop}
    (silent : SilentAfterError events)
    (ran : run step initial events = some last) : Aligned events last := by
  refine history_of_run
    (fun events loop => SilentAfterError events → Aligned events loop)
    (fun _ => ⟨fun _ => ⟨[], rfl, rfl⟩, List.prefix_rfl⟩) ?_ ran silent
  intro events loop event next _ ih stepped silent
  have aligned := ih (silent.of_prefix (List.prefix_append _ _))
  by_cases wrote : ∃ result, event = .wrote result
  · obtain ⟨result, rfl⟩ := wrote
    exact aligned_wrote aligned silent stepped
  · by_cases take : event = .take
    · subst take
      exact aligned_take aligned stepped
    · obtain ⟨takenEq, writingEq, wireEq⟩ := step_other stepped take
        fun result isWrote => wrote ⟨result, isWrote⟩
      constructor
      · intro noError
        rw [takenEq, writingEq, wireEq]
        exact aligned.complete noError.of_concat
      · rw [takenEq, wireEq]
        exact aligned.isPrefix

/-- A later write that still transfers bytes lengthens the wire. -/
theorem silentAfterError_of_frameAligned {events : List Event}
    {last : WriteLoop} (ran : run step initial events = some last)
    (aligned : FrameAligned events) : SilentAfterError events := by
  rintro before result after rfl failed later member
  obtain ⟨mid, rest, rfl⟩ := List.append_of_mem member
  have split : before ++ .wrote result :: (mid ++ .wrote later :: rest) =
      (before ++ [.wrote result]) ++ mid ++ .wrote later :: rest := by simp
  rw [split] at ran
  obtain ⟨beforeLater, ranBeforeLater, ranRest⟩ := run_append_eq_some.mp ran
  obtain ⟨afterFailure, ranFailure, ranMid⟩ :=
    run_append_eq_some.mp ranBeforeLater
  obtain ⟨afterLater, stepped, ranEnd⟩ := run_cons_eq_some.mp ranRest
  have nothingFurther := aligned.2 before result _ afterFailure last rfl failed
    ranFailure (by rw [split]; exact ran)
  have grown := (wire_length_of_step stepped).2 later rfl
  have boundMid := wire_length_le_of_run ranMid
  have boundEnd := wire_length_le_of_run ranEnd
  rw [nothingFurther] at boundEnd
  omega

/-- In every run, the outgoing bytes stay aligned with the queued frames
exactly when the stream accepts no byte after a write that failed or was cut
short. -/
theorem frameAligned_iff {events : List Event} {last : WriteLoop}
    (ran : run step initial events = some last) :
    FrameAligned events ↔ SilentAfterError events := by
  constructor
  · exact silentAfterError_of_frameAligned ran
  · intro silent
    constructor
    · intro visited loop isPrefix ranVisited
      have aligned := aligned_of_run (silent.of_prefix isPrefix) ranVisited
      rw [queued, List.flatten_append]
      exact aligned.isPrefix.trans (List.prefix_append _ _)
    · rintro before result after middle end_ rfl failed ranBefore ranAll
      rw [← List.singleton_append, ← List.append_assoc] at ranAll
      obtain ⟨_, ranBefore', ranAfter⟩ := run_append_eq_some.mp ranAll
      rw [ranBefore] at ranBefore'
      cases ranBefore'
      exact wire_eq_of_run ranAfter (silent before result after rfl failed)

/-- One frame goes out whole, the next one is cut short, and the loop finds
nothing else to write. -/
theorem frameAligned_one_timeout :
    FrameAligned [.send [171, 205, 1], .take, .wrote ⟨none, 3⟩,
        .send [171, 205, 2], .take, .wrote ⟨some .operationAborted, 1⟩] ↔
      SilentAfterError [.send [171, 205, 1], .take, .wrote ⟨none, 3⟩,
        .send [171, 205, 2], .take, .wrote ⟨some .operationAborted, 1⟩] :=
  frameAligned_iff
    (show _ = some ⟨⟨[], [], false⟩, [[171, 205, 1], [171, 205, 2]], none,
      [171, 205, 1, 171], true⟩ by decide)

/-- A frame is cut short by the timeout and the next one follows it: the wire
is no prefix of the queued frames. -/
theorem not_frameAligned_after_timeout :
    ¬ ∀ events last, run step initial events = some last →
      FrameAligned events := by
  intro aligned
  have ran : run step initial [.send [171, 205, 1], .send [171, 205, 2],
        .take, .wrote ⟨some .operationAborted, 1⟩, .take, .wrote ⟨none, 3⟩] =
      some ⟨⟨[], [], false⟩, [[171, 205, 1], [171, 205, 2]], none,
        [171, 171, 205, 2], true⟩ := by decide
  have notPrefix := (aligned _ _ ran).1 _ _ List.prefix_rfl ran
  exact absurd notPrefix (by decide)

end Runs

section Queue

end Queue

end WriteLoop

end CocktailMaker
