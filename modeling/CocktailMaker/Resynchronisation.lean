import CocktailMaker.ReadLoop

/-!
# Finding the next frame behind noise

After an error the receive loop drops the bytes the frame reader has advanced
over.  The reader advances over a whole Sync field before it compares it, so
noise is dropped two bytes at a time.  The start of a frame behind the noise
is tried exactly when the noise has even length; a frame that is longer than
the largest buffer is never completed.
-/

namespace CocktailMaker

open IncrementalParsing

namespace ReadLoop

variable {Msg : Type*}

/-- No offset inside `noise` starts an occurrence of the marker. -/
def NoMarker (sync noise frame : List UInt8) : Prop :=
  ∀ offset < noise.length, ¬ sync <+: (noise ++ frame).drop offset

/-- `chunks` are the reads of the loop on `stream`: they stop at the end of
the stream, unless the loop returns before. -/
structure ReadsStream (read : FrameRead Msg) (stream : List UInt8)
    (chunks : List (List UInt8)) (loop : ReadLoop Msg) : Prop where
  ran : runReads read chunks = some loop
  isPrefix : chunks.flatten <+: stream
  complete : chunks.flatten = stream ∨ loop.returned = true

section Resynchronisation

variable {read : FrameRead Msg} {sync : List UInt8}
variable {Intact : List UInt8 → Msg → Prop} {frameLength : Msg → Nat}
variable (contract : ReadContract read)
variable (syncing : SyncContract read sync Intact frameLength)

include syncing in
theorem attempt_of_short {valid : List UInt8} (short : valid.length < 2) :
    attempt read valid = none := by
  simp [attempt, syncing.short_waits valid short]

include syncing in
theorem attempt_of_noSync {valid : List UInt8} (long : 2 ≤ valid.length)
    (noSync : ¬ sync <+: valid) : attempt read valid = some (none, 2) := by
  obtain ⟨status, consumed⟩ := syncing.noSync valid long noSync
  simp [attempt, status, consumed, skipCount]

include syncing in
theorem attempt_of_waits {frame valid : List UInt8} {msg : Msg}
    (intact : Intact frame msg) (isPrefix : valid <+: frame)
    (proper : valid ≠ frame) : attempt read valid = none := by
  simp [attempt, syncing.partial_waits frame msg valid intact isPrefix proper]

include syncing in
theorem attempt_of_intact {frame : List UInt8} {msg : Msg}
    (intact : Intact frame msg) :
    attempt read frame = some (some msg, frame.length) := by
  simp [attempt, syncing.intact_read frame msg frame intact
    (List.prefix_refl frame)]

include contract syncing in
theorem frameLength_le_of_attempt {valid : List UInt8} {msg : Msg}
    {count : Nat} (attempted : attempt read valid = some (some msg, count)) :
    frameLength msg ≤ valid.length := by
  simp only [attempt] at attempted
  split at attempted
  · cases attempted
  · split at attempted
    · cases attempted
    · next success =>
        split at attempted <;> cases attempted
        next carries =>
          have bounded := contract.consumed_le valid
          have fits :=
            syncing.success_length valid msg (not_not.mp success) carries
          omega

include syncing in
theorem frameLength_le_of_mem_drain (valid : List UInt8) :
    ∀ msg ∈ ((frontParser contract).drain valid).1,
      frameLength msg ≤ valid.length := by
  fun_induction FrontParser.drain (frontParser contract) valid with
  | case1 valid waits =>
      intro msg member
      cases member
  | case2 valid output count attempted later ih =>
      intro msg member
      rcases List.mem_append.mp member with now | behind
      · obtain rfl := Option.mem_toList.mp now
        exact frameLength_le_of_attempt contract syncing attempted
      · have fits := ih msg behind
        rw [List.length_drop] at fits
        exact fits.trans (Nat.sub_le _ _)

/-- The first even offset that is not inside the noise. -/
def syncOffset (noise : List UInt8) : Nat :=
  2 * ((noise.length + 1) / 2)

include syncing in
/-- Draining from an even offset inside the noise arrives at the first even
offset behind it, or at a last single byte. -/
theorem drain_skips_noise {noise frame received : List UInt8}
    (noMarker : NoMarker sync noise frame)
    (isPrefix : received <+: noise ++ frame) (offset : Nat)
    (even : offset % 2 = 0) (inside : offset ≤ syncOffset noise)
    (within : offset ≤ received.length) :
    ∃ reached, reached % 2 = 0 ∧ reached ≤ syncOffset noise ∧
      reached ≤ received.length ∧
      (reached < syncOffset noise → received.length < reached + 2) ∧
      (frontParser contract).drain (received.drop offset) =
        (frontParser contract).drain (received.drop reached) := by
  induction distance : received.length - offset using Nat.strongRecOn
    generalizing offset with
  | ind distanceLeft ih =>
      by_cases arrived : offset = syncOffset noise
      · exact ⟨offset, even, inside, within, by omega, rfl⟩
      by_cases short : received.length < offset + 2
      · exact ⟨offset, even, inside, within, fun _ => short, rfl⟩
      have insideNoise : offset < noise.length := by
        simp only [syncOffset] at inside arrived
        omega
      have noSync : ¬ sync <+: received.drop offset := fun marker =>
        noMarker offset insideNoise (marker.trans (isPrefix.drop offset))
      have long : 2 ≤ (received.drop offset).length := by
        rw [List.length_drop]
        omega
      have skips : (frontParser contract).attempt (received.drop offset) =
          some (none, 2) := attempt_of_noSync syncing long noSync
      have target : offset + 2 ≤ syncOffset noise := by
        simp only [syncOffset] at inside arrived ⊢
        omega
      obtain ⟨reached, reachedEven, reachedInside, reachedWithin, waits,
          sameDrain⟩ :=
        ih (received.length - (offset + 2)) (by omega) (offset + 2)
          (by omega) target (by omega) rfl
      refine ⟨reached, reachedEven, reachedInside, reachedWithin, waits, ?_⟩
      rw [FrontParser.drain_of_attempt skips, ← sameDrain, List.drop_drop]
      simp

/-- The loop behind even noise: it waits inside the noise or has the received
part of the frame pending; with the whole frame it has handed it on. -/
structure BehindEvenNoise (noise frame : List UInt8) (msg : Msg)
    (received : List UInt8) (loop : ReadLoop Msg) : Prop where
  waiting : received ≠ noise ++ frame → loop.dispatched = [] ∧
    ∃ offset, offset % 2 = 0 ∧ offset ≤ noise.length ∧
      offset ≤ received.length ∧
      (offset < noise.length → received.length < offset + 2) ∧
      loop.rx.pending = received.drop offset
  handedOn : received = noise ++ frame →
    loop.dispatched = [msg] ∧ frame.length ≤ kMaxBufferSize

/-- The loop behind odd noise: it waits inside the noise, or it has dropped the
first byte of the frame and handed on only messages that are too short. -/
def BehindOddNoise (frameLength : Msg → Nat) (noise frame received : List UInt8)
    (loop : ReadLoop Msg) : Prop :=
  (∀ msg ∈ loop.dispatched, frameLength msg < frame.length) ∧
    ((∃ offset, offset % 2 = 0 ∧ offset < syncOffset noise ∧
        offset ≤ received.length ∧ received.length < offset + 2 ∧
        loop.rx.pending = received.drop offset) ∨
      (syncOffset noise ≤ received.length ∧
        loop.rx.pending <:+ received.drop (syncOffset noise)))

include syncing in
theorem frame_ne_nil {frame : List UInt8} {msg : Msg}
    (intact : Intact frame msg) : frame ≠ [] := by
  rintro rfl
  have atFrame := attempt_of_intact syncing intact
  rw [attempt_of_short syncing (by simp)] at atFrame
  cases atFrame

include syncing in
theorem drain_of_short {valid : List UInt8} (short : valid.length < 2) :
    (frontParser contract).drain valid = ([], valid) :=
  FrontParser.drain_of_waits (attempt_of_short syncing short)

include syncing in
theorem drain_of_incomplete {frame valid : List UInt8} {msg : Msg}
    (intact : Intact frame msg) (isPrefix : valid <+: frame)
    (proper : valid ≠ frame) :
    (frontParser contract).drain valid = ([], valid) :=
  FrontParser.drain_of_waits (attempt_of_waits syncing intact isPrefix proper)

include syncing in
theorem drain_of_intact {frame : List UInt8} {msg : Msg}
    (intact : Intact frame msg) :
    (frontParser contract).drain frame = ([msg], []) := by
  have takes : (frontParser contract).attempt frame =
      some (some msg, frame.length) := attempt_of_intact syncing intact
  rw [FrontParser.drain_of_attempt takes, List.drop_length,
    drain_of_short contract syncing (by simp)]
  rfl

include contract syncing in
/-- A read behind a remainder inside the noise: the loop arrives at the first
even offset behind the noise, or keeps a last single byte of the noise. -/
theorem step_inside_noise {noise frame received chunk : List UInt8}
    {loop next : ReadLoop Msg} (noMarker : NoMarker sync noise frame)
    (isPrefix : received ++ chunk <+: noise ++ frame) {offset : Nat}
    (even : offset % 2 = 0) (inside : offset ≤ syncOffset noise)
    (within : offset ≤ received.length)
    (pendingEq : loop.rx.pending = received.drop offset)
    (stepped : step read loop (.received chunk) = some next) :
    (syncOffset noise ≤ (received ++ chunk).length ∧
        next.dispatched = loop.dispatched ++ ((frontParser contract).drain
          ((received ++ chunk).drop (syncOffset noise))).1 ∧
        next.rx.pending = ((frontParser contract).drain
          ((received ++ chunk).drop (syncOffset noise))).2) ∨
      ∃ reached, reached % 2 = 0 ∧ reached < syncOffset noise ∧
        reached ≤ (received ++ chunk).length ∧
        (received ++ chunk).length < reached + 2 ∧
        next.dispatched = loop.dispatched ∧
        next.rx.pending = (received ++ chunk).drop reached := by
  obtain ⟨handed, remainder⟩ := step_drains contract stepped
  have withinNow : offset ≤ (received ++ chunk).length := by
    rw [List.length_append]
    omega
  obtain ⟨reached, reachedEven, reachedInside, reachedWithin, waits,
      sameDrain⟩ :=
    drain_skips_noise contract syncing noMarker isPrefix offset even inside
      withinNow
  rw [pendingEq, ← List.drop_append_of_le_length within, sameDrain]
    at handed remainder
  by_cases arrived : reached = syncOffset noise
  · subst arrived
    exact .inl ⟨reachedWithin, handed, remainder⟩
  · have short := waits (Nat.lt_of_le_of_ne reachedInside arrived)
    have singleByte : ((received ++ chunk).drop reached).length < 2 := by
      rw [List.length_drop]
      omega
    rw [drain_of_short contract syncing singleByte] at handed remainder
    rw [List.append_nil] at handed
    exact .inr ⟨reached, reachedEven,
      Nat.lt_of_le_of_ne reachedInside arrived, reachedWithin, short, handed,
      remainder⟩

theorem eq_of_drop_eq {noise frame received : List UInt8}
    (isPrefix : received <+: noise ++ frame)
    (behind : noise.length ≤ received.length)
    (whole : received.drop noise.length = frame) :
    received = noise ++ frame := by
  apply isPrefix.eq_of_length
  rw [List.length_append, ← whole, List.length_drop]
  omega

theorem length_le_of_pending {loop : ReadLoop Msg} {chunk : List UInt8}
    (sized : Sized loop) (fits : chunk.length ≤ loop.rx.free) :
    (loop.rx.pending ++ chunk).length ≤ kMaxBufferSize := by
  have limit := sized.size_le
  have valid := loop.rx.validBytes_le
  rw [List.length_append, RxBuffer.pending_length]
  simp only [RxBuffer.free, RxBuffer.size] at fits limit
  omega

include contract syncing in
theorem behindEvenNoise_step {noise frame received chunk : List UInt8}
    {msg : Msg} {loop next : ReadLoop Msg} (intact : Intact frame msg)
    (noMarker : NoMarker sync noise frame) (even : noise.length % 2 = 0)
    (sized : Sized loop)
    (isPrefix : received ++ chunk <+: noise ++ frame)
    (before : BehindEvenNoise noise frame msg received loop)
    (stepped : step read loop (.received chunk) = some next) :
    BehindEvenNoise noise frame msg (received ++ chunk) next := by
  obtain ⟨_, nonempty, fits⟩ := received_of_step stepped
  have notYet : received ≠ noise ++ frame := by
    rintro rfl
    have tooLong := isPrefix.length_le
    have positive := List.length_pos_iff.mpr nonempty
    simp only [List.length_append] at tooLong
    omega
  obtain ⟨nothing, offset, offsetEven, inside, within, _, pendingEq⟩ :=
    before.waiting notYet
  have target : syncOffset noise = noise.length := by
    simp only [syncOffset]
    omega
  rcases step_inside_noise contract syncing noMarker isPrefix offsetEven
    (target ▸ inside) within pendingEq stepped with
    ⟨behind, handed, remainder⟩ |
      ⟨reached, reachedEven, short, reachedWithin, waits, handed, remainder⟩
  · -- The front of the buffer is the received part of the frame.
    rw [target] at behind handed remainder
    rw [nothing, List.nil_append] at handed
    have front : (received ++ chunk).drop noise.length <+: frame := by
      simpa using isPrefix.drop noise.length
    by_cases whole : (received ++ chunk).drop noise.length = frame
    · have complete := eq_of_drop_eq isPrefix behind whole
      refine ⟨fun differs => absurd complete differs, fun _ => ⟨?_, ?_⟩⟩
      · rw [handed, whole, drain_of_intact contract syncing intact]
      · have inBuffer := length_le_of_pending sized fits
        rw [pendingEq, ← List.drop_append_of_le_length within, complete,
          List.length_drop, List.length_append] at inBuffer
        omega
    · rw [drain_of_incomplete contract syncing intact front whole]
        at handed remainder
      refine ⟨fun _ => ⟨handed, noise.length, even, Nat.le_refl _, behind,
        fun below => absurd below (Nat.lt_irrefl _), remainder⟩,
        fun complete => ?_⟩
      exact absurd (by rw [complete, List.drop_left]) whole
  · -- At most one byte of the noise is left in the buffer.
    rw [target] at short
    refine ⟨fun _ => ⟨handed.trans nothing, reached, reachedEven,
      Nat.le_of_lt short, reachedWithin, fun _ => waits, remainder⟩,
      fun complete => ?_⟩
    have framePos := List.length_pos_iff.mpr (frame_ne_nil syncing intact)
    rw [complete, List.length_append] at waits
    omega

include contract syncing in
/-- A message that a read hands on is shorter than a frame that does not fit
into the drained bytes. -/
theorem tooShort_step {frame drained : List UInt8} {loop next : ReadLoop Msg}
    (tooShort : ∀ msg ∈ loop.dispatched, frameLength msg < frame.length)
    (handed : next.dispatched =
      loop.dispatched ++ ((frontParser contract).drain drained).1)
    (shorter : drained.length < frame.length) :
    ∀ msg ∈ next.dispatched, frameLength msg < frame.length := by
  intro msg member
  rw [handed, List.mem_append] at member
  rcases member with old | new
  · exact tooShort msg old
  · exact Nat.lt_of_le_of_lt
      (frameLength_le_of_mem_drain contract syncing drained msg new) shorter

include contract syncing in
theorem behindOddNoise_step {noise frame received chunk : List UInt8}
    {loop next : ReadLoop Msg}
    (noMarker : NoMarker sync noise frame) (odd : noise.length % 2 = 1)
    (isPrefix : received ++ chunk <+: noise ++ frame)
    (before : BehindOddNoise frameLength noise frame received loop)
    (stepped : step read loop (.received chunk) = some next) :
    BehindOddNoise frameLength noise frame (received ++ chunk) next := by
  have target : syncOffset noise = noise.length + 1 := by
    simp only [syncOffset]
    omega
  -- Behind the noise the first byte of the frame is missing.
  have frameTail : ((received ++ chunk).drop (syncOffset noise)).length <
      frame.length ∨ (received ++ chunk).length < syncOffset noise := by
    have streamLength := isPrefix.length_le
    have total : (noise ++ frame).length = noise.length + frame.length :=
      List.length_append
    rw [List.length_drop]
    omega
  obtain ⟨tooShort, inNoise | ⟨behind, suffix⟩⟩ := before
  · obtain ⟨offset, offsetEven, inside, within, _, pendingEq⟩ := inNoise
    rcases step_inside_noise contract syncing noMarker isPrefix offsetEven
      (Nat.le_of_lt inside) within pendingEq stepped with
      ⟨behindNow, handed, remainder⟩ |
        ⟨reached, reachedEven, short, reachedWithin, waits, handed, remainder⟩
    · refine ⟨tooShort_step contract syncing tooShort handed
        (frameTail.resolve_right (Nat.not_lt.mpr behindNow)),
        .inr ⟨behindNow, ?_⟩⟩
      rw [remainder]
      exact FrontParser.drain_snd_suffix _
    · exact ⟨handed ▸ tooShort, .inl ⟨reached, reachedEven, short,
        reachedWithin, waits, remainder⟩⟩
  · obtain ⟨handed, remainder⟩ := step_drains contract stepped
    have stillSuffix : loop.rx.pending ++ chunk <:+
        (received ++ chunk).drop (syncOffset noise) := by
      obtain ⟨dropped, split⟩ := suffix
      rw [List.drop_append_of_le_length behind, ← split]
      exact ⟨dropped, by simp⟩
    have behindNow : syncOffset noise ≤ (received ++ chunk).length := by
      rw [List.length_append]
      omega
    refine ⟨tooShort_step contract syncing tooShort handed
      (Nat.lt_of_le_of_lt stillSuffix.length_le
        (frameTail.resolve_right (Nat.not_lt.mpr behindNow))),
      .inr ⟨behindNow, ?_⟩⟩
    rw [remainder]
    exact (FrontParser.drain_snd_suffix _).trans stillSuffix

include contract syncing in
theorem behindEvenNoise_of_reads {noise frame : List UInt8} {msg : Msg}
    (intact : Intact frame msg) (noMarker : NoMarker sync noise frame)
    (even : noise.length % 2 = 0) {chunks : List (List UInt8)}
    {loop : ReadLoop Msg} (ran : runReads read chunks = some loop)
    (isPrefix : chunks.flatten <+: noise ++ frame) :
    BehindEvenNoise noise frame msg chunks.flatten loop := by
  revert isPrefix
  apply runReads_induction (fun chunks loop =>
    chunks.flatten <+: noise ++ frame →
      BehindEvenNoise noise frame msg chunks.flatten loop) _ _ ran
  · intro _
    refine ⟨fun _ => ⟨continueWith_dispatched _ _, 0, rfl, Nat.zero_le _,
      Nat.zero_le _, fun _ => by simp, by simp [start]⟩, fun complete => ?_⟩
    have empty : noise ++ frame = [] := complete.symm
    exact absurd (List.append_eq_nil_iff.mp empty).2
      (frame_ne_nil syncing intact)
  · intro chunks loop chunk next ranBefore fact stepped isPrefix
    rw [List.flatten_append, List.flatten_singleton] at isPrefix ⊢
    have before := fact ((List.prefix_append _ _).trans isPrefix)
    exact behindEvenNoise_step contract syncing intact noMarker even
      (sized_of_runReads contract ranBefore) isPrefix before stepped

include contract syncing in
theorem behindOddNoise_of_reads {noise frame : List UInt8}
    (noMarker : NoMarker sync noise frame) (odd : noise.length % 2 = 1)
    {chunks : List (List UInt8)} {loop : ReadLoop Msg}
    (ran : runReads read chunks = some loop)
    (isPrefix : chunks.flatten <+: noise ++ frame) :
    BehindOddNoise frameLength noise frame chunks.flatten loop := by
  revert isPrefix
  apply runReads_induction (fun chunks loop =>
    chunks.flatten <+: noise ++ frame →
      BehindOddNoise frameLength noise frame chunks.flatten loop) _ _ ran
  · intro _
    refine ⟨by simp [start], .inl ⟨0, rfl, ?_, Nat.zero_le _, by simp,
      by simp [start]⟩⟩
    simp only [syncOffset]
    omega
  · intro chunks loop chunk next _ fact stepped isPrefix
    rw [List.flatten_append, List.flatten_singleton] at isPrefix ⊢
    have before := fact ((List.prefix_append _ _).trans isPrefix)
    exact behindOddNoise_step contract syncing noMarker odd isPrefix before
      stepped

include contract syncing in
theorem not_mem_dispatched_of_odd {noise frame : List UInt8} {msg : Msg}
    (intact : Intact frame msg) (noMarker : NoMarker sync noise frame)
    (odd : noise.length % 2 = 1) {chunks : List (List UInt8)}
    {loop : ReadLoop Msg}
    (reads : ReadsStream read (noise ++ frame) chunks loop) :
    msg ∉ loop.dispatched := by
  intro member
  have tooShort := (behindOddNoise_of_reads contract syncing noMarker odd
    reads.ran reads.isPrefix).1 msg member
  rw [syncing.intact_length frame msg intact] at tooShort
  exact Nat.lt_irrefl _ tooShort

include contract syncing in
/-- Behind even noise a frame that fits into the largest buffer is read to its
end: the loop does not return before. -/
theorem complete_of_even {noise frame : List UInt8} {msg : Msg}
    (intact : Intact frame msg) (noMarker : NoMarker sync noise frame)
    (even : noise.length % 2 = 0) (fits : frame.length ≤ kMaxBufferSize)
    {chunks : List (List UInt8)} {loop : ReadLoop Msg}
    (reads : ReadsStream read (noise ++ frame) chunks loop) :
    chunks.flatten = noise ++ frame := by
  rcases reads.complete with complete | returned
  · exact complete
  by_contra incomplete
  obtain ⟨_, offset, _, inside, within, waits, pendingEq⟩ :=
    (behindEvenNoise_of_reads contract syncing intact noMarker even reads.ran
      reads.isPrefix).waiting incomplete
  obtain ⟨isFull, atLimit⟩ := (sized_of_runReads contract reads.ran).full returned
  have pendingLength := congrArg List.length pendingEq
  rw [RxBuffer.pending_length, isFull, atLimit, List.length_drop]
    at pendingLength
  have shorter : chunks.flatten.length < (noise ++ frame).length :=
    Nat.lt_of_le_of_ne reads.isPrefix.length_le fun same =>
      incomplete (reads.isPrefix.eq_of_length same)
  rw [List.length_append] at shorter
  simp only [kMaxBufferSize] at pendingLength fits
  omega

include contract syncing in
/-- The message of the frame behind the noise is handed to the dispatch step
exactly when the noise has even length and the frame fits into the largest
buffer. -/
theorem frame_dispatched_iff {noise frame : List UInt8} {msg : Msg}
    (intact : Intact frame msg) (noMarker : NoMarker sync noise frame)
    {chunks : List (List UInt8)} {loop : ReadLoop Msg}
    (reads : ReadsStream read (noise ++ frame) chunks loop) :
    msg ∈ loop.dispatched ↔
      noise.length % 2 = 0 ∧ frame.length ≤ kMaxBufferSize := by
  constructor
  · intro member
    have even : noise.length % 2 = 0 := by
      by_contra notEven
      exact not_mem_dispatched_of_odd contract syncing intact noMarker
        (by omega) reads member
    have behind := behindEvenNoise_of_reads contract syncing intact noMarker
      even reads.ran reads.isPrefix
    by_cases complete : chunks.flatten = noise ++ frame
    · exact ⟨even, (behind.handedOn complete).2⟩
    · rw [(behind.waiting complete).1] at member
      cases member
  · rintro ⟨even, fits⟩
    have complete := complete_of_even contract syncing intact noMarker even fits
      reads
    have behind := behindEvenNoise_of_reads contract syncing intact noMarker
      even reads.ran reads.isPrefix
    rw [(behind.handedOn complete).1]
    exact List.mem_singleton_self msg

end Resynchronisation

section DocumentedFrames

open WireFrame

/-- Two zero bytes in front of a frame, in one read: the frame is found. -/
theorem frame_dispatched_after_two_bytes :
    ∃ loop, ReadsStream WireFrame.read ([0, 0] ++ encode [0, 1, 212])
      [[0, 0] ++ encode [0, 1, 212]] loop ∧ [0, 1, 212] ∈ loop.dispatched := by
  have oneRead : ∀ chunk ∈ [[0, 0] ++ encode [0, 1, 212]], chunk ≠ [] := by
    simp
  obtain ⟨loop, ran, _⟩ := exists_runReads WireFrame.readContract oneRead
    (by simp [encode, sync, field16])
  have reads : ReadsStream WireFrame.read ([0, 0] ++ encode [0, 1, 212])
      [[0, 0] ++ encode [0, 1, 212]] loop := ⟨ran, by simp, .inl (by simp)⟩
  have noMarker : NoMarker sync [0, 0] (encode [0, 1, 212]) := by
    intro offset inside
    simp only [List.length_cons, List.length_nil] at inside
    obtain rfl | rfl : offset = 0 ∨ offset = 1 := by omega
    · simp [sync]
    · simp [sync]
  refine ⟨loop, reads, (frame_dispatched_iff WireFrame.readContract
    WireFrame.syncContract ⟨rfl, by decide⟩ noMarker reads).mpr ⟨rfl, ?_⟩⟩
  simp [encode_length, frameLength, kMaxBufferSize]

/-- One zero byte in front of a frame: the reader has the properties that the
loop relies on, and still the frame is lost. -/
theorem frame_lost_after_one_byte :
    ReadContract WireFrame.read ∧
    SyncContract WireFrame.read sync
      (fun frame content => frame = encode content ∧ WellFormed content)
      frameLength ∧
    ¬ ∀ noise content chunks loop, WellFormed content →
      NoMarker sync noise (encode content) →
      ReadsStream WireFrame.read (noise ++ encode content) chunks loop →
        content ∈ loop.dispatched := by
  refine ⟨WireFrame.readContract, WireFrame.syncContract, fun found => ?_⟩
  have oneRead : ∀ chunk ∈ [[0] ++ encode [0, 1, 212]], chunk ≠ [] := by
    simp
  obtain ⟨loop, ran, _⟩ := exists_runReads WireFrame.readContract oneRead
    (by simp [encode, sync, field16])
  have reads : ReadsStream WireFrame.read ([0] ++ encode [0, 1, 212])
      [[0] ++ encode [0, 1, 212]] loop := ⟨ran, by simp, .inl (by simp)⟩
  have noMarker : NoMarker sync [0] (encode [0, 1, 212]) := by
    intro offset inside
    simp only [List.length_cons, List.length_nil] at inside
    obtain rfl : offset = 0 := by omega
    simp [sync]
  exact not_mem_dispatched_of_odd WireFrame.readContract WireFrame.syncContract
    ⟨rfl, by decide⟩ noMarker rfl reads
    (found [0] [0, 1, 212] _ loop (by decide) noMarker reads)

end DocumentedFrames

end ReadLoop

end CocktailMaker
