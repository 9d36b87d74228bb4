import CocktailMaker.Resynchronisation

/-!
# Frames that do not fit the receive buffer

The buffer of the receive loop grows up to 65536 bytes.  A frame takes four
bytes more than its Size field says, so a Size above 65532 announces a frame
that never fits: the loop fills its buffer, still waits for the rest, and ends.
Nothing else makes it reach the limit.
-/

namespace CocktailMaker

open IncrementalParsing LabelledRun

namespace ReadLoop

variable {Msg : Type*}

/-- What the generated reader is assumed to do with a buffer: away from the
marker it reports an error, and at the marker it waits for as many bytes as
the Size field announces and then reports a status. -/
structure SizeContract (read : FrameRead Msg) (sync : List UInt8) : Prop where
  sync_length : sync.length = 2
  noSync : ∀ bytes, 2 ≤ bytes.length → ¬ sync <+: bytes →
    (read bytes).es ≠ .notEnoughData
  waits_iff : ∀ high low rest,
    (read (sync ++ high :: low :: rest)).es = .notEnoughData ↔
      rest.length < UInt8.toNat high * 256 + UInt8.toNat low

/-- The bytes begin with a frame whose Size does not fit the buffer. -/
def Oversized (sync bytes : List UInt8) : Prop :=
  ∃ high low rest, bytes = sync ++ high :: low :: rest ∧
    kMaxBufferSize < 4 + (UInt8.toNat high * 256 + UInt8.toNat low)

/-- The branch that reports that the buffer limit is exceeded has ended the
loop.  Any other end leaves free space. -/
def EndedAtLimit (loop : ReadLoop Msg) : Prop :=
  loop.returned = true ∧ loop.rx.validBytes = loop.rx.size

/-- The buffer has room for what has been received and for the next read. -/
structure HasRoom (loop : ReadLoop Msg) : Prop where
  validBytes_le : loop.rx.validBytes ≤ loop.rx.size
  size_eq : ∃ doublings, loop.rx.size = 4096 * 2 ^ doublings
  size_le : loop.rx.size ≤ 65536
  nonempty : loop.returned = false → 0 < loop.rx.free
  unlimited : ¬ EndedAtLimit loop

/-- The bytes that are buffered with a read do not fill the largest buffer
with a frame that does not fit. -/
def FitsBuffer (sync : List UInt8) (loop : ReadLoop Msg) :
    ReadCompletion → Prop
  | .failed => True
  | .received chunk =>
      ¬ (kMaxBufferSize ≤ (loop.rx.pending ++ chunk).length ∧
        Oversized sync (loop.rx.pending ++ chunk))

/-- The size of the buffer is 4096 doubled a few times, and a loop that has
not returned can read. -/
structure Buffered (loop : ReadLoop Msg) : Prop where
  size_eq : ∃ doublings ≤ 4, loop.rx.size = 4096 * 2 ^ doublings
  running : loop.returned = false → loop.rx.validBytes < loop.rx.size

variable {read : FrameRead Msg} {sync : List UInt8}

theorem Buffered.size_le {loop : ReadLoop Msg} (buffered : Buffered loop) :
    loop.rx.size ≤ kMaxBufferSize := by
  obtain ⟨doublings, few, sizeEq⟩ := buffered.size_eq
  have bounded : 2 ^ doublings ≤ 2 ^ 4 := Nat.pow_le_pow_right (by omega) few
  simp only [kMaxBufferSize]
  omega

theorem Buffered.hasRoom_iff {loop : ReadLoop Msg} (buffered : Buffered loop) :
    HasRoom loop ↔ ¬ EndedAtLimit loop := by
  refine ⟨HasRoom.unlimited, fun unlimited => ?_⟩
  obtain ⟨doublings, -, sizeEq⟩ := buffered.size_eq
  refine ⟨loop.rx.validBytes_le, ⟨doublings, sizeEq⟩, buffered.size_le,
    fun running => ?_, unlimited⟩
  exact Nat.sub_pos_of_lt (buffered.running running)

theorem Sized.buffered {loop : ReadLoop Msg} (sized : Sized loop) :
    Buffered loop :=
  ⟨sized.size_eq, sized.running⟩

theorem buffered_start : Buffered (start : ReadLoop Msg) :=
  (sized_continueWith [] ⟨0, by omega, by simp⟩).buffered

theorem buffered_step (contract : ReadContract read) {loop next : ReadLoop Msg}
    {completion : ReadCompletion} (buffered : Buffered loop)
    (stepped : step read loop completion = some next) : Buffered next := by
  cases completion with
  | failed =>
      simp only [step] at stepped
      split at stepped
      · cases stepped
      · cases stepped
        refine ⟨buffered.size_eq, fun running => ?_⟩
        cases running
  | received chunk =>
      obtain ⟨running, nonempty, fits⟩ := received_of_step stepped
      obtain ⟨parsed, isNext, -, sizeEq⟩ :=
        step_received contract running nonempty fits
      rw [isNext, Option.some.injEq] at stepped
      subst stepped
      exact (sized_continueWith _ (sizeEq ▸ buffered.size_eq)).buffered

theorem attempt_eq_none {valid : List UInt8} :
    attempt read valid = none ↔ (read valid).es = .notEnoughData := by
  unfold attempt
  constructor
  · intro waits
    by_contra decided
    simp only [if_neg decided] at waits
    split at waits
    · cases waits
    · split at waits <;> cases waits
  · exact fun waits => if_pos waits

/-- A full buffer makes the reader wait only for a frame that does not fit. -/
theorem waits_full_iff (sizes : SizeContract read sync) {bytes : List UInt8}
    (full : bytes.length = kMaxBufferSize) :
    attempt read bytes = none ↔ Oversized sync bytes := by
  rw [attempt_eq_none]
  constructor
  · intro waits
    obtain ⟨rest, rfl⟩ : sync <+: bytes := by
      by_contra noSync
      exact sizes.noSync bytes (by rw [full]; decide) noSync waits
    match rest with
    | [] =>
        rw [List.append_nil, sizes.sync_length] at full
        cases full
    | [_] =>
        rw [List.length_append, sizes.sync_length] at full
        cases full
    | high :: low :: body =>
        refine ⟨high, low, body, rfl, ?_⟩
        have short := (sizes.waits_iff high low body).mp waits
        simp only [List.length_append, List.length_cons, sizes.sync_length]
          at full
        omega
  · rintro ⟨high, low, rest, rfl, tooLong⟩
    refine (sizes.waits_iff high low rest).mpr ?_
    simp only [List.length_append, List.length_cons, sizes.sync_length]
      at full
    omega

theorem endedAtLimit_continueWith {rx : RxBuffer} (dispatched : List Msg) :
    EndedAtLimit (continueWith rx dispatched) ↔
      rx.validBytes = rx.size ∧ kMaxBufferSize ≤ rx.size := by
  unfold continueWith ensureFree EndedAtLimit
  by_cases isFull : rx.validBytes = rx.size
  · by_cases atLimit : kMaxBufferSize ≤ rx.size
    · simp [isFull, atLimit]
    · simp [isFull, atLimit]
  · simp [isFull]

theorem drain_snd_eq_self {parser : FrontParser UInt8 Msg}
    {pending : List UInt8} (same : (parser.drain pending).2 = pending) :
    parser.attempt pending = none := by
  rw [← same]
  exact parser.attempt_drain_snd pending

/-- A read ends the loop at the limit exactly when a frame that does not fit
fills the buffer. -/
theorem endedAtLimit_received (contract : ReadContract read)
    (sizes : SizeContract read sync) {loop next : ReadLoop Msg}
    {chunk : List UInt8} (buffered : Buffered loop)
    (stepped : step read loop (.received chunk) = some next) :
    EndedAtLimit next ↔
      kMaxBufferSize ≤ (loop.rx.pending ++ chunk).length ∧
        Oversized sync (loop.rx.pending ++ chunk) := by
  obtain ⟨running, nonempty, fits⟩ := received_of_step stepped
  obtain ⟨parsed, isNext, remainder, sizeEq⟩ :=
    step_received contract running nonempty fits
  rw [isNext, Option.some.injEq] at stepped
  subst stepped
  have limited := buffered.size_le
  have inside := loop.rx.validBytes_le
  have held : (loop.rx.pending ++ chunk).length ≤ loop.rx.size := by
    simp only [RxBuffer.free] at fits
    simp only [List.length_append, RxBuffer.pending_length, RxBuffer.size]
      at fits ⊢
    omega
  have isSuffix : parsed.pending <:+ loop.rx.pending ++ chunk := by
    rw [remainder]
    exact FrontParser.drain_snd_suffix _
  have shorter := isSuffix.length_le
  have parsedLength := parsed.pending_length
  rw [endedAtLimit_continueWith, sizeEq]
  constructor
  · rintro ⟨isFull, atLimit⟩
    have full : (loop.rx.pending ++ chunk).length = kMaxBufferSize := by
      omega
    have waits := drain_snd_eq_self
      (remainder.symm.trans (isSuffix.eq_of_length (by omega)))
    exact ⟨full.ge, (waits_full_iff sizes full).mp waits⟩
  · rintro ⟨filled, oversized⟩
    have full : (loop.rx.pending ++ chunk).length = kMaxBufferSize := by
      omega
    have waits : (frontParser contract).attempt (loop.rx.pending ++ chunk) =
        none := (waits_full_iff sizes full).mpr oversized
    have kept : parsed.pending = loop.rx.pending ++ chunk := by
      rw [remainder, FrontParser.drain_of_waits waits]
    rw [kept] at parsedLength
    omega

theorem hasRoom_start : HasRoom (start : ReadLoop Msg) := by
  rw [buffered_start.hasRoom_iff, start, endedAtLimit_continueWith,
    RxBuffer.size_initial]
  exact fun full => absurd full.2 (by decide)

theorem hasRoom_step (contract : ReadContract read)
    (sizes : SizeContract read sync) {loop next : ReadLoop Msg}
    {completion : ReadCompletion} (buffered : Buffered loop)
    (stepped : step read loop completion = some next) :
    HasRoom next ↔ FitsBuffer sync loop completion := by
  rw [(buffered_step contract buffered stepped).hasRoom_iff]
  cases completion with
  | failed =>
      refine iff_of_true ?_ trivial
      simp only [step] at stepped
      split at stepped
      · cases stepped
      · next running =>
          cases stepped
          have free := buffered.running (by simpa using running)
          exact fun ended => absurd ended.2 (Nat.ne_of_lt free)
  | received chunk =>
      exact not_congr (endedAtLimit_received contract sizes buffered stepped)

/-- The buffer always has room, and the loop never ends at its limit, exactly
when no read fills the buffer with a frame that does not fit. -/
theorem hasRoom_iff_fitsBuffer (contract : ReadContract read)
    (sizes : SizeContract read sync) (completions : List ReadCompletion) :
    Always (step read) HasRoom start completions ↔
      EveryStep (step read) (FitsBuffer sync) start completions :=
  always_iff_everyStep
    (fun _ _ _ buffered _ stepped => buffered_step contract buffered stepped)
    (fun _ _ _ buffered _ stepped =>
      hasRoom_step contract sizes buffered stepped)
    buffered_start hasRoom_start

/-- The reads of a stream that comes byte by byte. -/
def bytewise (stream : List UInt8) : List (List UInt8) :=
  stream.map fun byte => [byte]

/-- While the reader waits, the buffer keeps all bytes that have come. -/
theorem runReads_bytewise (contract : ReadContract read)
    {stream : List UInt8}
    (waits : ∀ received, received <+: stream → attempt read received = none)
    (short : stream.length ≤ kMaxBufferSize) :
    ∃ loop, runReads read (bytewise stream) = some loop ∧
      loop.rx.pending = stream := by
  induction stream using List.reverseRecOn with
  | nil => exact ⟨start, rfl, by simp [start]⟩
  | append_singleton stream byte ih =>
      rw [List.length_append, List.length_singleton] at short
      obtain ⟨loop, ran, kept⟩ := ih
        (fun received isPrefix =>
          waits received (isPrefix.trans (List.prefix_append _ _)))
        (by omega)
      have sized := sized_of_runReads contract ran
      have received := loop.rx.pending_length
      rw [kept] at received
      have running : loop.returned = false := by
        by_contra returned
        obtain ⟨isFull, atLimit⟩ := sized.full (by simpa using returned)
        omega
      obtain ⟨parsed, stepped, remainder, -⟩ :=
        step_received contract running (List.cons_ne_nil byte [])
          (Nat.sub_pos_of_lt (sized.running running))
      have waitsNow : (frontParser contract).attempt (stream ++ [byte]) =
          none := waits _ List.prefix_rfl
      rw [kept, FrontParser.drain_of_waits waitsNow] at remainder
      have ranNext := runReads_concat.mpr ⟨loop, ran, stepped⟩
      rw [bytewise, List.map_append, List.map_singleton]
      exact ⟨_, ranNext, (continueWith_pending _ _).trans remainder⟩

end ReadLoop

namespace WireFrame

theorem sizeContract : ReadLoop.SizeContract read sync where
  sync_length := rfl
  noSync bytes long noSync := by
    rw [(syncContract.noSync bytes long noSync).1]
    decide
  waits_iff high low rest := by
    by_cases short : rest.length < high.toNat * 256 + low.toNat
    · simp [read, sync, short, waits]
    · refine iff_of_false ?_ short
      simp only [read, sync, List.cons_append, List.nil_append, ne_eq,
        not_true_eq_false, if_false, if_neg short]
      split <;> simp

end WireFrame

namespace ReadLoop

theorem hasRoom_iff_fitsBuffer_frame :
    Always (step WireFrame.read) HasRoom start
        [.received (WireFrame.encode [0, 1, 212])] ↔
      EveryStep (step WireFrame.read) (FitsBuffer WireFrame.sync) start
        [.received (WireFrame.encode [0, 1, 212])] :=
  hasRoom_iff_fitsBuffer WireFrame.readContract WireFrame.sizeContract _

/-- The beginning of a frame with the largest Size, as much of it as the
buffer holds. -/
def largestFrame : List UInt8 :=
  WireFrame.sync ++ 0xff :: 0xff :: List.replicate 65532 0

theorem largestFrame_length : largestFrame.length = kMaxBufferSize := by
  rw [largestFrame, List.length_append, List.length_cons, List.length_cons,
    List.length_replicate]
  rfl

theorem largestFrame_waits {received : List UInt8}
    (isPrefix : received <+: largestFrame) :
    attempt WireFrame.read received = none := by
  obtain ⟨rest, whole⟩ := isPrefix
  have waits : (WireFrame.read largestFrame).es = .notEnoughData := by
    refine (WireFrame.sizeContract.waits_iff _ _ _).mpr ?_
    rw [List.length_replicate]
    decide
  rw [attempt_eq_none]
  by_contra decided
  rw [← whole, WireFrame.prefixStable received rest decided] at waits
  exact decided waits

/-- The loop ends within a frame with the largest Size. -/
theorem not_hasRoom_largestFrame :
    ¬ Always (step WireFrame.read) HasRoom start
      ((bytewise largestFrame).map .received) := by
  intro always
  obtain ⟨loop, ran, kept⟩ := runReads_bytewise WireFrame.readContract
    (fun received => largestFrame_waits) largestFrame_length.le
  have room := always _ loop List.prefix_rfl ran
  have sized := sized_of_runReads WireFrame.readContract ran
  have received := loop.rx.pending_length
  rw [kept, largestFrame_length] at received
  cases returned : loop.returned with
  | true => exact room.unlimited ⟨returned, (sized.full returned).1⟩
  | false =>
      have free := sized.running returned
      have limited := sized.size_le
      omega

end ReadLoop

end CocktailMaker
