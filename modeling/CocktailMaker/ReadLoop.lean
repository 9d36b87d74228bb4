import CocktailMaker.FrameReader
import CocktailMaker.IncrementalParsing
import CocktailMaker.LabelledRun
import CocktailMaker.ReceiveBuffer
import Mathlib.Algebra.Group.Nat.Defs

/-!
# The receive loop of a Pod session

`read_loop` alternates between reading bytes into its buffer and parsing
frames from the front of it.  The generated frame reader is a parameter: one
call reports a status, a message and how far it advanced.  The concrete loop,
with its vector, its moved bytes and its growth by doubling, is shown to refine
the draining of an incremental parser; fragmentation independence follows from
the parser library.
-/

namespace CocktailMaker

open IncrementalParsing LabelledRun

namespace ReadLoop

variable {Msg : Type*}

/-- `(consumed != 0U) ? consumed : 1U`. -/
def skipCount (consumed : Nat) : Nat :=
  if consumed ≠ 0 then consumed else 1

/-- The decision of one pass through the inner `for (;;)`: break, or hand at
most one message to the dispatch step and drop a number of bytes. -/
def attempt (read : FrameRead Msg) (valid : List UInt8) :
    Option (Option Msg × Nat) :=
  let result := read valid
  if result.es = .notEnoughData then none
  else if result.es ≠ .success then some (none, skipCount result.consumed)
  else
    match result.msg with
    | none => some (none, skipCount result.consumed)
    | some msg => some (some msg, result.consumed)

/-- One pass through the inner loop, acting on the buffer. -/
def parseStep (read : FrameRead Msg) (rx : RxBuffer) :
    Option (Option Msg × RxBuffer) :=
  (attempt read rx.pending).map fun decision =>
    (decision.1, rx.consumeFront decision.2)

/-- The inner loop, cut off after `fuel` passes: `none` means that it had not
broken off by then. -/
def parseLoop (read : FrameRead Msg) : Nat → RxBuffer →
    Option (List Msg × RxBuffer)
  | 0, _ => none
  | fuel + 1, rx =>
      match parseStep read rx with
      | none => some ([], rx)
      | some (handed, next) =>
          (parseLoop read fuel next).map fun later =>
            (handed.toList ++ later.1, later.2)

/-- `kMaxBufferSize`. -/
def kMaxBufferSize : Nat := 64 * 1024

/-- The check at the top of the outer loop: a full buffer is doubled, unless
it has reached its limit. -/
def ensureFree (rx : RxBuffer) : Option RxBuffer :=
  if rx.validBytes = rx.size then
    if kMaxBufferSize ≤ rx.size then none else some rx.resizeDouble
  else some rx

end ReadLoop

/-- The loop between two reads: its buffer, the messages it has handed to the
dispatch step, and whether it has returned. -/
structure ReadLoop (Msg : Type*) where
  rx : RxBuffer
  dispatched : List Msg
  returned : Bool

/-- How `stream_->async_read` completes. -/
inductive ReadCompletion
  | failed
  | received (chunk : List UInt8)
  deriving DecidableEq, Repr

namespace ReadLoop

variable {Msg : Type*}

/-- Continue at the top of the outer loop. -/
def continueWith (rx : RxBuffer) (dispatched : List Msg) : ReadLoop Msg :=
  match ensureFree rx with
  | none => ⟨rx, dispatched, true⟩
  | some rx => ⟨rx, dispatched, false⟩

/-- The loop at its first read. -/
def start : ReadLoop Msg :=
  continueWith RxBuffer.initial []

/-- A read completes.  A successful one stores at least one byte and at most as
many as the free space holds. -/
def step (read : FrameRead Msg) (loop : ReadLoop Msg) :
    ReadCompletion → Option (ReadLoop Msg)
  | .failed =>
      if loop.returned then none else some { loop with returned := true }
  | .received chunk =>
      if loop.returned = true ∨ chunk = [] ∨ loop.rx.free < chunk.length then
        none
      else
        let rx := loop.rx.append chunk
        (parseLoop read (rx.validBytes + 1) rx).map fun parsed =>
          continueWith parsed.2 (loop.dispatched ++ parsed.1)

/-- The loop after reading `chunks` one after the other. -/
def runReads (read : FrameRead Msg) (chunks : List (List UInt8)) :
    Option (ReadLoop Msg) :=
  run (step read) start (chunks.map .received)

section Refinement

variable {read : FrameRead Msg}

theorem skipCount_pos (consumed : Nat) : 0 < skipCount consumed := by
  unfold skipCount
  split <;> omega

theorem ne_nil_of_attempt (contract : ReadContract read)
    {valid : List UInt8} {handed : Option Msg} {count : Nat}
    (attempted : attempt read valid = some (handed, count)) : valid ≠ [] := by
  rintro rfl
  simp [attempt, contract.nil_waits] at attempted

theorem attempt_count (contract : ReadContract read)
    {valid : List UInt8} {handed : Option Msg} {count : Nat}
    (attempted : attempt read valid = some (handed, count)) :
    0 < count ∧ count ≤ valid.length := by
  have nonempty := List.length_pos_iff.mpr
    (ne_nil_of_attempt contract attempted)
  have bounded := contract.consumed_le valid
  have skip_le : skipCount (read valid).consumed ≤ valid.length := by
    unfold skipCount
    split <;> omega
  have positive := contract.success_pos valid
  have skip_pos := skipCount_pos (read valid).consumed
  simp only [attempt] at attempted
  split at attempted
  · cases attempted
  · split at attempted
    · cases attempted
      exact ⟨skip_pos, skip_le⟩
    · next success =>
        have success := not_not.mp success
        split at attempted <;> cases attempted
        · exact ⟨skip_pos, skip_le⟩
        · exact ⟨positive success, bounded⟩

/-- The pass of the inner loop as a parser of the incremental library. -/
def frontParser (contract : ReadContract read) : FrontParser UInt8 Msg where
  attempt := attempt read
  count_pos := fun attempted => (attempt_count contract attempted).1
  count_le := fun attempted => (attempt_count contract attempted).2

theorem attempt_congr {valid other : List UInt8}
    (sameResult : read other = read valid) :
    attempt read other = attempt read valid := by
  simp only [attempt, sameResult]

theorem frontParser_stable (contract : ReadContract read)
    (stable : PrefixStable read) : (frontParser contract).PrefixStable := by
  intro valid more handed count attempted
  have decided : (read valid).es ≠ .notEnoughData := by
    intro waits
    simp [frontParser, attempt, waits] at attempted
  exact (attempt_congr (stable valid more decided)).trans attempted

/-- Every pass of the inner loop that does not break leaves fewer valid
bytes. -/
theorem parseStep_decreases (contract : ReadContract read) {rx next : RxBuffer}
    {handed : Option Msg} (stepped : parseStep read rx = some (handed, next)) :
    next.validBytes < rx.validBytes := by
  obtain ⟨⟨output, count⟩, attempted, result⟩ :=
    Option.map_eq_some_iff.mp stepped
  obtain ⟨positive, bounded⟩ := attempt_count contract attempted
  cases result
  rw [RxBuffer.pending_length] at bounded
  rw [RxBuffer.validBytes_consumeFront]
  omega

/-- The inner loop ends, and it drains the pending bytes. -/
theorem parseLoop_drains (contract : ReadContract read) (fuel : Nat)
    (rx : RxBuffer) (enough : rx.validBytes < fuel) :
    ∃ last, parseLoop read fuel rx =
        some (((frontParser contract).drain rx.pending).1, last) ∧
      last.pending = ((frontParser contract).drain rx.pending).2 ∧
      last.size = rx.size := by
  induction fuel generalizing rx with
  | zero => omega
  | succ fuel ih =>
      cases attempted : attempt read rx.pending with
      | none =>
          have waits : (frontParser contract).attempt rx.pending = none :=
            attempted
          rw [FrontParser.drain_of_waits waits]
          exact ⟨rx, by simp [parseLoop, parseStep, attempted], rfl, rfl⟩
      | some decision =>
          obtain ⟨handed, count⟩ := decision
          have takes :
              (frontParser contract).attempt rx.pending = some (handed, count) :=
            attempted
          have stepped :
              parseStep read rx = some (handed, rx.consumeFront count) := by
            simp [parseStep, attempted]
          have decreases := parseStep_decreases contract stepped
          obtain ⟨last, looped, remainder, sizeEq⟩ :=
            ih (rx.consumeFront count) (by omega)
          rw [RxBuffer.pending_consumeFront] at looped remainder
          rw [FrontParser.drain_of_attempt takes]
          refine ⟨last, ?_, remainder, ?_⟩
          · simp [parseLoop, stepped, looped]
          · rw [sizeEq, RxBuffer.size_consumeFront]

@[simp]
theorem continueWith_dispatched (rx : RxBuffer) (dispatched : List Msg) :
    (continueWith rx dispatched).dispatched = dispatched := by
  unfold continueWith
  split <;> rfl

@[simp]
theorem continueWith_pending (rx : RxBuffer) (dispatched : List Msg) :
    (continueWith rx dispatched).rx.pending = rx.pending := by
  unfold continueWith ensureFree
  grind [RxBuffer.pending_resizeDouble]

/-- A read that is possible is parsed to the end; its bytes are appended to the
remainder and drained. -/
theorem step_received (contract : ReadContract read) {loop : ReadLoop Msg}
    {chunk : List UInt8} (running : loop.returned = false)
    (nonempty : chunk ≠ []) (fits : chunk.length ≤ loop.rx.free) :
    ∃ last, step read loop (.received chunk) =
        some (continueWith last (loop.dispatched ++
          ((frontParser contract).drain (loop.rx.pending ++ chunk)).1)) ∧
      last.pending =
        ((frontParser contract).drain (loop.rx.pending ++ chunk)).2 ∧
      last.size = loop.rx.size := by
  obtain ⟨last, looped, remainder, sizeEq⟩ :=
    parseLoop_drains contract _ (loop.rx.append chunk)
      (Nat.lt_succ_self _)
  rw [RxBuffer.pending_append] at looped remainder
  rw [RxBuffer.size_append fits] at sizeEq
  refine ⟨last, ?_, remainder, sizeEq⟩
  have possible : ¬ (loop.returned = true ∨ chunk = [] ∨
      loop.rx.free < chunk.length) := by
    simp [running, nonempty, fits]
  simp only [step, if_neg possible, looped, Option.map_some]

theorem received_of_step {loop next : ReadLoop Msg} {chunk : List UInt8}
    (stepped : step read loop (.received chunk) = some next) :
    loop.returned = false ∧ chunk ≠ [] ∧ chunk.length ≤ loop.rx.free := by
  simp only [step] at stepped
  split at stepped
  · cases stepped
  · next possible =>
      simp only [not_or, Bool.not_eq_true, Nat.not_lt] at possible
      exact possible

theorem step_drains (contract : ReadContract read) {loop next : ReadLoop Msg}
    {chunk : List UInt8} (stepped : step read loop (.received chunk) = some next) :
    next.dispatched = loop.dispatched ++
        ((frontParser contract).drain (loop.rx.pending ++ chunk)).1 ∧
      next.rx.pending =
        ((frontParser contract).drain (loop.rx.pending ++ chunk)).2 := by
  obtain ⟨running, nonempty, fits⟩ := received_of_step stepped
  obtain ⟨parsed, isNext, remainder, _⟩ :=
    step_received contract running nonempty fits
  rw [isNext, Option.some.injEq] at stepped
  subst stepped
  exact ⟨continueWith_dispatched _ _,
    (continueWith_pending _ _).trans remainder⟩

end Refinement

section Runs

variable {read : FrameRead Msg}

theorem runReads_concat {chunks : List (List UInt8)} {chunk : List UInt8}
    {last : ReadLoop Msg} :
    runReads read (chunks ++ [chunk]) = some last ↔
      ∃ loop, runReads read chunks = some loop ∧
        step read loop (.received chunk) = some last := by
  rw [runReads, List.map_append]
  exact run_concat_eq_some

theorem runReads_induction (Fact : List (List UInt8) → ReadLoop Msg → Prop)
    (atStart : Fact [] start)
    (preserved : ∀ chunks loop chunk next, runReads read chunks = some loop →
      Fact chunks loop → step read loop (.received chunk) = some next →
        Fact (chunks ++ [chunk]) next)
    {chunks : List (List UInt8)} {last : ReadLoop Msg}
    (ran : runReads read chunks = some last) : Fact chunks last := by
  induction chunks using List.reverseRecOn generalizing last with
  | nil =>
      have atEnd : some start = some last := ran
      rw [Option.some.injEq] at atEnd
      exact atEnd ▸ atStart
  | append_singleton chunks chunk ih =>
      obtain ⟨loop, ranBefore, stepped⟩ := runReads_concat.mp ran
      exact preserved chunks loop chunk last ranBefore (ih ranBefore) stepped

/-- The state after some reads is what feeding the same pieces to the parser
gives. -/
theorem runReads_feeds (contract : ReadContract read)
    {chunks : List (List UInt8)} {last : ReadLoop Msg}
    (ran : runReads read chunks = some last) :
    (last.dispatched, last.rx.pending) =
      chunks.foldl (frontParser contract).feed ([], []) := by
  apply runReads_induction (fun chunks loop =>
    (loop.dispatched, loop.rx.pending) =
      chunks.foldl (frontParser contract).feed ([], [])) _ _ ran
  · simp [start]
  · intro chunks loop chunk next _ feeds stepped
    obtain ⟨handed, remainder⟩ := step_drains contract stepped
    rw [List.foldl_append, ← feeds]
    simp [FrontParser.feed, handed, remainder]

/-- The buffer between two reads: its size is 4096 doubled a few times, there
is free space unless the loop has returned, and it returns only at the limit. -/
structure Sized (loop : ReadLoop Msg) : Prop where
  size_eq : ∃ doublings ≤ 4, loop.rx.size = 4096 * 2 ^ doublings
  running : loop.returned = false → loop.rx.validBytes < loop.rx.size
  full : loop.returned = true →
    loop.rx.validBytes = loop.rx.size ∧ loop.rx.size = kMaxBufferSize

theorem Sized.size_le {loop : ReadLoop Msg} (sized : Sized loop) :
    loop.rx.size ≤ kMaxBufferSize := by
  obtain ⟨doublings, few, sizeEq⟩ := sized.size_eq
  have bounded : 2 ^ doublings ≤ 2 ^ 4 := Nat.pow_le_pow_right (by omega) few
  simp only [kMaxBufferSize]
  omega

theorem sized_continueWith {rx : RxBuffer} (dispatched : List Msg)
    (sizeEq : ∃ doublings ≤ 4, rx.size = 4096 * 2 ^ doublings) :
    Sized (continueWith rx dispatched) := by
  obtain ⟨doublings, few, sizeEq⟩ := sizeEq
  have inside : rx.validBytes ≤ rx.size := rx.validBytes_le
  by_cases isFull : rx.validBytes = rx.size
  · by_cases atLimit : kMaxBufferSize ≤ rx.size
    · have returns : continueWith rx dispatched = ⟨rx, dispatched, true⟩ := by
        simp [continueWith, ensureFree, isFull, atLimit]
      have bounded : 2 ^ doublings ≤ 2 ^ 4 := Nat.pow_le_pow_right (by omega) few
      rw [returns]
      refine ⟨⟨doublings, few, sizeEq⟩, nofun, fun _ => ⟨isFull, ?_⟩⟩
      simp only [kMaxBufferSize] at atLimit ⊢
      omega
    · have doubles : continueWith rx dispatched =
          ⟨rx.resizeDouble, dispatched, false⟩ := by
        simp [continueWith, ensureFree, isFull, atLimit]
      have fewer : doublings ≠ 4 := by
        rintro rfl
        simp only [kMaxBufferSize] at atLimit
        omega
      have positive : 0 < 2 ^ doublings := Nat.two_pow_pos doublings
      rw [doubles]
      refine ⟨⟨doublings + 1, by omega, ?_⟩, fun _ => ?_, nofun⟩
      · rw [RxBuffer.size_resizeDouble, sizeEq, Nat.pow_succ]
        omega
      · rw [RxBuffer.size_resizeDouble]
        change rx.validBytes < rx.size * 2
        omega
  · have continues : continueWith rx dispatched = ⟨rx, dispatched, false⟩ := by
      simp [continueWith, ensureFree, isFull]
    rw [continues]
    exact ⟨⟨doublings, few, sizeEq⟩,
      fun _ => Nat.lt_of_le_of_ne inside isFull, nofun⟩

theorem sized_of_runReads (contract : ReadContract read)
    {chunks : List (List UInt8)} {last : ReadLoop Msg}
    (ran : runReads read chunks = some last) : Sized last := by
  apply runReads_induction (fun _ => Sized) _ _ ran
  · exact sized_continueWith [] ⟨0, by omega, by simp⟩
  · intro _ loop chunk next _ sized stepped
    obtain ⟨running, nonempty, fits⟩ := received_of_step stepped
    obtain ⟨parsed, isNext, _, sizeEq⟩ :=
      step_received contract running nonempty fits
    rw [isNext, Option.some.injEq] at stepped
    subst stepped
    exact sized_continueWith _ (sizeEq ▸ sized.size_eq)

/-- The loop goes on reading as long as the remainder does not fill the
largest buffer. -/
theorem exists_step_of_remainder_lt (contract : ReadContract read)
    {chunks : List (List UInt8)} {loop : ReadLoop Msg} {chunk : List UInt8}
    (ran : runReads read chunks = some loop)
    (notFilled : loop.rx.pending.length < kMaxBufferSize)
    (nonempty : chunk ≠ []) (fits : chunk.length ≤ loop.rx.free) :
    ∃ next, step read loop (.received chunk) = some next := by
  have sized := sized_of_runReads contract ran
  have running : loop.returned = false := by
    by_contra returned
    obtain ⟨isFull, atLimit⟩ := sized.full (by simpa using returned)
    rw [RxBuffer.pending_length] at notFilled
    omega
  obtain ⟨_, isNext, _⟩ := step_received contract running nonempty fits
  exact ⟨_, isNext⟩

/-- A stream shorter than the initial buffer can be cut into reads in any
way. -/
theorem exists_runReads (contract : ReadContract read)
    {chunks : List (List UInt8)} (nonempty : ∀ chunk ∈ chunks, chunk ≠ [])
    (short : chunks.flatten.length < 4096) :
    ∃ loop, runReads read chunks = some loop ∧
      loop.rx.pending.length ≤ chunks.flatten.length := by
  induction chunks using List.reverseRecOn with
  | nil => exact ⟨start, rfl, by simp [start]⟩
  | append_singleton chunks chunk ih =>
      rw [List.flatten_append, List.length_append] at short
      simp only [List.flatten_singleton] at short
      obtain ⟨loop, ran, remainder⟩ :=
        ih (fun piece member => nonempty piece (by simp [member])) (by omega)
      have chunkNonempty := nonempty chunk (by simp)
      have sized := sized_of_runReads contract ran
      obtain ⟨doublings, _, sizeEq⟩ := sized.size_eq
      have positive : 0 < 2 ^ doublings := Nat.two_pow_pos doublings
      have fits : chunk.length ≤ loop.rx.free := by
        rw [RxBuffer.pending_length] at remainder
        simp only [RxBuffer.free]
        omega
      have notFilled : loop.rx.pending.length < kMaxBufferSize := by
        simp only [kMaxBufferSize]
        omega
      obtain ⟨next, stepped⟩ :=
        exists_step_of_remainder_lt contract ran notFilled chunkNonempty fits
      have ranNext := runReads_concat.mpr ⟨loop, ran, stepped⟩
      refine ⟨next, ranNext, ?_⟩
      have isSuffix : next.rx.pending <:+ loop.rx.pending ++ chunk := by
        rw [(step_drains contract stepped).2]
        exact FrontParser.drain_snd_suffix _
      have shorter := isSuffix.length_le
      rw [List.length_append] at shorter
      rw [List.flatten_append, List.length_append]
      simp only [List.flatten_singleton]
      omega

/-- Cutting one byte stream into reads in two ways hands the same messages to
the dispatch step and leaves the same remainder.  Reading only stops when the
remainder has filled the largest buffer, and the inner loop ends because each
of its passes leaves fewer valid bytes. -/
theorem receive_independent_of_fragmentation (contract : ReadContract read)
    (stable : PrefixStable read) :
    (∀ first second (firstLoop secondLoop : ReadLoop Msg),
      first.flatten = second.flatten →
      runReads read first = some firstLoop →
      runReads read second = some secondLoop →
        firstLoop.dispatched = secondLoop.dispatched ∧
          firstLoop.rx.pending = secondLoop.rx.pending) ∧
    (∀ chunks (loop : ReadLoop Msg) chunk,
      runReads read chunks = some loop →
      loop.rx.pending.length < kMaxBufferSize → chunk ≠ [] →
      chunk.length ≤ loop.rx.free →
        ∃ next, step read loop (.received chunk) = some next) ∧
    (∀ rx handed next, parseStep read rx = some (handed, next) →
      next.validBytes < rx.validBytes) ∧
    ∀ rx, ∃ parsed, parseLoop read (rx.validBytes + 1) rx = some parsed := by
  refine ⟨?_, ?_, ?_, ?_⟩
  · intro first second firstLoop secondLoop sameStream ranFirst ranSecond
    have feedsFirst := runReads_feeds contract ranFirst
    have feedsSecond := runReads_feeds contract ranSecond
    have waits : (frontParser contract).attempt [] = none := by
      simp [frontParser, attempt, contract.nil_waits]
    rw [FrontParser.foldl_feed_eq_of_flatten_eq
      (frontParser_stable contract stable) waits sameStream,
      ← feedsSecond] at feedsFirst
    exact Prod.mk.inj feedsFirst
  · intro chunks loop chunk ran notFilled nonempty fits
    exact exists_step_of_remainder_lt contract ran notFilled nonempty fits
  · intro rx handed next stepped
    exact parseStep_decreases contract stepped
  · intro rx
    obtain ⟨last, looped, _⟩ :=
      parseLoop_drains contract _ rx (Nat.lt_succ_self _)
    exact ⟨_, looped⟩

/-- A frame of the documented layout, read in two pieces and in one. -/
theorem receive_two_pieces_eq_one :
    ∃ twice once : ReadLoop (List UInt8),
      runReads WireFrame.read [(WireFrame.encode [0, 1, 212]).take 4,
        (WireFrame.encode [0, 1, 212]).drop 4] = some twice ∧
      runReads WireFrame.read [WireFrame.encode [0, 1, 212]] = some once ∧
      twice.dispatched = once.dispatched ∧
      twice.rx.pending = once.rx.pending := by
  have twoPieces : ∀ piece ∈ [(WireFrame.encode [0, 1, 212]).take 4,
      (WireFrame.encode [0, 1, 212]).drop 4], piece ≠ [] := by
    simp [WireFrame.encode, WireFrame.sync, WireFrame.field16]
  have onePiece : ∀ piece ∈ [WireFrame.encode [0, 1, 212]], piece ≠ [] := by
    simp [WireFrame.encode, WireFrame.sync]
  obtain ⟨twice, ranTwice, _⟩ := exists_runReads WireFrame.readContract
    twoPieces (by simp [WireFrame.encode, WireFrame.sync, WireFrame.field16])
  obtain ⟨once, ranOnce, _⟩ := exists_runReads WireFrame.readContract onePiece
    (by simp [WireFrame.encode, WireFrame.sync, WireFrame.field16])
  exact ⟨twice, once, ranTwice, ranOnce,
    (receive_independent_of_fragmentation WireFrame.readContract
      WireFrame.prefixStable).1 _ _ _ _ (by simp) ranTwice ranOnce⟩

end Runs

end ReadLoop

end CocktailMaker
