import CocktailMaker.LabelledRun
import Mathlib.Data.List.Forall2

/-!
# Frames over a byte stream

A writer puts frames on a stream, and a reader takes pieces of any length from
it.  The reader keeps what it cannot decode yet and tries again when the next
piece has come.  When its decoder finds the whole frames at the front of what
it is given, the reader hands on one message for each of them, in order, and
what it keeps is the beginning of one frame.
-/

namespace CocktailMaker

namespace FramedStream

open LabelledRun

section Decoding

variable {Byte Message : Type*} (Intact : List Byte → Message → Prop)

/-- The beginning of a frame, without its end. -/
def Partial (rest : List Byte) : Prop :=
  rest = [] ∨ ∃ frame message, Intact frame message ∧
    rest <+: frame ∧ rest ≠ frame

/-- The decoder hands on the messages of the whole frames at the front, and
says how many bytes they are. -/
def Decodes (decode : List Byte → List Message × Nat) : Prop :=
  ∀ frames messages rest, List.Forall₂ Intact frames messages →
    Partial Intact rest →
      decode (frames.flatten ++ rest) = (messages, frames.flatten.length)

/-- Decode what has been kept together with the next piece. -/
def feed (decode : List Byte → List Message × Nat)
    (received : List Message × List Byte) (piece : List Byte) :
    List Message × List Byte :=
  (received.1 ++ (decode (received.2 ++ piece)).1,
    (received.2 ++ piece).drop (decode (received.2 ++ piece)).2)

/-- The beginning of the next frame, if there is one. -/
def BeginsNext (later : List (List Byte)) (rest : List Byte) : Prop :=
  rest = [] ∨ ∃ frame following, later = frame :: following ∧
    rest <+: frame ∧ rest ≠ frame

/-- Some of the frames are on the stream and have been handed on, and of the
next one the beginning is there. -/
inductive Framed : List (List Byte) → List Message → List Byte →
    List Message × List Byte → Prop
  | split {done later : List (List Byte)} {messages ahead : List Message}
      {rest : List Byte} (handed : List.Forall₂ Intact done messages)
      (intact : List.Forall₂ Intact later ahead)
      (begins : BeginsNext later rest) :
      Framed (done ++ later) (messages ++ ahead) (done.flatten ++ rest)
        (messages, rest)

variable {Intact} {frames : List (List Byte)} {messages : List Message}
  {stream : List Byte} {received : List Message × List Byte}

theorem BeginsNext.isPartial {later : List (List Byte)} {rest : List Byte}
    (begins : BeginsNext later rest) {ahead : List Message}
    (intact : List.Forall₂ Intact later ahead) : Partial Intact rest := by
  rcases begins with nothing | ⟨frame, following, rfl, begins⟩
  · exact .inl nothing
  · cases intact with
    | cons carries _ => exact .inr ⟨frame, _, carries, begins⟩

theorem framed_nil (intact : List.Forall₂ Intact frames messages) :
    Framed Intact frames messages [] ([], []) :=
  .split .nil intact (.inl rfl)

theorem Framed.isPrefix
    (framed : Framed Intact frames messages stream received) :
    received.1 <+: messages := by
  cases framed with
  | split => exact List.prefix_append _ _

theorem Framed.cons (framed : Framed Intact frames messages stream received)
    {frame : List Byte} {message : Message} (carries : Intact frame message) :
    Framed Intact (frame :: frames) (message :: messages) (frame ++ stream)
      (message :: received.1, received.2) := by
  cases framed with
  | split handed intact begins =>
      rw [← List.append_assoc]
      exact .split (.cons carries handed) intact begins

theorem exists_framed (intact : List.Forall₂ Intact frames messages)
    (isPrefix : stream <+: frames.flatten) :
    ∃ received, Framed Intact frames messages stream received := by
  induction intact generalizing stream with
  | nil =>
      obtain rfl := List.prefix_nil.mp isPrefix
      exact ⟨_, framed_nil .nil⟩
  | @cons frame message frames messages carries rest ih =>
      rw [List.flatten_cons] at isPrefix
      rcases List.prefix_or_prefix_of_prefix isPrefix
        (List.prefix_append frame frames.flatten) with inside | whole
      · by_cases isWhole : stream = frame
        · subst isWhole
          refine ⟨([message], []), ?_⟩
          simpa using (framed_nil rest).cons carries
        · exact ⟨([], stream), .split .nil (.cons carries rest)
            (.inr ⟨frame, frames, rfl, inside, isWhole⟩)⟩
      · obtain ⟨beyond, rfl⟩ := whole
        rw [List.prefix_append_right_inj] at isPrefix
        obtain ⟨received, framed⟩ := ih isPrefix
        exact ⟨_, framed.cons carries⟩

/-- The next piece completes some of the frames that were ahead. -/
theorem Framed.feed {decode : List Byte → List Message × Nat}
    (decodes : Decodes Intact decode)
    (framed : Framed Intact frames messages stream received)
    {piece : List Byte} (isPrefix : stream ++ piece <+: frames.flatten) :
    Framed Intact frames messages (stream ++ piece)
      (FramedStream.feed decode received piece) := by
  cases framed with
  | @split done later handedOn ahead rest handed intact begins =>
      rw [List.append_assoc, List.flatten_append,
        List.prefix_append_right_inj] at isPrefix
      obtain ⟨next, framedNext⟩ := exists_framed intact isPrefix
      rw [List.append_assoc, FramedStream.feed]
      generalize rest ++ piece = pending at framedNext ⊢
      cases framedNext with
      | @split whole after handedNow aheadNow restNow handedNext intactNext
          beginsNext =>
          rw [decodes _ _ _ handedNext (beginsNext.isPartial intactNext),
            List.drop_left, ← List.append_assoc, ← List.append_assoc,
            ← List.append_assoc, ← List.flatten_append]
          exact .split (List.rel_append handed handedNext) intactNext beginsNext

/-- When everything is on the stream, everything has been handed on. -/
theorem Framed.complete
    (framed : Framed Intact frames messages frames.flatten received)
    (nonempty : ∀ frame ∈ frames, frame ≠ []) : received = (messages, []) := by
  generalize isStream : frames.flatten = stream at framed
  cases framed with
  | @split done later handedOn ahead rest handed intact begins =>
      rw [List.flatten_append, List.append_cancel_left_eq] at isStream
      cases intact with
      | nil =>
          rw [List.append_nil]
          exact Prod.ext rfl isStream.symm
      | @cons frame message later ahead carries following =>
          have inside : frame ≠ [] := nonempty frame (by simp)
          rw [List.flatten_cons] at isStream
          rcases begins with rfl | ⟨other, others, isNext, begins, proper⟩
          · exact absurd (List.append_eq_nil_iff.mp isStream).1 inside
          · obtain ⟨rfl, rfl⟩ := List.cons.inj isNext
            have short := begins.length_le
            rw [← isStream, List.length_append] at short
            have nothing : later.flatten = [] :=
              List.length_eq_zero_iff.mp (by omega)
            rw [nothing, List.append_nil] at isStream
            exact absurd isStream.symm proper

end Decoding

section Pipe

variable {Byte Writer WriterEvent Reader : Type*}

/-- A writer, the bytes that it has put on the stream and that have not been
read, and a reader. -/
structure Pipe (Byte Writer Reader : Type*) where
  writer : Writer
  transit : List Byte := []
  reader : Reader

/-- The writer does something, or the reader takes at most `count` bytes. -/
inductive PipeEvent (WriterEvent : Type*)
  | write (event : WriterEvent)
  | read (count : Nat)
  deriving DecidableEq

variable (write : Writer → WriterEvent → Option Writer)
  (wire : Writer → List Byte) (read : Reader → List Byte → Option Reader)

/-- `wire` is everything that the writer has put on the stream. -/
def Pipe.step (pipe : Pipe Byte Writer Reader) :
    PipeEvent WriterEvent → Option (Pipe Byte Writer Reader)
  | .write event =>
      (write pipe.writer event).map fun writer =>
        { pipe with
          writer
          transit := pipe.transit ++
            (wire writer).drop (wire pipe.writer).length }
  | .read count =>
      (read pipe.reader (pipe.transit.take count)).map fun reader =>
        { pipe with reader, transit := pipe.transit.drop count }

/-- What the writer does in a run. -/
def writes (events : List (PipeEvent WriterEvent)) : List WriterEvent :=
  events.filterMap fun
    | .write event => some event
    | .read _ => none

@[simp]
theorem writes_concat (events : List (PipeEvent WriterEvent))
    (event : PipeEvent WriterEvent) :
    writes (events ++ [event]) = writes events ++ writes [event] :=
  List.filterMap_append

@[simp]
theorem writes_read (count : Nat) :
    writes [(.read count : PipeEvent WriterEvent)] = [] :=
  rfl

variable {write wire read}

/-- In every run the writer and the reader run by themselves, and what has been
written is what has been read and what is in transit. -/
theorem Pipe.exists_chunks
    (grows : ∀ writer event next, write writer event = some next →
      wire writer <+: wire next) {writer : Writer} {reader : Reader}
    (silent : wire writer = []) {events : List (PipeEvent WriterEvent)}
    {pipe : Pipe Byte Writer Reader}
    (ran : run (Pipe.step write wire read) { writer, reader } events =
      some pipe) :
    run write writer (writes events) = some pipe.writer ∧
      ∃ chunks, run read reader chunks = some pipe.reader ∧
        chunks.flatten ++ pipe.transit = wire pipe.writer := by
  refine history_of_run (fun events pipe =>
    run write writer (writes events) = some pipe.writer ∧
      ∃ chunks, run read reader chunks = some pipe.reader ∧
        chunks.flatten ++ pipe.transit = wire pipe.writer)
    ⟨rfl, [], rfl, silent.symm⟩ ?_ ran
  rintro events pipe event next _ ⟨ranWriter, chunks, ranReader, written⟩
    stepped
  rw [writes_concat]
  cases event with
  | write event =>
      obtain ⟨moved, steppedWriter, rfl⟩ := Option.map_eq_some_iff.mp stepped
      refine ⟨run_concat_eq_some.mpr ⟨_, ranWriter, steppedWriter⟩, chunks,
        ranReader, ?_⟩
      obtain ⟨more, isMore⟩ := grows _ _ _ steppedWriter
      rw [← List.append_assoc, written, ← isMore, List.drop_left]
  | read count =>
      obtain ⟨moved, steppedReader, rfl⟩ := Option.map_eq_some_iff.mp stepped
      rw [writes_read, List.append_nil]
      refine ⟨ranWriter, chunks ++ [pipe.transit.take count],
        run_concat_eq_some.mpr ⟨_, ranReader, steppedReader⟩, ?_⟩
      rw [List.flatten_append, List.flatten_singleton, List.append_assoc,
        List.take_append_drop, written]

end Pipe

end FramedStream

end CocktailMaker
