import Mathlib.Data.List.Basic
import Mathlib.Data.List.Forall2
import Mathlib.Data.List.Induction

/-!
# Whole lines from the log of a Pod

The serial port delivers the boot log of a Pod in chunks that may end anywhere.
`LineAssembler` hands on the lines that have ended and holds the fragment
behind the last newline back.  A fragment that outgrows its limit is flushed as
a line of its own.  The lines of a feed are those at which `splitOn` cuts the
fragment with the new chunk, and cutting in two steps is the same as cutting at
once, so the chunks do not matter.
-/

namespace CocktailMaker

namespace PodLog

/-- `'\n'` -/
def newline : UInt8 := 0x0a

/-- `'\r'` -/
def carriageReturn : UInt8 := 0x0d

section Splitting

variable {α : Type} [BEq α] [LawfulBEq α] {separator : α}

/-- The parts of a text that a separator has ended. -/
def ended (separator : α) (text : List α) : List (List α) :=
  (text.splitOn separator).dropLast

/-- What stands behind the last separator. -/
def unended (separator : α) (text : List α) : List α :=
  (text.splitOn separator).getLast (List.splitOn_ne_nil separator text)

theorem ended_of_notMem {text : List α} (free : separator ∉ text) :
    ended separator text = [] := by
  simp [ended, List.splitOn_eq_singleton free]

theorem unended_of_notMem {text : List α} (free : separator ∉ text) :
    unended separator text = text := by
  simp [unended, List.splitOn_eq_singleton free]

theorem ended_append_cons {part : List α} (free : separator ∉ part)
    (rest : List α) :
    ended separator (part ++ separator :: rest) =
      part :: ended separator rest := by
  rw [ended, List.splitOn_append_cons_self_of_not_mem free,
    List.dropLast_cons_of_ne_nil (List.splitOn_ne_nil _ _), ended]

theorem unended_append_cons {part : List α} (free : separator ∉ part)
    (rest : List α) :
    unended separator (part ++ separator :: rest) =
      unended separator rest := by
  simp only [unended, List.splitOn_append_cons_self_of_not_mem free]
  exact List.getLast_cons (List.splitOn_ne_nil _ _)

theorem cut_cases (separator : α) (text : List α) :
    separator ∉ text ∨
      ∃ part rest, text = part ++ separator :: rest ∧ separator ∉ part := by
  by_cases member : separator ∈ text
  · obtain ⟨part, rest, equation, free⟩ := List.eq_append_cons_of_mem member
    exact .inr ⟨part, rest, equation, free⟩
  · exact .inl member

/-- To prove something of every text, cut it at its first separator. -/
theorem cut_induction {motive : List α → Prop} (separator : α)
    (free : ∀ text, separator ∉ text → motive text)
    (cut : ∀ part rest, separator ∉ part → motive rest →
      motive (part ++ separator :: rest)) (text : List α) : motive text := by
  induction length : text.length using Nat.strongRecOn
    generalizing text with
  | _ size ih =>
      rcases cut_cases separator text with
        without | ⟨part, rest, rfl, without⟩
      · exact free text without
      · refine cut part rest without (ih rest.length ?_ rest rfl)
        rw [← length, List.length_append, List.length_cons]
        omega

theorem ended_notMem {text part : List α}
    (member : part ∈ ended separator text) : separator ∉ part := by
  induction text using cut_induction separator with
  | free text without => simp [ended_of_notMem without] at member
  | cut first rest without ih =>
      rw [ended_append_cons without, List.mem_cons] at member
      rcases member with rfl | later
      · exact without
      · exact ih later

theorem unended_notMem (text : List α) :
    separator ∉ unended separator text := by
  induction text using cut_induction separator with
  | free text without => rwa [unended_of_notMem without]
  | cut part rest without ih => rwa [unended_append_cons without]

theorem flatten_ended (separator : α) (text : List α) :
    ((ended separator text).map (· ++ [separator])).flatten ++
      unended separator text = text := by
  induction text using cut_induction separator with
  | free text without =>
      simp [ended_of_notMem without, unended_of_notMem without]
  | cut part rest without ih =>
      rw [ended_append_cons without, unended_append_cons without,
        List.map_cons, List.flatten_cons, List.append_assoc, ih,
        List.append_assoc, List.singleton_append]

/-- Text that follows continues the part that has not ended yet. -/
theorem ended_append (text more : List α) :
    ended separator (text ++ more) = ended separator text ++
      ended separator (unended separator text ++ more) := by
  induction text using cut_induction separator with
  | free text without =>
      rw [ended_of_notMem without, unended_of_notMem without,
        List.nil_append]
  | cut part rest without ih =>
      rw [List.append_assoc, List.cons_append, ended_append_cons without,
        ended_append_cons without, unended_append_cons without, ih,
        List.cons_append]

theorem unended_append (text more : List α) :
    unended separator (text ++ more) =
      unended separator (unended separator text ++ more) := by
  induction text using cut_induction separator with
  | free text without => rw [unended_of_notMem without]
  | cut part rest without ih =>
      rw [List.append_assoc, List.cons_append, unended_append_cons without,
        unended_append_cons without, ih]

end Splitting

/-- `text.find(byte, position)` -/
def findFrom (text : List UInt8) (byte : UInt8) (position : Nat) :
    Option Nat :=
  ((text.drop position).findIdx? (· == byte)).map (position + ·)

theorem findFrom_eq_none {text : List UInt8} {byte : UInt8} {position : Nat}
    (missing : findFrom text byte position = none) :
    byte ∉ text.drop position := by
  intro member
  have absent := List.findIdx?_eq_none_iff.mp
    (Option.map_eq_none_iff.mp missing) byte member
  simp at absent

theorem findFrom_eq_some {text : List UInt8} {byte : UInt8}
    {position found : Nat} (finds : findFrom text byte position = some found) :
    position ≤ found ∧ found < text.length ∧
      byte ∉ (text.drop position).take (found - position) ∧
      text.drop position = (text.drop position).take (found - position) ++
        byte :: text.drop (found + 1) := by
  obtain ⟨index, search, rfl⟩ := Option.map_eq_some_iff.mp finds
  obtain ⟨inside, isByte, before⟩ :=
    List.findIdx?_eq_some_iff_getElem.mp search
  rw [List.length_drop] at inside
  have byteAt : (text.drop position)[index] = byte := beq_iff_eq.mp isByte
  refine ⟨Nat.le_add_right _ _, by omega, ?_, ?_⟩
  · rw [Nat.add_sub_cancel_left]
    intro member
    obtain ⟨other, earlier, equation⟩ := List.mem_take_iff_getElem.mp member
    exact before other (by omega) (beq_iff_eq.mpr equation)
  · rw [Nat.add_sub_cancel_left]
    have rest : text.drop (position + index + 1) =
        (text.drop position).drop (index + 1) := by
      rw [List.drop_drop, Nat.add_assoc]
    rw [rest, ← byteAt, List.getElem_cons_drop, List.take_append_drop]

/-- `line` without one `'\r'` at its end. -/
def withoutReturn (line : List UInt8) : List UInt8 :=
  if line.getLast? = some carriageReturn then line.dropLast else line

/-- The loop of `feed`: the lines that end behind `consumed`, and how far they
reach. -/
def completeLines (pending : List UInt8) (consumed : Nat) :
    List (List UInt8) × Nat :=
  match finds : findFrom pending newline consumed with
  | none => ([], consumed)
  | some newlineAt =>
      let line := (pending.drop consumed).take (newlineAt - consumed)
      let later := completeLines pending (newlineAt + 1)
      (withoutReturn line :: later.1, later.2)
termination_by pending.length - consumed
decreasing_by
  have := findFrom_eq_some finds
  omega

theorem completeLines_eq (pending : List UInt8) (consumed : Nat) :
    (completeLines pending consumed).1 =
        (ended newline (pending.drop consumed)).map withoutReturn ∧
      pending.drop (completeLines pending consumed).2 =
        unended newline (pending.drop consumed) := by
  fun_induction completeLines pending consumed with
  | case1 consumed missing =>
      have without := findFrom_eq_none missing
      rw [ended_of_notMem without, unended_of_notMem without]
      exact ⟨rfl, rfl⟩
  | case2 consumed newlineAt finds line later ih =>
      obtain ⟨-, -, without, equation⟩ := findFrom_eq_some finds
      rw [equation, ended_append_cons without, unended_append_cons without,
        List.map_cons, ← ih.1]
      exact ⟨rfl, ih.2⟩

/-- `kMaxLogLine` -/
def kMaxLogLine : Nat := 4096

/-- `LineAssembler`: the fragment in `pending_` contains no newline and is not
longer than `max_line_`. -/
structure LineAssembler where
  maxLine : Nat
  pending : List UInt8
  unterminated : newline ∉ pending
  bounded : pending.length ≤ maxLine

namespace LineAssembler

/-- The assembler that the constructor makes. -/
def empty (maxLine : Nat) : LineAssembler where
  maxLine := maxLine
  pending := []
  unterminated := List.not_mem_nil
  bounded := Nat.zero_le _

/-- `feed`: the lines that it hands to `on_line`, and the next state. -/
def feed (assembler : LineAssembler) (chunk : List UInt8) :
    List (List UInt8) × LineAssembler :=
  let pending := assembler.pending ++ chunk
  let complete := completeLines pending 0
  let rest := pending.drop complete.2
  if long : assembler.maxLine < rest.length then
    (complete.1 ++ [rest], empty assembler.maxLine)
  else
    (complete.1,
      { maxLine := assembler.maxLine
        pending := rest
        unterminated := by
          rw [show rest = _ from (completeLines_eq pending 0).2]
          exact unended_notMem _
        bounded := Nat.le_of_not_lt long })

/-- The lines of a sequence of feeds, and the state behind it. -/
def feedAll (assembler : LineAssembler) :
    List (List UInt8) → List (List UInt8) × LineAssembler
  | [] => ([], assembler)
  | chunk :: chunks =>
      let fed := assembler.feed chunk
      let later := feedAll fed.2 chunks
      (fed.1 ++ later.1, later.2)

theorem feedAll_append (assembler : LineAssembler)
    (chunks more : List (List UInt8)) :
    assembler.feedAll (chunks ++ more) =
      let fed := assembler.feedAll chunks
      let later := fed.2.feedAll more
      (fed.1 ++ later.1, later.2) := by
  induction chunks generalizing assembler with
  | nil => rfl
  | cons chunk chunks ih => simp [feedAll, ih]

theorem feedAll_concat (assembler : LineAssembler)
    (chunks : List (List UInt8)) (chunk : List UInt8) :
    assembler.feedAll (chunks ++ [chunk]) =
      ((assembler.feedAll chunks).1 ++
          ((assembler.feedAll chunks).2.feed chunk).1,
        ((assembler.feedAll chunks).2.feed chunk).2) := by
  simp [feedAll_append, feedAll]

/-- What one feed does: the lines that have ended are handed on, and the rest
is either flushed or held back. -/
theorem feed_cases (assembler : LineAssembler) (chunk : List UInt8)
    {text rest : List UInt8} {lines : List (List UInt8)}
    (textEq : assembler.pending ++ chunk = text)
    (linesEq : (ended newline text).map withoutReturn = lines)
    (restEq : unended newline text = rest) :
    (assembler.feed chunk).2.maxLine = assembler.maxLine ∧
      (assembler.maxLine < rest.length ∧
          (assembler.feed chunk).1 = lines ++ [rest] ∧
          (assembler.feed chunk).2.pending = [] ∨
        rest.length ≤ assembler.maxLine ∧
          (assembler.feed chunk).1 = lines ∧
          (assembler.feed chunk).2.pending = rest) := by
  obtain ⟨foundLines, foundRest⟩ := completeLines_eq text 0
  rw [List.drop_zero, linesEq] at foundLines
  rw [List.drop_zero, restEq] at foundRest
  subst textEq
  dsimp only [feed]
  split
  · next long =>
      rw [foundRest] at long
      exact ⟨rfl, .inl ⟨long, by rw [foundLines, foundRest], rfl⟩⟩
  · next short =>
      rw [foundRest] at short
      exact ⟨rfl, .inr ⟨Nat.le_of_not_lt short, foundLines, foundRest⟩⟩

theorem feedAll_maxLine (assembler : LineAssembler)
    (chunks : List (List UInt8)) :
    (assembler.feedAll chunks).2.maxLine = assembler.maxLine := by
  induction chunks generalizing assembler with
  | nil => rfl
  | cons chunk chunks ih =>
      exact (ih _).trans (assembler.feed_cases chunk rfl rfl rfl).1

end LineAssembler

/-- The bytes that stand behind an emitted line in the stream. -/
inductive Terminated (maxLine : Nat) : List UInt8 → List UInt8 → Prop where
  | lineFeed (line : List UInt8)
      (bare : line.getLast? ≠ some carriageReturn) :
      Terminated maxLine line [newline]
  | returned (line : List UInt8) :
      Terminated maxLine line [carriageReturn, newline]
  | flushed (line : List UInt8) (long : maxLine < line.length) :
      Terminated maxLine line []

/-- The stream consists of the lines, each followed by its terminator. -/
def Emitted (maxLine : Nat) (lines : List (List UInt8))
    (stream : List UInt8) : Prop :=
  ∃ terminators, List.Forall₂ (Terminated maxLine) lines terminators ∧
    (List.zipWith (· ++ ·) lines terminators).flatten = stream

theorem emitted_append {maxLine : Nat} {lines more : List (List UInt8)}
    {stream rest : List UInt8} (first : Emitted maxLine lines stream)
    (second : Emitted maxLine more rest) :
    Emitted maxLine (lines ++ more) (stream ++ rest) := by
  obtain ⟨terminators, fit, rfl⟩ := first
  obtain ⟨others, othersFit, rfl⟩ := second
  refine ⟨terminators ++ others, List.rel_append fit othersFit, ?_⟩
  rw [List.zipWith_append fit.length_eq, List.flatten_append]

theorem emitted_flushed {maxLine : Nat} {line : List UInt8}
    (long : maxLine < line.length) : Emitted maxLine [line] line :=
  ⟨[[]], .cons (.flushed line long) .nil, by simp⟩

/-- The return that was removed from a line belongs to its terminator. -/
theorem emitted_withoutReturn (maxLine : Nat) (line : List UInt8) :
    Emitted maxLine [withoutReturn line] (line ++ [newline]) := by
  unfold withoutReturn
  split
  · next returns =>
      refine ⟨[[carriageReturn, newline]], .cons (.returned _) .nil, ?_⟩
      obtain ⟨before, rfl⟩ := List.getLast?_eq_some_iff.mp returns
      simp
  · next bare =>
      exact ⟨[[newline]], .cons (.lineFeed line bare) .nil, by simp⟩

theorem emitted_lines (maxLine : Nat) (lines : List (List UInt8)) :
    Emitted maxLine (lines.map withoutReturn)
      (lines.map (· ++ [newline])).flatten := by
  induction lines with
  | nil => exact ⟨[], .nil, rfl⟩
  | cons line lines ih =>
      exact emitted_append (emitted_withoutReturn maxLine line) ih

theorem notMem_withoutReturn {line : List UInt8} (free : newline ∉ line) :
    newline ∉ withoutReturn line := by
  unfold withoutReturn
  split
  · exact fun member => free (List.dropLast_subset line member)
  · exact free

namespace LineAssembler

theorem feed_emitted (assembler : LineAssembler) (chunk : List UInt8) :
    (∀ line ∈ (assembler.feed chunk).1, newline ∉ line) ∧
      ∃ stream, Emitted assembler.maxLine (assembler.feed chunk).1 stream ∧
        stream ++ (assembler.feed chunk).2.pending =
          assembler.pending ++ chunk := by
  have whole := flatten_ended newline (assembler.pending ++ chunk)
  have lines := emitted_lines assembler.maxLine
    (ended newline (assembler.pending ++ chunk))
  have free : ∀ line ∈ (ended newline (assembler.pending ++ chunk)).map
      withoutReturn, newline ∉ line :=
    List.forall_mem_map.mpr
      (fun line member => notMem_withoutReturn (ended_notMem member))
  obtain ⟨-, ⟨long, fed, rest⟩ | ⟨-, fed, rest⟩⟩ :=
    assembler.feed_cases chunk rfl rfl rfl
  · rw [fed, rest]
    refine ⟨?_, _, emitted_append lines (emitted_flushed long), ?_⟩
    · rintro line member
      rcases List.mem_append.mp member with before | last
      · exact free line before
      · rw [List.mem_singleton.mp last]
        exact unended_notMem _
    · rw [List.append_nil, whole]
  · rw [fed, rest]
    exact ⟨free, _, lines, whole⟩

/-- No line is lost, and none is changed. -/
theorem feedAll_emitted (maxLine : Nat) (chunks : List (List UInt8)) :
    (∀ line ∈ ((empty maxLine).feedAll chunks).1, newline ∉ line) ∧
      ∃ stream, Emitted maxLine ((empty maxLine).feedAll chunks).1 stream ∧
        stream ++ ((empty maxLine).feedAll chunks).2.pending =
          chunks.flatten := by
  induction chunks using List.reverseRecOn with
  | nil => exact ⟨nofun, [], ⟨[], .nil, rfl⟩, rfl⟩
  | append_singleton chunks chunk ih =>
      obtain ⟨free, stream, emitted, whole⟩ := ih
      obtain ⟨fedFree, fed, fedEmitted, fedWhole⟩ :=
        ((empty maxLine).feedAll chunks).2.feed_emitted chunk
      rw [feedAll_maxLine] at fedEmitted
      rw [feedAll_concat]
      refine ⟨?_, stream ++ fed, emitted_append emitted fedEmitted, ?_⟩
      · intro line member
        rcases List.mem_append.mp member with before | last
        · exact free line before
        · exact fedFree line last
      · rw [List.append_assoc, fedWhole, ← List.append_assoc, whole,
          List.flatten_append, List.flatten_singleton]

/-- As long as no line outgrows the limit, the chunks do not matter. -/
theorem feedAll_split (maxLine : Nat) (chunks : List (List UInt8))
    (short : ∀ line, line <:+: chunks.flatten → newline ∉ line →
      line.length ≤ maxLine) :
    ((empty maxLine).feedAll chunks).1 =
        (ended newline chunks.flatten).map withoutReturn ∧
      ((empty maxLine).feedAll chunks).2.pending =
        unended newline chunks.flatten := by
  induction chunks using List.reverseRecOn with
  | nil => exact ⟨rfl, rfl⟩
  | append_singleton chunks chunk ih =>
      rw [List.flatten_append, List.flatten_singleton] at short ⊢
      obtain ⟨lines, rest⟩ := ih (fun line inside =>
        short line (inside.trans (List.prefix_append _ _).isInfix))
      have fits : (unended newline (chunks.flatten ++ chunk)).length ≤
          maxLine := by
        refine short _ ?_ (unended_notMem _)
        conv_rhs => rw [← flatten_ended newline (chunks.flatten ++ chunk)]
        exact (List.suffix_append _ _).isInfix
      rw [feedAll_concat, lines]
      rw [unended_append, ← rest] at fits ⊢
      rw [ended_append, ← rest, List.map_append]
      obtain ⟨-, ⟨long, -⟩ | ⟨-, fed, held⟩⟩ :=
        ((empty maxLine).feedAll chunks).2.feed_cases chunk rfl rfl rfl
      · rw [feedAll_maxLine] at long
        exact absurd long (Nat.not_lt.mpr fits)
      · exact ⟨by rw [fed], held⟩

/-- Nothing of the log is lost, and the chunks do not matter. -/
theorem feedAll_lossless (maxLine : Nat) (chunks : List (List UInt8)) :
    ∃ lines assembler,
      (empty maxLine).feedAll chunks = (lines, assembler) ∧
      (∀ line ∈ lines, newline ∉ line) ∧
      (newline ∉ assembler.pending ∧ assembler.pending.length ≤ maxLine) ∧
      (∃ terminators,
        List.Forall₂ (Terminated maxLine) lines terminators ∧
          (List.zipWith (· ++ ·) lines terminators).flatten ++
            assembler.pending = chunks.flatten) ∧
      ((∀ run, run <:+: chunks.flatten → newline ∉ run →
          run.length ≤ maxLine) →
        lines = ((chunks.flatten.splitOn newline).dropLast).map
            withoutReturn ∧
          some assembler.pending =
            (chunks.flatten.splitOn newline).getLast?) := by
  obtain ⟨free, stream, ⟨terminators, fit, rfl⟩, whole⟩ :=
    feedAll_emitted maxLine chunks
  let fed := (empty maxLine).feedAll chunks
  refine ⟨fed.1, fed.2, rfl, free, ⟨fed.2.unterminated, ?_⟩,
    ⟨terminators, fit, whole⟩, fun short => ?_⟩
  · have bounded := fed.2.bounded
    rwa [show fed.2.maxLine = maxLine from feedAll_maxLine _ _] at bounded
  · obtain ⟨lines, fragment⟩ := feedAll_split maxLine chunks short
    refine ⟨lines, ?_⟩
    rw [show fed.2.pending = _ from fragment]
    exact (List.getLast?_eq_some_getLast _).symm

end LineAssembler

end PodLog

end CocktailMaker
