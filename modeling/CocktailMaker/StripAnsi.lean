import Mathlib.Data.List.Basic
import Mathlib.Data.List.TakeWhile
import Mathlib.Logic.Function.Iterate

/-!
# Escape sequences in the log of a Pod

`strip_ansi` scans a line from left to right and jumps behind every escape
sequence it meets.  `Strips` says what the scan makes of the rest of a line; it
has one case for each way through the body of the loop.
-/

namespace CocktailMaker

namespace PodLog

/-- `'\x1b'` -/
def escape : UInt8 := 0x1b

/-- `'['` -/
def bracket : UInt8 := 0x5b

def isParameterByte (byte : UInt8) : Bool :=
  0x20 ≤ byte && byte ≤ 0x3f

def isFinalByte (byte : UInt8) : Bool :=
  0x40 ≤ byte && byte ≤ 0x7e

/-- The local variables of the scanning loop. -/
structure Scan where
  i : Nat := 0
  out : List UInt8 := []

/-- The inner loop: the first position from `stop` on that holds no parameter
byte. -/
def parameterEnd (text : List UInt8) (stop : Nat) : Nat :=
  if inside : stop < text.length then
    if isParameterByte text[stop] then parameterEnd text (stop + 1) else stop
  else stop
termination_by text.length - stop

/-- The position behind the sequence whose introducer stands at `i`, unless it
counts as unterminated. -/
def sequenceEnd (text : List UInt8) (i : Nat) : Option Nat :=
  let stop := parameterEnd text (i + 2)
  if text[stop]?.any isFinalByte then some (stop + 1) else none

/-- One pass through the body of the loop, if there is one more. -/
def pass (text : List UInt8) (scan : Scan) : Scan :=
  match text[scan.i]? with
  | none => scan
  | some byte =>
      if byte ≠ escape then
        { i := scan.i + 1, out := scan.out ++ [byte] }
      else if text[scan.i + 1]? ≠ some bracket then
        { scan with i := scan.i + 1 }
      else
        { scan with i := (sequenceEnd text scan.i).getD text.length }

theorem parameterEnd_eq (text : List UInt8) (stop : Nat) :
    parameterEnd text stop =
      stop + ((text.drop stop).takeWhile isParameterByte).length := by
  fun_induction parameterEnd text stop with
  | case1 stop inside parameter ih =>
      rw [ih, List.drop_eq_getElem_cons inside,
        List.takeWhile_cons_of_pos parameter, List.length_cons]
      omega
  | case2 stop inside other =>
      rw [List.drop_eq_getElem_cons inside,
        List.takeWhile_cons_of_neg other, List.length_nil, Nat.add_zero]
  | case3 stop outside =>
      rw [List.drop_eq_nil_of_le (Nat.le_of_not_lt outside)]
      rfl

/-- Which way a pass takes through the body, by the rest of the line. -/
inductive Passed (text : List UInt8) (i : Nat) (out : List UInt8) :
    Scan → Prop where
  | finished (rest : text.drop i = []) : Passed text i out ⟨i, out⟩
  | text (byte : UInt8) (more : List UInt8)
      (rest : text.drop i = byte :: more) (plain : byte ≠ escape) :
      Passed text i out ⟨i + 1, out ++ [byte]⟩
  | lone (more : List UInt8) (rest : text.drop i = escape :: more)
      (noIntroducer : more.head? ≠ some bracket) :
      Passed text i out ⟨i + 1, out⟩
  | complete (parameters : List UInt8) (final : UInt8) (more : List UInt8)
      (rest : text.drop i =
        escape :: bracket :: (parameters ++ final :: more))
      (areParameters : ∀ byte ∈ parameters, isParameterByte byte)
      (isFinal : isFinalByte final) :
      Passed text i out ⟨i + parameters.length + 3, out⟩
  | discarded (parameters more : List UInt8)
      (rest : text.drop i = escape :: bracket :: (parameters ++ more))
      (areParameters : ∀ byte ∈ parameters, isParameterByte byte)
      (neither : ∀ byte, more.head? = some byte →
        isParameterByte byte = false ∧ isFinalByte byte = false) :
      Passed text i out ⟨text.length, out⟩

theorem not_parameter_of_final {byte : UInt8} (final : isFinalByte byte) :
    isParameterByte byte = false := by
  have bounds : 0x40 ≤ byte.toNat := by
    simp only [isFinalByte, Bool.and_eq_true, decide_eq_true_eq,
      UInt8.le_iff_toNat_le] at final
    exact final.1
  have upper : ¬ byte ≤ 0x3f := by
    rw [UInt8.le_iff_toNat_le]
    exact fun small => absurd (Nat.le_trans bounds small) (by decide)
  simp [isParameterByte, upper]

theorem escape_ne_of_parameter {byte : UInt8}
    (parameter : isParameterByte byte) : byte ≠ escape := by
  rintro rfl
  exact absurd parameter (by decide)

theorem escape_ne_of_final {byte : UInt8} (final : isFinalByte byte) :
    byte ≠ escape := by
  rintro rfl
  exact absurd final (by decide)

theorem takeWhile_parameters {parameters : List UInt8}
    (areParameters : ∀ byte ∈ parameters, isParameterByte byte)
    {more : List UInt8}
    (other : ∀ byte, more.head? = some byte → isParameterByte byte = false) :
    (parameters ++ more).takeWhile isParameterByte = parameters := by
  rw [List.takeWhile_append_of_pos areParameters]
  cases more with
  | nil => rw [List.takeWhile_nil, List.append_nil]
  | cons byte rest =>
      rw [List.takeWhile_cons_of_neg (by simp [other byte rfl]),
        List.append_nil]

/-- The text behind an introducer begins with a complete sequence or with an
unterminated one. -/
theorem sequence_cases (behind : List UInt8) :
    (∃ parameters final more, behind = parameters ++ final :: more ∧
        (∀ byte ∈ parameters, isParameterByte byte) ∧ isFinalByte final) ∨
      ∃ parameters more, behind = parameters ++ more ∧
        (∀ byte ∈ parameters, isParameterByte byte) ∧
        ∀ byte, more.head? = some byte →
          isParameterByte byte = false ∧ isFinalByte byte = false := by
  have whole := List.takeWhile_append_dropWhile
    (p := isParameterByte) (l := behind)
  have areParameters : ∀ byte ∈ behind.takeWhile isParameterByte,
      isParameterByte byte := fun byte member =>
    List.mem_takeWhile_imp member
  rcases restEq : behind.dropWhile isParameterByte with _ | ⟨byte, more⟩
  · exact .inr ⟨_, _, whole.symm, areParameters, by simp [restEq]⟩
  · rw [restEq] at whole
    have other : isParameterByte byte = false := by
      have head := List.head?_dropWhile_not isParameterByte behind
      rw [restEq] at head
      simpa using head
    cases final : isFinalByte byte with
    | true => exact .inl ⟨_, _, _, whole.symm, areParameters, final⟩
    | false =>
        refine .inr ⟨_, _, whole.symm, areParameters, ?_⟩
        intro head headEq
        rw [← Option.some.inj headEq]
        exact ⟨other, final⟩

theorem getElem?_eq_head? (text : List UInt8) (i : Nat) :
    text[i]? = (text.drop i).head? := by
  rw [List.head?_drop]

/-- The parameter bytes behind an introducer are skipped. -/
theorem parameterEnd_introducer {text behind : List UInt8} {i : Nat}
    (rest : text.drop i = escape :: bracket :: behind) :
    parameterEnd text (i + 2) =
      i + 2 + (behind.takeWhile isParameterByte).length := by
  rw [parameterEnd_eq, ← List.drop_drop, rest]
  rfl

theorem sequenceEnd_complete {text parameters more : List UInt8} {i : Nat}
    {final : UInt8}
    (rest : text.drop i =
      escape :: bracket :: (parameters ++ final :: more))
    (areParameters : ∀ byte ∈ parameters, isParameterByte byte)
    (isFinal : isFinalByte final) :
    sequenceEnd text i = some (i + parameters.length + 3) := by
  have stop : parameterEnd text (i + 2) = i + 2 + parameters.length := by
    rw [parameterEnd_introducer rest, takeWhile_parameters areParameters]
    intro head headEq
    rw [← Option.some.inj headEq]
    exact not_parameter_of_final isFinal
  have found : text[i + 2 + parameters.length]? = some final := by
    rw [getElem?_eq_head?, Nat.add_assoc, ← List.drop_drop, rest,
      ← List.drop_drop]
    simp
  simp only [sequenceEnd, stop, found, Option.any_some, isFinal, if_true]
  congr 1
  omega

theorem sequenceEnd_discarded {text parameters more : List UInt8} {i : Nat}
    (rest : text.drop i = escape :: bracket :: (parameters ++ more))
    (areParameters : ∀ byte ∈ parameters, isParameterByte byte)
    (neither : ∀ byte, more.head? = some byte →
      isParameterByte byte = false ∧ isFinalByte byte = false) :
    sequenceEnd text i = none := by
  have stop : parameterEnd text (i + 2) = i + 2 + parameters.length := by
    rw [parameterEnd_introducer rest, takeWhile_parameters areParameters]
    exact fun byte head => (neither byte head).1
  have found : text[i + 2 + parameters.length]? = more.head? := by
    rw [getElem?_eq_head?, Nat.add_assoc, ← List.drop_drop, rest,
      ← List.drop_drop]
    simp
  simp only [sequenceEnd, stop, found]
  cases head : more.head? with
  | none => rfl
  | some byte => simp [(neither byte head).2]

theorem passed (text : List UInt8) (scan : Scan) :
    Passed text scan.i scan.out (pass text scan) := by
  unfold pass
  rw [getElem?_eq_head?]
  rcases rest : text.drop scan.i with _ | ⟨byte, more⟩
  · exact .finished rest
  · have next : text[scan.i + 1]? = more.head? := by
      rw [getElem?_eq_head?, ← List.drop_drop, rest]
      rfl
    simp only [List.head?_cons, next]
    split
    · next plain => exact .text byte more rest plain
    · next isEscape =>
        obtain rfl := not_not.mp isEscape
        split
        · next lone => exact .lone more rest lone
        · next introduces =>
            obtain ⟨behind, rfl⟩ :=
              List.head?_eq_some_iff.mp (not_not.mp introduces)
            obtain ⟨parameters, final, more, rfl, areParameters, isFinal⟩ |
              ⟨parameters, more, rfl, areParameters, neither⟩ :=
              sequence_cases behind
            · rw [sequenceEnd_complete rest areParameters isFinal]
              exact .complete parameters final more rest areParameters isFinal
            · rw [sequenceEnd_discarded rest areParameters neither]
              exact .discarded parameters more rest areParameters neither

/-- Every pass moves on, and no pass leaves the line. -/
theorem pass_advances {text : List UInt8} {scan : Scan}
    (inside : scan.i < text.length) :
    scan.i < (pass text scan).i ∧ (pass text scan).i ≤ text.length := by
  have lengthEq : (text.drop scan.i).length = text.length - scan.i :=
    List.length_drop
  have step := passed text scan
  generalize pass text scan = next at step ⊢
  cases step with
  | finished rest =>
      rw [rest, List.length_nil] at lengthEq
      omega
  | text byte more rest => exact ⟨Nat.lt_succ_self _, inside⟩
  | lone more rest => exact ⟨Nat.lt_succ_self _, inside⟩
  | complete parameters final more rest =>
      rw [rest] at lengthEq
      simp only [List.length_cons, List.length_append] at lengthEq
      constructor <;> simp only <;> omega
  | discarded => exact ⟨inside, le_rfl⟩

/-- The loop, from a pass on. -/
def scanFrom (text : List UInt8) (scan : Scan) : Scan :=
  if _inside : scan.i < text.length then scanFrom text (pass text scan)
  else scan
termination_by text.length - scan.i
decreasing_by
  have := pass_advances _inside
  omega

/-- `strip_ansi` -/
def stripAnsi (text : List UInt8) : List UInt8 :=
  if escape ∈ text then (scanFrom text {}).out else text

/-- What the scan makes of the rest of a line. -/
inductive Strips : List UInt8 → List UInt8 → Prop where
  | finished : Strips [] []
  | text {byte : UInt8} {more out : List UInt8} (plain : byte ≠ escape)
      (later : Strips more out) : Strips (byte :: more) (byte :: out)
  | lone {more out : List UInt8} (noIntroducer : more.head? ≠ some bracket)
      (later : Strips more out) : Strips (escape :: more) out
  | complete {parameters more out : List UInt8} {final : UInt8}
      (areParameters : ∀ byte ∈ parameters, isParameterByte byte)
      (isFinal : isFinalByte final) (later : Strips more out) :
      Strips (escape :: bracket :: (parameters ++ final :: more)) out
  | discarded {parameters more : List UInt8}
      (areParameters : ∀ byte ∈ parameters, isParameterByte byte)
      (neither : ∀ byte, more.head? = some byte →
        isParameterByte byte = false ∧ isFinalByte byte = false) :
      Strips (escape :: bracket :: (parameters ++ more)) []

/-- The loop appends to its output what the rest of the line gives. -/
theorem scanFrom_strips (text : List UInt8) (scan : Scan) :
    ∃ kept, (scanFrom text scan).out = scan.out ++ kept ∧
      Strips (text.drop scan.i) kept := by
  fun_induction scanFrom text scan with
  | case1 scan inside ih =>
      obtain ⟨kept, outEq, strips⟩ := ih
      rw [outEq]
      have step := passed text scan
      generalize pass text scan = next at step strips ⊢
      cases step with
      | finished rest =>
          rw [List.drop_eq_nil_iff] at rest
          omega
      | text byte more rest plain =>
          rw [← List.drop_drop, rest] at strips
          rw [rest]
          exact ⟨byte :: kept, List.append_assoc _ _ _, .text plain strips⟩
      | lone more rest noIntroducer =>
          rw [← List.drop_drop, rest] at strips
          rw [rest]
          exact ⟨kept, rfl, .lone noIntroducer strips⟩
      | complete parameters final more rest areParameters isFinal =>
          have behind : text.drop (scan.i + parameters.length + 3) = more := by
            rw [show scan.i + parameters.length + 3 =
              scan.i + (2 + (parameters.length + 1)) by omega,
              ← List.drop_drop, rest, ← List.drop_drop]
            simp
          rw [behind] at strips
          rw [rest]
          exact ⟨kept, rfl, .complete areParameters isFinal strips⟩
      | discarded parameters more rest areParameters neither =>
          rw [List.drop_length] at strips
          cases strips
          rw [rest]
          exact ⟨[], rfl, .discarded areParameters neither⟩
  | case2 scan outside =>
      refine ⟨[], (List.append_nil _).symm, ?_⟩
      rw [List.drop_eq_nil_of_le (Nat.le_of_not_lt outside)]
      exact .finished

theorem strips_of_notMem {text : List UInt8} (free : escape ∉ text) :
    Strips text text := by
  induction text with
  | nil => exact .finished
  | cons byte more ih =>
      rw [List.mem_cons, not_or] at free
      exact .text (Ne.symm free.1) (ih free.2)

theorem stripAnsi_strips (text : List UInt8) :
    Strips text (stripAnsi text) := by
  unfold stripAnsi
  split
  · obtain ⟨kept, outEq, strips⟩ := scanFrom_strips text {}
    rwa [outEq]
  · next free => exact strips_of_notMem free

theorem Strips.notMem {text out : List UInt8} (strips : Strips text out) :
    escape ∉ out := by
  induction strips with
  | finished => exact List.not_mem_nil
  | text plain later ih =>
      rw [List.mem_cons, not_or]
      exact ⟨Ne.symm plain, ih⟩
  | lone noIntroducer later ih => exact ih
  | complete areParameters isFinal later ih => exact ih
  | discarded areParameters neither => exact List.not_mem_nil

theorem Strips.sublist {text out : List UInt8} (strips : Strips text out) :
    out.Sublist text := by
  induction strips with
  | finished => exact List.Sublist.refl _
  | text plain later ih => exact ih.cons_cons _
  | lone noIntroducer later ih => exact ih.cons _
  | complete areParameters isFinal later ih =>
      exact (((ih.cons _).trans (List.sublist_append_right _ _)).cons _).cons _
  | discarded areParameters neither => exact List.nil_sublist _

theorem parameters_unique {first second firstRest secondRest : List UInt8}
    (firstParameters : ∀ byte ∈ first, isParameterByte byte)
    (secondParameters : ∀ byte ∈ second, isParameterByte byte)
    (firstOther : ∀ byte, firstRest.head? = some byte →
      isParameterByte byte = false)
    (secondOther : ∀ byte, secondRest.head? = some byte →
      isParameterByte byte = false)
    (same : first ++ firstRest = second ++ secondRest) :
    first = second ∧ firstRest = secondRest := by
  have firstEq := takeWhile_parameters firstParameters firstOther
  rw [same, takeWhile_parameters secondParameters secondOther] at firstEq
  subst firstEq
  exact ⟨rfl, List.append_cancel_left same⟩

theorem head_not_parameter {final : UInt8} {more : List UInt8}
    (isFinal : isFinalByte final) (byte : UInt8)
    (head : (final :: more).head? = some byte) :
    isParameterByte byte = false := by
  rw [← Option.some.inj head]
  exact not_parameter_of_final isFinal

theorem Strips.introducer {rest out : List UInt8}
    (strips : Strips (escape :: bracket :: rest) out) :
    (∃ parameters final more, rest = parameters ++ final :: more ∧
        (∀ byte ∈ parameters, isParameterByte byte) ∧ isFinalByte final ∧
          Strips more out) ∨
      ∃ parameters more, rest = parameters ++ more ∧
        (∀ byte ∈ parameters, isParameterByte byte) ∧
        (∀ byte, more.head? = some byte →
          isParameterByte byte = false ∧ isFinalByte byte = false) ∧
          out = [] := by
  cases strips with
  | text plain => exact absurd rfl plain
  | lone noIntroducer => exact absurd rfl noIntroducer
  | complete areParameters isFinal later =>
      exact .inl ⟨_, _, _, rfl, areParameters, isFinal, later⟩
  | discarded areParameters neither =>
      exact .inr ⟨_, _, rfl, areParameters, neither, rfl⟩

theorem Strips.of_complete {parameters more out : List UInt8} {final : UInt8}
    (areParameters : ∀ byte ∈ parameters, isParameterByte byte)
    (isFinal : isFinalByte final)
    (strips : Strips (escape :: bracket :: (parameters ++ final :: more))
      out) : Strips more out := by
  obtain ⟨_, _, _, same, otherParameters, otherFinal, later⟩ |
    ⟨_, _, same, otherParameters, neither, -⟩ := strips.introducer
  · obtain ⟨rfl, restEq⟩ := parameters_unique areParameters otherParameters
      (head_not_parameter isFinal) (head_not_parameter otherFinal) same
    rwa [(List.cons.inj restEq).2]
  · obtain ⟨rfl, restEq⟩ := parameters_unique areParameters otherParameters
      (head_not_parameter isFinal) (fun byte head => (neither byte head).1)
      same
    have notFinal := (neither final (congrArg List.head? restEq).symm).2
    rw [isFinal] at notFinal
    cases notFinal

theorem Strips.of_discarded {parameters more out : List UInt8}
    (areParameters : ∀ byte ∈ parameters, isParameterByte byte)
    (neither : ∀ byte, more.head? = some byte →
      isParameterByte byte = false ∧ isFinalByte byte = false)
    (strips : Strips (escape :: bracket :: (parameters ++ more)) out) :
    out = [] := by
  obtain ⟨_, _, _, same, otherParameters, otherFinal, -⟩ |
    ⟨_, _, -, -, -, isEmpty⟩ := strips.introducer
  · obtain ⟨rfl, restEq⟩ := parameters_unique areParameters otherParameters
      (fun byte head => (neither byte head).1) (head_not_parameter otherFinal)
      same
    have notFinal := (neither _ (congrArg List.head? restEq)).2
    rw [otherFinal] at notFinal
    cases notFinal
  · exact isEmpty

/-- The rest of a line determines what is kept of it. -/
theorem Strips.unique {text first second : List UInt8}
    (strips : Strips text first) (other : Strips text second) :
    first = second := by
  induction strips generalizing second with
  | finished => cases other; rfl
  | text plain later ih =>
      cases other with
      | text _ otherLater => rw [ih otherLater]
      | lone => exact absurd rfl plain
      | complete => exact absurd rfl plain
      | discarded => exact absurd rfl plain
  | lone noIntroducer later ih =>
      cases other with
      | text plain => exact absurd rfl plain
      | lone _ otherLater => exact ih otherLater
      | complete => exact absurd rfl noIntroducer
      | discarded => exact absurd rfl noIntroducer
  | complete areParameters isFinal later ih =>
      exact ih (other.of_complete areParameters isFinal)
  | discarded areParameters neither =>
      exact (other.of_discarded areParameters neither).symm

/-- A piece of a well-formed line. -/
inductive Segment where
  | text (bytes : List UInt8) (free : escape ∉ bytes)
  | sequence (parameters : List UInt8)
      (areParameters : ∀ byte ∈ parameters, isParameterByte byte)
      (final : UInt8) (isFinal : isFinalByte final)
  | lone

namespace Segment

def bytes : Segment → List UInt8
  | text bytes _ => bytes
  | sequence parameters _ final _ =>
      escape :: bracket :: (parameters ++ [final])
  | lone => [escape]

/-- The part of a segment that is no escape sequence. -/
def kept : Segment → List UInt8
  | text bytes _ => bytes
  | sequence .. => []
  | lone => []

end Segment

/-- No lone escape byte stands directly before a bracket. -/
def WellFormed : List Segment → Prop
  | [] => True
  | .lone :: more =>
      (more.flatMap Segment.bytes).head? ≠ some bracket ∧ WellFormed more
  | _ :: more => WellFormed more

theorem strips_text {text more out : List UInt8} (free : escape ∉ text)
    (later : Strips more out) : Strips (text ++ more) (text ++ out) := by
  induction text with
  | nil => exact later
  | cons byte text ih =>
      rw [List.mem_cons, not_or] at free
      exact .text (Ne.symm free.1) (ih free.2)

/-- The texts of a well-formed line are kept. -/
theorem strips_segments {segments : List Segment}
    (wellFormed : WellFormed segments) :
    Strips (segments.flatMap Segment.bytes)
      (segments.flatMap Segment.kept) := by
  induction segments with
  | nil => exact .finished
  | cons segment more ih =>
      rw [List.flatMap_cons, List.flatMap_cons]
      cases segment with
      | text bytes free => exact strips_text free (ih wellFormed)
      | sequence parameters areParameters final isFinal =>
          have strips := Strips.complete areParameters isFinal (ih wellFormed)
          simpa [Segment.bytes, Segment.kept] using strips
      | lone => exact .lone wellFormed.1 (ih wellFormed.2)

/-- The loop is over after at most as many passes as the line has bytes. -/
theorem scanFrom_passes (text : List UInt8) (scan : Scan) :
    ∃ passes ≤ text.length - scan.i,
      (pass text)^[passes] scan = scanFrom text scan ∧
        text.length ≤ (scanFrom text scan).i := by
  fun_induction scanFrom text scan with
  | case1 scan inside ih =>
      obtain ⟨passes, few, passesEq, finished⟩ := ih
      have advances := pass_advances inside
      exact ⟨passes + 1, by omega, passesEq, finished⟩
  | case2 scan outside =>
      exact ⟨0, Nat.zero_le _, rfl, Nat.le_of_not_lt outside⟩

theorem stripAnsi_of_notMem {text : List UInt8} (free : escape ∉ text) :
    stripAnsi text = text :=
  if_neg free

/-- `strip_ansi` removes exactly the escape sequences. -/
theorem stripAnsi_exact :
    (∀ text, escape ∉ stripAnsi text ∧
      (stripAnsi text).Sublist text ∧
      (escape ∉ text → stripAnsi text = text) ∧
      stripAnsi (stripAnsi text) = stripAnsi text ∧
      ∃ passes ≤ text.length,
        (pass text)^[passes] {} = scanFrom text {} ∧
          text.length ≤ (scanFrom text {}).i) ∧
    ∀ segments, WellFormed segments →
      stripAnsi (segments.flatMap Segment.bytes) =
        segments.flatMap Segment.kept := by
  refine ⟨fun text => ?_, fun segments wellFormed => ?_⟩
  · have free := (stripAnsi_strips text).notMem
    exact ⟨free, (stripAnsi_strips text).sublist, stripAnsi_of_notMem,
      stripAnsi_of_notMem free, scanFrom_passes text {}⟩
  · exact (stripAnsi_strips _).unique (strips_segments wellFormed)

end PodLog

end CocktailMaker
