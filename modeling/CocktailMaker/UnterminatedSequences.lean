import CocktailMaker.StripAnsi

/-!
# Escape sequences without an end

By its documentation, `strip_ansi` discards the rest of a line only when no
final byte follows an introducer.  The scan does not look for one: it decides
at the first byte that is no parameter byte.  What lies behind another byte
there is lost, although a final byte may still follow.
-/

namespace CocktailMaker

namespace PodLog

/-- Positions at which a pass through the body begins. -/
def Reached (text : List UInt8) (i : Nat) : Prop :=
  ∃ passes, ((pass text)^[passes] {}).i = i

/-- A sequence ends behind the first final byte after its introducer, and only
a sequence without one counts as unterminated. -/
def DiscardsOnlyUnterminated (text : List UInt8) : Prop :=
  ∀ i behind, Reached text i →
    text.drop i = escape :: bracket :: behind →
      sequenceEnd text i = (behind.findIdx? isFinalByte).map (i + 3 + ·)

/-- Behind every introducer of the line, a final byte is the first byte that is
no parameter byte, or there is no final byte at all. -/
def NeverInterrupted (text : List UInt8) : Prop :=
  ∀ before behind, text = before ++ escape :: bracket :: behind →
    (behind.dropWhile isParameterByte).head?.any isFinalByte ∨
      ∀ byte ∈ behind, isFinalByte byte = false

theorem findIdx?_complete {parameters more : List UInt8} {final : UInt8}
    (areParameters : ∀ byte ∈ parameters, isParameterByte byte)
    (isFinal : isFinalByte final) :
    (parameters ++ final :: more).findIdx? isFinalByte =
      some parameters.length := by
  have notFinal : ∀ byte ∈ parameters, isFinalByte byte = false := by
    intro byte member
    by_contra final
    have other := not_parameter_of_final (Bool.of_not_eq_false final)
    rw [areParameters byte member] at other
    cases other
  rw [List.findIdx?_append, List.findIdx?_eq_none_iff.mpr notFinal]
  simp [List.findIdx?_cons, isFinal]

/-- The scan finds the end of a sequence unless another byte interrupts it. -/
theorem sequenceEnd_iff {text behind : List UInt8} {i : Nat}
    (rest : text.drop i = escape :: bracket :: behind) :
    sequenceEnd text i = (behind.findIdx? isFinalByte).map (i + 3 + ·) ↔
      ((behind.dropWhile isParameterByte).head?.any isFinalByte ∨
        ∀ byte ∈ behind, isFinalByte byte = false) := by
  obtain ⟨parameters, final, more, rfl, areParameters, isFinal⟩ |
    ⟨parameters, more, rfl, areParameters, neither⟩ := sequence_cases behind
  · rw [sequenceEnd_complete rest areParameters isFinal,
      findIdx?_complete areParameters isFinal,
      List.dropWhile_append_of_pos areParameters,
      List.dropWhile_cons_of_neg (by simp [not_parameter_of_final isFinal])]
    refine iff_of_true ?_ (.inl isFinal)
    simp only [Option.map_some, Option.some.injEq]
    omega
  · have interrupted :
        ¬ ((parameters ++ more).dropWhile isParameterByte).head?.any
          isFinalByte := by
      rw [List.dropWhile_append_of_pos areParameters]
      cases more with
      | nil => simp
      | cons byte more =>
          obtain ⟨other, notFinal⟩ := neither byte rfl
          simp [other, notFinal]
    rw [sequenceEnd_discarded rest areParameters neither, eq_comm,
      Option.map_eq_none_iff, List.findIdx?_eq_none_iff]
    exact (or_iff_right interrupted).symm

theorem introducer_behind {text plain more behind : List UInt8} {head : UInt8}
    {i introducer : Nat} (rest : text.drop i = head :: (plain ++ more))
    (free : escape ∉ plain)
    (introduced : text.drop introducer = escape :: bracket :: behind)
    (later : i < introducer) : i + 1 + plain.length ≤ introducer := by
  by_contra among
  have offset : introducer = i + ((introducer - i - 1) + 1) := by omega
  have found : text[introducer]? = some escape := by
    rw [getElem?_eq_head?, introduced]
    rfl
  rw [offset, ← List.getElem?_drop, rest, List.getElem?_cons_succ,
    List.getElem?_append_left (by omega)] at found
  exact free (List.mem_of_getElem? found)

/-- While only unterminated sequences are discarded, no pass jumps over an
introducer. -/
theorem pass_le_introducer {text behind : List UInt8}
    (documented : DiscardsOnlyUnterminated text) {introducer : Nat}
    (introduced : text.drop introducer = escape :: bracket :: behind)
    {scan : Scan} (reached : Reached text scan.i)
    (later : scan.i < introducer) : (pass text scan).i ≤ introducer := by
  have step := passed text scan
  generalize pass text scan = next at step ⊢
  cases step with
  | finished => exact later.le
  | text => exact later
  | lone => exact later
  | complete parameters final more rest areParameters isFinal =>
      have free : escape ∉ bracket :: (parameters ++ [final]) := by
        simp only [List.mem_cons, List.mem_append, List.not_mem_nil, or_false,
          not_or]
        refine ⟨by decide, ?_, (escape_ne_of_final isFinal).symm⟩
        exact fun member =>
          escape_ne_of_parameter (areParameters escape member) rfl
      have split : text.drop scan.i =
          escape :: (bracket :: (parameters ++ [final]) ++ more) := by
        simp [rest]
      have behindSequence := introducer_behind split free introduced later
      simp only [List.length_cons, List.length_append, List.length_nil]
        at behindSequence
      simp only
      omega
  | discarded parameters more rest areParameters neither =>
      have noEnd := documented scan.i _ reached rest
      rw [sequenceEnd_discarded rest areParameters neither, eq_comm,
        Option.map_eq_none_iff, List.findIdx?_eq_none_iff] at noEnd
      have suffix : text.drop (introducer + 1) <:+ text.drop (scan.i + 2) :=
        List.drop_suffix_drop_left text (by omega)
      rw [← List.drop_drop, introduced, ← List.drop_drop, rest] at suffix
      have final := noEnd bracket (suffix.subset (List.mem_cons_self ..))
      exact absurd final (by decide)

/-- While only unterminated sequences are discarded, the scan reaches every
introducer. -/
theorem reached_introducer {text behind : List UInt8}
    (documented : DiscardsOnlyUnterminated text) {introducer : Nat}
    (introduced : text.drop introducer = escape :: bracket :: behind)
    (passes : Nat) (before : ((pass text)^[passes] {}).i ≤ introducer) :
    Reached text introducer := by
  induction distance : introducer - ((pass text)^[passes] {}).i
    using Nat.strongRecOn generalizing passes with
  | _ distance ih =>
      rcases Nat.eq_or_lt_of_le before with here | later
      · exact ⟨passes, here⟩
      · have inside : introducer < text.length := by
          by_contra outside
          rw [List.drop_eq_nil_of_le (Nat.le_of_not_lt outside)] at introduced
          cases introduced
        have advances := (pass_advances (later.trans inside)).1
        have reaches :=
          pass_le_introducer documented introduced ⟨passes, rfl⟩ later
        have next := Function.iterate_succ_apply' (pass text) passes {}
        exact ih _ (by rw [next]; omega) (passes + 1) (next ▸ reaches) rfl

/-- `strip_ansi` discards only what it documents in exactly the lines in which
no other byte stands between an introducer and the final byte. -/
theorem discardsOnlyUnterminated_iff (text : List UInt8) :
    DiscardsOnlyUnterminated text ↔ NeverInterrupted text := by
  constructor
  · rintro documented before behind rfl
    have introduced : (before ++ escape :: bracket :: behind).drop
        before.length = escape :: bracket :: behind := List.drop_left
    exact (sequenceEnd_iff introduced).mp (documented _ _
      (reached_introducer documented introduced 0 (Nat.zero_le _)) introduced)
  · intro never i behind reached rest
    refine (sequenceEnd_iff rest).mpr (never (text.take i) behind ?_)
    rw [← rest, List.take_append_drop]

/-- A control byte behind the introducer costs the rest of the line. -/
theorem not_discardsOnlyUnterminated_control :
    ¬ DiscardsOnlyUnterminated
      [escape, bracket, 0x07, 0x6d, 0x61, 0x62, 0x63] := by
  intro documented
  obtain final | unterminated :=
    (sequenceEnd_iff rfl).mp (documented 0 _ ⟨0, rfl⟩ rfl)
  · exact absurd final (by decide)
  · exact absurd unterminated (by decide)

end PodLog

end CocktailMaker
