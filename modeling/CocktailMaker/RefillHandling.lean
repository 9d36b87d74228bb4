import CocktailMaker.Binary64
import CocktailMaker.ManualCommandPopup
import CocktailMaker.Recipe

/-!
# Dispensing with a refill

`MachineAdapter` asks the Pod for the volume of a command.  When the measured
volume is off by more than the tolerance, or when the dispenser is empty, the
operator is asked to refill it and the Pod is asked for what is missing.  A Pod
that has dispensed too much is treated in the same way.

Volumes are doubles in litres.  The difference is converted to millilitres and
then compared with the tolerance, so that rounding may decide.
-/

namespace CocktailMaker

namespace RefillHandling

variable {Error : Type*}

/-- An exception that a request to a Pod ends with. -/
inductive DispenseError (Error : Type*)
  | dispenserEmpty
  | other (error : Error)

/-- What comes of a request: the measured volume or an exception. -/
abbrev PodOutcome (Error : Type*) := Except (DispenseError Error) Float

inductive Result (Error : Type*)
  | finished
  | failed (error : DispenseError Error)
  | stopped

/-- The volumes that the Pod is asked for and the popups that are opened. -/
structure Execution (Error : Type*) where
  requests : List Float := []
  popups : List ManualCommand := []
  result : Result Error

/-- In millilitres. -/
def dispenseTolerance : Float := 20

/-- `CommandId` is zero by default. -/
def refillCommand : ManualCommand where
  id := 0
  instruction := "Refill ingredient"

/-- The second part of `execute_command`. -/
def refill (command : DispenseCommand Float) (dispensed : Float)
    (needsRefill : Bool) (popup : ManualCommandPopup.Completion)
    (second : PodOutcome Error) : Execution Error :=
  if needsRefill then
    match popup with
    | .stopped =>
        { requests := [command.volume]
          popups := [refillCommand]
          result := .stopped }
    | .confirmed =>
        { requests := [command.volume, command.volume - dispensed]
          popups := [refillCommand]
          result :=
            match second with
            | .ok _ => .finished
            | .error error => .failed error }
  else { requests := [command.volume], result := .finished }

section Execution

variable (toMilliLitre : Float → Float)

/-- The comparison of the measured volume with the commanded one.  Both sides
are converted to the unit of the tolerance. -/
def exceedsTolerance (volume dispensed : Float) : Bool :=
  toMilliLitre (dispensed - volume).abs > dispenseTolerance

/-- `dispatcher` tells whether there is a dispenser for the ingredient,
`first` and `second` are what comes of the requests to it. -/
def executeCommand (command : DispenseCommand Float)
    (dispatcher : Except Error Unit) (first : PodOutcome Error)
    (popup : ManualCommandPopup.Completion) (second : PodOutcome Error) :
    Execution Error :=
  match dispatcher with
  | .error error => { result := .failed (.other error) }
  | .ok () =>
      match first with
      | .ok dispensed =>
          refill command dispensed
            (exceedsTolerance toMilliLitre command.volume dispensed) popup
            second
      | .error .dispenserEmpty => refill command 0 true popup second
      | .error (.other error) =>
          { requests := [command.volume], result := .failed (.other error) }

end Execution

section Requirements

variable (toMilliLitre : Float → Float)

/-- The dispenser is empty or has dispensed too little. -/
def UnderDelivered (volume : Float) : PodOutcome Error → Prop
  | .ok dispensed =>
      dispensed < volume ∧ exceedsTolerance toMilliLitre volume dispensed
  | .error .dispenserEmpty => True
  | .error (.other _) => False

/-- The first delivery is within the tolerance. -/
def WithinTolerance (volume : Float) : PodOutcome Error → Prop
  | .ok dispensed => ¬ exceedsTolerance toMilliLitre volume dispensed
  | .error _ => False

/-- What is missing after the first request. -/
def missing (volume : Float) : PodOutcome Error → Float
  | .ok dispensed => volume - dispensed
  | .error _ => volume

/-- The refill handling asks for exactly what is missing after the first
request. -/
structure AsksForMissing (volume : Float) (first : PodOutcome Error)
    (popup : ManualCommandPopup.Completion) (second : PodOutcome Error)
    (execution : Execution Error) : Prop where
  nonnegative : ∀ request ∈ execution.requests, 0 ≤ request
  opensPopup : execution.popups ≠ [] ↔
    execution.requests ≠ [] ∧ UnderDelivered toMilliLitre volume first
  asksAgain : execution.requests.length = 2 ↔
    execution.popups ≠ [] ∧ popup = .confirmed
  exactly : ∀ request ∈ execution.requests[1]?, request = missing volume first
  finished : execution.result = .finished →
    WithinTolerance toMilliLitre volume first ∨
      execution.requests.length = 2 ∧ ∃ dispensed, second = .ok dispensed

/-- The Pod has dispensed too much. -/
def OverDelivered (volume : Float) (first : PodOutcome Error) : Prop :=
  ∃ dispensed, first = .ok dispensed ∧ ¬ dispensed < volume ∧
    exceedsTolerance toMilliLitre volume dispensed

end Requirements

section Refill

variable {toMilliLitre : Float → Float} {command : DispenseCommand Float}
  {first second : PodOutcome Error} {popup : ManualCommandPopup.Completion}
  {dispensed : Float}

/-- A refill that is needed asks for the rest. -/
theorem asksForMissing_refill (volumeNonneg : 0 ≤ command.volume)
    (underDelivered : UnderDelivered toMilliLitre command.volume first)
    (restNonneg : 0 ≤ command.volume - dispensed)
    (isMissing : command.volume - dispensed = missing command.volume first) :
    AsksForMissing toMilliLitre command.volume first popup second
      (refill command dispensed true popup second) := by
  cases popup with
  | stopped =>
      refine ⟨?_, ?_, ?_, ?_, ?_⟩ <;>
        simp [refill, underDelivered, volumeNonneg]
  | confirmed =>
      refine ⟨?_, ?_, ?_, ?_, ?_⟩
      · simpa [refill] using ⟨volumeNonneg, restNonneg⟩
      · simp [refill, underDelivered]
      · simp [refill]
      · simpa [refill] using isMissing
      · intro finished
        cases second with
        | ok rest => exact .inr ⟨rfl, rest, rfl⟩
        | error error => simp [refill] at finished

theorem asksForMissing_noRefill (volumeNonneg : 0 ≤ command.volume)
    (notUnder : ¬ UnderDelivered toMilliLitre command.volume first)
    (within : WithinTolerance toMilliLitre command.volume first) :
    AsksForMissing toMilliLitre command.volume first popup second
      (refill command dispensed false popup second) := by
  refine ⟨?_, ?_, ?_, ?_, ?_⟩ <;> simp [refill, notUnder, volumeNonneg, within]

theorem asksForMissing_measured_iff (volumeNonneg : 0 ≤ command.volume)
    (dispensed : Float) (popup : ManualCommandPopup.Completion)
    (second : PodOutcome Error) :
    AsksForMissing toMilliLitre command.volume (.ok dispensed) popup second
        (executeCommand toMilliLitre command (.ok ()) (.ok dispensed) popup
          second) ↔
      ¬ (¬ dispensed < command.volume ∧
        exceedsTolerance toMilliLitre command.volume dispensed) := by
  cases exceeds : exceedsTolerance toMilliLitre command.volume dispensed with
  | false =>
      refine iff_of_true ?_ (by simp)
      simp only [executeCommand, exceeds]
      apply asksForMissing_noRefill volumeNonneg
      · simp [UnderDelivered, exceeds]
      · simp [WithinTolerance, exceeds]
  | true =>
      simp only [executeCommand, exceeds]
      constructor
      · rintro asks ⟨notLess, -⟩
        -- The popup is opened, so the Pod must have dispensed too little.
        have opened :
            (refill command dispensed true popup second).popups ≠ [] := by
          cases popup <;> simp [refill]
        have under : dispensed < command.volume ∧ _ :=
          (asks.opensPopup.mp opened).2
        exact notLess under.1
      · intro notOver
        have less : dispensed < command.volume := by
          by_contra notLess
          exact notOver ⟨notLess, trivial⟩
        exact asksForMissing_refill volumeNonneg ⟨less, exceeds⟩
          (Binary64.sub_nonneg_of_lt less) rfl

end Refill

section MainResult

/-- Refill handling asks for exactly what is missing, unless the first request
has dispensed too much. -/
theorem asksForMissing_iff (toMilliLitre : Float → Float)
    (command : DispenseCommand Float) (volumeNonneg : 0 ≤ command.volume)
    (dispatcher : Except Error Unit) (first : PodOutcome Error)
    (popup : ManualCommandPopup.Completion) (second : PodOutcome Error) :
    AsksForMissing toMilliLitre command.volume first popup second
        (executeCommand toMilliLitre command dispatcher first popup second) ↔
      (dispatcher = .ok () →
        ¬ OverDelivered toMilliLitre command.volume first) := by
  cases dispatcher with
  | error error =>
      refine iff_of_true ?_ nofun
      refine ⟨?_, ?_, ?_, ?_, ?_⟩ <;> simp [executeCommand]
  | ok found =>
      rw [forall_prop_of_true rfl]
      rcases first with (_ | error) | dispensed
      · -- The dispenser is empty.
        refine iff_of_true ?_ (by rintro ⟨_, isOk, -⟩; cases isOk)
        have whole := Binary64.sub_zero command.volume
        apply asksForMissing_refill volumeNonneg
        · trivial
        · rwa [whole]
        · exact whole
      · refine iff_of_true ?_ (by rintro ⟨_, isOk, -⟩; cases isOk)
        refine ⟨?_, ?_, ?_, ?_, ?_⟩ <;>
          simp [executeCommand, UnderDelivered, volumeNonneg]
      · have tooMuch : OverDelivered toMilliLitre command.volume
            (.ok dispensed : PodOutcome Error) ↔
              ¬ dispensed < command.volume ∧
                exceedsTolerance toMilliLitre command.volume dispensed := by
          simp [OverDelivered]
        rw [tooMuch]
        exact asksForMissing_measured_iff volumeNonneg dispensed popup second

/-- The Pod dispenses 10 mL instead of 40 mL. -/
theorem asksForMissing_iff_measured :
    AsksForMissing (· * 1000) 0.04 (.ok 0.01) .confirmed (.ok 0.03)
        (executeCommand (· * 1000) ⟨1, "rum", 0.04⟩ (.ok ()) (.ok 0.01)
          .confirmed (.ok 0.03 : PodOutcome Empty)) ↔
      ((.ok () : Except Empty Unit) = .ok () →
        ¬ OverDelivered (· * 1000) 0.04 (.ok 0.01 : PodOutcome Empty)) :=
  asksForMissing_iff (· * 1000) ⟨1, "rum", 0.04⟩ (by decide) (.ok ())
    _ _ _

/-- The Pod dispenses 70 mL instead of 40 mL and is asked for -30 mL. -/
theorem not_asksForMissing_overDelivered :
    ¬ ∀ (command : DispenseCommand Float) (dispatcher : Except Empty Unit)
      (first second : PodOutcome Empty) (popup : ManualCommandPopup.Completion),
      0 ≤ command.volume →
      AsksForMissing (· * 1000) command.volume first popup second
        (executeCommand (· * 1000) command dispatcher first popup second) := by
  intro always
  have asks := always ⟨1, "rum", 0.04⟩ (.ok ()) (.ok 0.07) (.ok 0) .confirmed
    (by decide)
  have requests : (executeCommand (· * 1000) ⟨1, "rum", 0.04⟩
      (.ok () : Except Empty Unit) (.ok 0.07) .confirmed (.ok 0)).requests =
        [0.04, 0.04 - 0.07] := by
    have exceeds : exceedsTolerance (· * 1000) 0.04 0.07 = true := by
      decide
    simp only [executeCommand, exceeds]
    rfl
  have negative := asks.nonnegative (0.04 - 0.07) (by simp [requests])
  exact absurd negative (by decide)

/-- Rounding carries a delivery of 50 mL instead of 30 mL over the
tolerance. -/
example : exceedsTolerance (· * 1000) 0.03 0.05 = true := by
  decide

end MainResult

end RefillHandling

end CocktailMaker
