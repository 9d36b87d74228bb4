import CocktailMaker.CreateDispenser

/-!
# Calibrating a dispenser

The popup of the maintenance area has a step for the reference weight of the
load cell, one for its tare and, for a pump, one that measures what is pumped.
A click starts a task on the io thread, which invokes on the event loop that
the step is running and how it has ended.  The popup can be closed and opened
for another dispenser while a task is under way.
-/

namespace CocktailMaker

namespace DispenserCalibration

open CreateDispenser LabelledRun PodList

inductive CalibrationStepStatus
  | idle
  | running
  | success
  | error
  deriving DecidableEq

/-- The property `state` of `DispenserCalibrationContext`. -/
structure DispenserCalibrationState where
  loadCellStatus : CalibrationStepStatus := .idle
  loadCellTareStatus : CalibrationStepStatus := .idle
  pumpStatus : CalibrationStepStatus := .idle
  measuredMlPerStep : String := ""
  errorMessage : String := ""
  deriving DecidableEq

/-- The step cards of the popup. -/
inductive StepCard
  | referenceWeight
  | tare
  | pumpVolume
  deriving DecidableEq

namespace DispenserCalibrationState

def updateCalibrationError (state : DispenserCalibrationState)
    (error : String) : DispenserCalibrationState :=
  { state with errorMessage := error }

def updateLoadCellRefWeightStatus (state : DispenserCalibrationState)
    (status : CalibrationStepStatus) : DispenserCalibrationState :=
  { state with loadCellStatus := status }

def updateLoadCellTareStatus (state : DispenserCalibrationState)
    (status : CalibrationStepStatus) : DispenserCalibrationState :=
  { state with loadCellTareStatus := status }

def updatePumpStatus (state : DispenserCalibrationState)
    (status : CalibrationStepStatus) : DispenserCalibrationState :=
  { state with pumpStatus := status }

def updatePumpMeasuredCalibratedValue (state : DispenserCalibrationState)
    (litre : String) : DispenserCalibrationState :=
  { state with measuredMlPerStep := litre }

/-- `reset-state`, which gives the number zero as the measured value. -/
def resetState : DispenserCalibrationState where
  measuredMlPerStep := "0"

/-- What a card shows. -/
def status (state : DispenserCalibrationState) :
    StepCard → CalibrationStepStatus
  | .referenceWeight => state.loadCellStatus
  | .tare => state.loadCellTareStatus
  | .pumpVolume => state.pumpStatus

def updateStatus (state : DispenserCalibrationState) (card : StepCard)
    (status : CalibrationStepStatus) : DispenserCalibrationState :=
  match card with
  | .referenceWeight => state.updateLoadCellRefWeightStatus status
  | .tare => state.updateLoadCellTareStatus status
  | .pumpVolume => state.updatePumpStatus status

end DispenserCalibrationState

/-- What a `SpinBox` of the popup holds. -/
structure SpinBoxValue where
  value : Int
  minimum : 1 ≤ value
  maximum : value ≤ 20000
  deriving DecidableEq

/-- The popup while it is open. -/
structure Popup where
  activePod : GuiPod
  activeDispenser : Dispenser
  referenceWeightG : SpinBoxValue := ⟨100, by decide, by decide⟩
  pumpTestSteps : SpinBoxValue := ⟨200, by decide, by decide⟩
  deriving DecidableEq

/-- What a task asks of its dispenser. -/
inductive Command
  | loadCellCalibrateWithRefWeight (grams : SpinBoxValue)
  | loadCellTare
  | pumpCalibrate (steps : SpinBoxValue)
  deriving DecidableEq

def Command.card : Command → StepCard
  | .loadCellCalibrateWithRefWeight _ => .referenceWeight
  | .loadCellTare => .tare
  | .pumpCalibrate _ => .pumpVolume

structure Call where
  podId : PodId
  dispenserId : DispenserId
  command : Command
  deriving DecidableEq

/-- How a task ends: its dispenser has done what was asked, a pump has told
what it has pumped, or an exception was caught. -/
inductive Result
  | done
  | pumped (volume : Litre)
  | failed (what : String)
  deriving DecidableEq

inductive TaskStage
  | spawned
  | waiting
  deriving DecidableEq

structure CalibrationTask where
  call : Call
  stage : TaskStage := .spawned
  deriving DecidableEq

/-- The closures of the bridge. -/
inductive Closure
  | updateStatus (card : StepCard) (status : CalibrationStepStatus)
  | updateCalibrationError (error : String)
  | updatePumpMeasuredCalibratedValue (litre : String)
  deriving DecidableEq

/-- The screen, the tasks on the io thread, what waits for the event loop, and
the Pods of the registry, with an expired pointer where a Pod is gone. -/
structure Station where
  state : DispenserCalibrationState := {}
  popup : Option Popup := none
  tasks : List CalibrationTask := []
  closures : List Closure := []
  pods : List (Option PodInfo) := []
  deriving DecidableEq

/-- The operator opens the popup for a dispenser, closes it, enters a number or
clicks the button of a card; a task begins or is answered; the event loop runs
a closure; the registry changes.  Leaving the maintenance area closes the
popup. -/
inductive Event
  | calibrate (pod : GuiPod) (dispenser : Dispenser)
  | close
  | enterReferenceWeight (grams : SpinBoxValue)
  | enterPumpTestSteps (steps : SpinBoxValue)
  | click (card : StepCard)
  | begin (index : Nat)
  | answer (index : Nat) (result : Result)
  | runClosure
  | registryChanged (pods : List (Option PodInfo))
  deriving DecidableEq

/-- What has happened to the dispensers. -/
inductive Entry
  | opened (podId : PodId) (dispenser : Dispenser)
  | asked (call : Call)
  | ended (call : Call) (result : Result)
  deriving DecidableEq

section Model

def Closure.run (state : DispenserCalibrationState) :
    Closure → DispenserCalibrationState
  | .updateStatus card status => state.updateStatus card status
  | .updateCalibrationError error => state.updateCalibrationError error
  | .updatePumpMeasuredCalibratedValue litre =>
      state.updatePumpMeasuredCalibratedValue litre

/-- The button of a card can be clicked. -/
def Popup.enabled (popup : Popup) (state : DispenserCalibrationState) :
    StepCard → Bool
  | .referenceWeight => state.loadCellStatus != .running
  | .tare => state.loadCellTareStatus != .running
  | .pumpVolume =>
      popup.activeDispenser.type == .pump && state.loadCellStatus == .success &&
        state.pumpStatus != .running

/-- What the button of a card starts. -/
def Popup.call (popup : Popup) (card : StepCard) : Call where
  podId := popup.activePod.id
  dispenserId := popup.activeDispenser.id
  command :=
    match card with
    | .referenceWeight => .loadCellCalibrateWithRefWeight popup.referenceWeightG
    | .tare => .loadCellTare
    | .pumpVolume => .pumpCalibrate popup.pumpTestSteps

/-- A pump answers its calibration with a volume, a load cell has no answer to
give. -/
def Result.answers : Result → Command → Bool
  | .failed _, _ => true
  | .done, .loadCellCalibrateWithRefWeight _ => true
  | .done, .loadCellTare => true
  | .done, .pumpCalibrate _ => false
  | .pumped _, .loadCellCalibrateWithRefWeight _ => false
  | .pumped _, .loadCellTare => false
  | .pumped _, .pumpCalibrate _ => true

variable (formatLitre : Litre → String)

/-- What is invoked on the event loop at the end of a task. -/
def Result.closures (card : StepCard) : Result → List Closure
  | .done => [.updateStatus card .success]
  | .pumped volume =>
      [.updatePumpMeasuredCalibratedValue (formatLitre volume),
        .updateStatus card .success]
  | .failed what => [.updateStatus card .error, .updateCalibrationError what]

/-- The result when the registry knows no such dispenser. -/
def notFound : Result :=
  .failed "Es konnte kein Dispenser gefunden werden."

/-- The task ends with a result. -/
def Station.endTask (station : Station) (index : Nat) (call : Call)
    (before : List Closure) (result : Result) : Station × List Entry :=
  ({ station with
      tasks := station.tasks.eraseIdx index
      closures := station.closures ++ before ++
        result.closures formatLitre call.command.card },
    [.ended call result])

/-- `async_dispatch_load_tare`, `async_dispatch_calibrate_load_cell_ref_weight`
and `async_calibrate_pump` up to where they wait for the dispenser.  A
dispenser that is no pump cannot be calibrated as one, which is asserted. -/
def Station.beginTask (station : Station) (index : Nat) (call : Call) :
    Option (Station × List Entry) :=
  let running := [Closure.updateStatus call.command.card .running]
  match dispenserOfPod call.podId call.dispenserId station.pods with
  | .error _ =>
      some (station.endTask formatLitre index call running notFound)
  | .ok dispenser =>
      if call.command.card = .pumpVolume ∧ dispenser.type ≠ .pump then none
      else
        some
          ({ station with
              tasks := station.tasks.set index { call, stage := .waiting }
              closures := station.closures ++ running },
            [.asked call])

def step (station : Station) : Event → Option (Station × List Entry)
  | .calibrate pod dispenser =>
      if station.popup = none ∧ dispenser ∈ pod.dispensers.getD [] then
        some
          ({ station with
              state := .resetState
              popup := some
                { activePod := pod, activeDispenser := dispenser } },
            [.opened pod.id dispenser])
      else none
  | .close => some ({ station with popup := none }, [])
  | .enterReferenceWeight grams =>
      match station.popup with
      | none => none
      | some popup =>
          if station.state.loadCellStatus ≠ .running then
            some
              ({ station with
                  popup := some { popup with referenceWeightG := grams } }, [])
          else none
  | .enterPumpTestSteps steps =>
      match station.popup with
      | none => none
      | some popup =>
          if popup.activeDispenser.type = .pump ∧
              station.state.loadCellStatus = .success then
            some
              ({ station with
                  popup := some { popup with pumpTestSteps := steps } }, [])
          else none
  | .click card =>
      match station.popup with
      | none => none
      | some popup =>
          if popup.enabled station.state card then
            some
              ({ station with
                  tasks := station.tasks ++ [{ call := popup.call card }] }, [])
          else none
  | .begin index =>
      match station.tasks[index]? with
      | some ⟨call, .spawned⟩ => station.beginTask formatLitre index call
      | some ⟨_, .waiting⟩ => none
      | none => none
  | .answer index result =>
      match station.tasks[index]? with
      | some ⟨call, .waiting⟩ =>
          if result.answers call.command then
            some (station.endTask formatLitre index call [] result)
          else none
      | some ⟨_, .spawned⟩ => none
      | none => none
  | .runClosure =>
      match station.closures with
      | [] => none
      | closure :: closures =>
          some ({ station with state := closure.run station.state, closures },
            [])
  | .registryChanged pods => some ({ station with pods }, [])

/-- The popup has not been opened yet. -/
def start (pods : List (Option PodInfo)) : Station × List Entry :=
  ({ pods }, [])

end Model

section Steps

variable {formatLitre : Litre → String}

/-- The popup was open for the dispenser it is open for. -/
def SameDispenser (popup : Option Popup) (shown : Popup) : Prop :=
  ∃ before, popup = some before ∧ before.activePod = shown.activePod ∧
    before.activeDispenser = shown.activeDispenser

/-- What a step can do. -/
inductive Stepped (formatLitre : Litre → String) (station : Station) :
    Event → Station → List Entry → Prop
  | kept {event : Event} {popup : Option Popup} {pods : List (Option PodInfo)}
      (same : ∀ shown, popup = some shown →
        SameDispenser station.popup shown) :
      Stepped formatLitre station event { station with popup, pods } []
  | opened {pod : GuiPod} {dispenser : Dispenser}
      (closed : station.popup = none)
      (listed : dispenser ∈ pod.dispensers.getD []) :
      Stepped formatLitre station (.calibrate pod dispenser)
        { station with
          state := .resetState
          popup := some { activePod := pod, activeDispenser := dispenser } }
        [.opened pod.id dispenser]
  | clicked {card : StepCard} {popup : Popup}
      (isOpen : station.popup = some popup)
      (enabled : popup.enabled station.state card = true) :
      Stepped formatLitre station (.click card)
        { station with
          tasks := station.tasks ++ [{ call := popup.call card }] } []
  | asked {index : Nat} {call : Call} {dispenser : PodDispenserImpl}
      (spawned : station.tasks[index]? = some ⟨call, .spawned⟩)
      (found : dispenserOfPod call.podId call.dispenserId station.pods =
        .ok dispenser)
      (suits : call.command.card = .pumpVolume → dispenser.type = .pump) :
      Stepped formatLitre station (.begin index)
        { station with
          tasks := station.tasks.set index { call, stage := .waiting }
          closures := station.closures ++
            [.updateStatus call.command.card .running] }
        [.asked call]
  | ended {event : Event} {index : Nat} {task : CalibrationTask}
      {before : List Closure} {result : Result}
      (present : station.tasks[index]? = some task)
      (quiet : before = [] ∨
        before = [.updateStatus task.call.command.card .running])
      (answers : result.answers task.call.command = true) :
      Stepped formatLitre station event
        { station with
          tasks := station.tasks.eraseIdx index
          closures := station.closures ++ before ++
            result.closures formatLitre task.call.command.card }
        [.ended task.call result]
  | ran {closure : Closure} {closures : List Closure}
      (first : station.closures = closure :: closures) :
      Stepped formatLitre station .runClosure
        { station with state := closure.run station.state, closures } []

theorem stepped_beginTask {station next : Station} {index : Nat} {call : Call}
    {entries : List Entry}
    (spawned : station.tasks[index]? = some ⟨call, .spawned⟩)
    (began : station.beginTask formatLitre index call = some (next, entries)) :
    Stepped formatLitre station (.begin index) next entries := by
  unfold Station.beginTask at began
  split at began
  · cases began
    exact .ended spawned (.inr rfl) rfl
  · next dispenser found =>
      split at began
      · cases began
      · next suits =>
          cases began
          refine .asked spawned found fun isPump => ?_
          by_contra notPump
          exact suits ⟨isPump, notPump⟩

theorem stepped_of_step {station next : Station} {event : Event}
    {entries : List Entry}
    (stepped : step formatLitre station event = some (next, entries)) :
    Stepped formatLitre station event next entries := by
  cases event with
  | calibrate pod dispenser =>
      simp only [step] at stepped
      split at stepped
      · next allowed =>
          cases stepped
          exact .opened allowed.1 allowed.2
      · cases stepped
  | close =>
      cases stepped
      exact .kept nofun
  | enterReferenceWeight grams =>
      simp only [step] at stepped
      split at stepped
      · cases stepped
      · next popup isOpen =>
          split at stepped
          · cases stepped
            refine .kept fun shown isShown => ?_
            cases isShown
            exact ⟨popup, isOpen, rfl, rfl⟩
          · cases stepped
  | enterPumpTestSteps steps =>
      simp only [step] at stepped
      split at stepped
      · cases stepped
      · next popup isOpen =>
          split at stepped
          · cases stepped
            refine .kept fun shown isShown => ?_
            cases isShown
            exact ⟨popup, isOpen, rfl, rfl⟩
          · cases stepped
  | click card =>
      simp only [step] at stepped
      split at stepped
      · cases stepped
      · next popup isOpen =>
          split at stepped
          · next enabled =>
              cases stepped
              exact .clicked isOpen enabled
          · cases stepped
  | begin index =>
      simp only [step] at stepped
      split at stepped
      · next spawned => exact stepped_beginTask spawned stepped
      · cases stepped
      · cases stepped
  | answer index result =>
      simp only [step] at stepped
      split at stepped
      · next call waiting =>
          split at stepped
          · next answers =>
              cases stepped
              exact .ended waiting (.inl rfl) answers
          · cases stepped
      · cases stepped
      · cases stepped
  | runClosure =>
      simp only [step] at stepped
      split at stepped
      · cases stepped
      · next closure closures first =>
          cases stepped
          exact .ran first
  | registryChanged pods =>
      cases stepped
      exact .kept fun shown isOpen => ⟨shown, isOpen, rfl, rfl⟩

end Steps

section Screen

variable {formatLitre : Litre → String}

/-- What a card shows when its task has ended. -/
def Result.status : Result → CalibrationStepStatus
  | .done => .success
  | .pumped _ => .success
  | .failed _ => .error

@[simp]
theorem status_updateStatus (state : DispenserCalibrationState)
    (card other : StepCard) (status : CalibrationStepStatus) :
    (state.updateStatus card status).status other =
      if other = card then status else state.status other := by
  cases card <;> cases other <;> rfl

theorem texts_updateStatus (state : DispenserCalibrationState)
    (card : StepCard) (status : CalibrationStepStatus) :
    (state.updateStatus card status).errorMessage = state.errorMessage ∧
      (state.updateStatus card status).measuredMlPerStep =
        state.measuredMlPerStep := by
  cases card <;> exact ⟨rfl, rfl⟩

/-- What is shown when the event loop has run what waits for it. -/
def Station.shown (station : Station) : DispenserCalibrationState :=
  station.closures.foldl Closure.run station.state

@[simp]
theorem status_updateCalibrationError (state : DispenserCalibrationState)
    (error : String) (card : StepCard) :
    (state.updateCalibrationError error).status card = state.status card := by
  cases card <;> rfl

@[simp]
theorem status_updatePumpMeasuredCalibratedValue
    (state : DispenserCalibrationState) (litre : String) (card : StepCard) :
    (state.updatePumpMeasuredCalibratedValue litre).status card =
      state.status card := by
  cases card <;> rfl

theorem status_foldl_closures (state : DispenserCalibrationState)
    (card other : StepCard) (result : Result) :
    ((result.closures formatLitre card).foldl Closure.run state).status other =
      if other = card then result.status else state.status other := by
  cases result <;> simp [Result.closures, Result.status, Closure.run]

theorem status_run_cases (closure : Closure) (card : StepCard) :
    (∃ status, ∀ state, (closure.run state).status card = status) ∨
      ∀ state, (closure.run state).status card = state.status card := by
  cases closure with
  | updateStatus other status =>
      by_cases isCard : card = other
      · exact .inl ⟨status, fun state => by simp [Closure.run, isCard]⟩
      · exact .inr fun state => by simp [Closure.run, isCard]
  | updateCalibrationError error =>
      exact .inr fun state => by simp [Closure.run]
  | updatePumpMeasuredCalibratedValue litre =>
      exact .inr fun state => by simp [Closure.run]

/-- Closures set the status of a card, whatever it was, or leave it as it
is. -/
theorem status_foldl_cases (closures : List Closure) (card : StepCard) :
    (∃ status, ∀ state,
        (closures.foldl Closure.run state).status card = status) ∨
      ∀ state,
        (closures.foldl Closure.run state).status card = state.status card := by
  induction closures with
  | nil => exact .inr fun state => rfl
  | cons closure closures ih =>
      rcases ih with ⟨status, sets⟩ | keeps
      · exact .inl ⟨status, fun state => sets (closure.run state)⟩
      · rcases status_run_cases closure card with ⟨status, sets⟩ | same
        · refine .inl ⟨status, fun state => ?_⟩
          exact (keeps (closure.run state)).trans (sets state)
        · refine .inr fun state => ?_
          exact (keeps (closure.run state)).trans (same state)

/-- A card that is idle on the screen shows afterwards what any other screen
shows, or it is idle. -/
theorem status_shown_reset (station : Station) (card : StepCard)
    {popup : Option Popup} :
    let reset := { station with state := .resetState, popup }
    reset.shown.status card = station.shown.status card ∨
      reset.shown.status card = .idle := by
  rcases status_foldl_cases station.closures card with ⟨status, sets⟩ | keeps
  · exact .inl ((sets _).trans (sets _).symm)
  · refine .inr ((keeps _).trans ?_)
    cases card <;> rfl

end Screen

section Rest

variable {formatLitre : Litre → String}

/-- No task of the card is under way, and nothing waits for the event loop. -/
def Finished (station : Station) (card : StepCard) : Prop :=
  (∀ task ∈ station.tasks, task.call.command.card ≠ card) ∧
    station.closures = []

instance (station : Station) (card : StepCard) :
    Decidable (Finished station card) :=
  inferInstanceAs (Decidable ((∀ _ ∈ station.tasks, _) ∧ _))

/-- What is shown as running is waited for. -/
def RunningWaits (station : Station) : Prop :=
  ∀ card, station.shown.status card = .running →
    ∃ task ∈ station.tasks, task.stage = .waiting ∧
      task.call.command.card = card

theorem mem_set_of_ne {tasks : List CalibrationTask} {index : Nat}
    {old other task : CalibrationTask} (present : tasks[index]? = some old)
    (member : other ∈ tasks) (isOther : other ≠ old) :
    other ∈ tasks.set index task := by
  obtain ⟨position, found⟩ := List.mem_iff_getElem?.mp member
  have elsewhere : index ≠ position := by
    rintro rfl
    rw [present] at found
    exact isOther (Option.some.inj found).symm
  refine List.mem_iff_getElem?.mpr ⟨position, ?_⟩
  rw [List.getElem?_set_ne elsewhere, found]

theorem mem_eraseIdx_of_ne {tasks : List CalibrationTask} {index : Nat}
    {old other : CalibrationTask} (present : tasks[index]? = some old)
    (member : other ∈ tasks) (isOther : other ≠ old) :
    other ∈ tasks.eraseIdx index := by
  obtain ⟨position, found⟩ := List.mem_iff_getElem?.mp member
  refine List.mem_eraseIdx_iff_getElem?.mpr ⟨position, ?_, found⟩
  rintro rfl
  rw [present] at found
  exact isOther (Option.some.inj found).symm

theorem shown_ended {station : Station} {card : StepCard}
    {before : List Closure}
    (quiet : before = [] ∨ before = [.updateStatus card .running])
    (tasks : List CalibrationTask) (result : Result) (other : StepCard) :
    let ended := { station with
      tasks, closures := station.closures ++ before ++
        result.closures formatLitre card }
    ended.shown.status other =
      if other = card then result.status else station.shown.status other := by
  simp only [Station.shown, List.foldl_append, status_foldl_closures]
  rcases quiet with rfl | rfl
  · rfl
  · by_cases isCard : other = card
    · rw [if_pos isCard, if_pos isCard]
    · simp [isCard, Closure.run]

theorem runningWaits_of_stepped {station next : Station} {event : Event}
    {entries : List Entry} (waits : RunningWaits station)
    (stepped : Stepped formatLitre station event next entries) :
    RunningWaits next := by
  intro card running
  cases stepped with
  | kept same => exact waits card running
  | opened closed listed =>
      rcases status_shown_reset station card with same | idle
      · exact waits card (same.symm.trans running)
      · cases idle.symm.trans running
  | clicked isOpen enabled =>
      obtain ⟨task, member, waiting⟩ := waits card running
      exact ⟨task, List.mem_append_left _ member, waiting⟩
  | @asked index call dispenser spawned found suits =>
      by_cases isCard : card = call.command.card
      · refine ⟨⟨call, .waiting⟩, ?_, rfl, isCard.symm⟩
        obtain ⟨inRange, -⟩ := List.getElem?_eq_some_iff.mp spawned
        exact List.mem_set inRange _
      · simp only [Station.shown, List.foldl_append, List.foldl_cons,
          List.foldl_nil, Closure.run, status_updateStatus,
          if_neg isCard] at running
        obtain ⟨task, member, waiting, isTask⟩ := waits card running
        refine ⟨task, mem_set_of_ne spawned member ?_, waiting, isTask⟩
        rintro rfl
        cases waiting
  | @ended _ index task before result present quiet answers =>
      rw [shown_ended quiet] at running
      split at running
      · cases result <;> cases running
      · next isOther =>
          obtain ⟨other, member, waiting, isCard⟩ := waits card running
          refine ⟨other, mem_eraseIdx_of_ne present member ?_, waiting, isCard⟩
          rintro rfl
          exact isOther isCard.symm
  | ran first =>
      refine waits card ?_
      rw [← running, Station.shown, Station.shown, first]
      rfl

variable {pods : List (Option PodInfo)} {events : List Event}
  {station : Station} {entries : List Entry}

theorem runningWaits_of_run
    (ran : run (traced (step formatLitre)) (start pods) events =
      some (station, entries)) : RunningWaits station := by
  refine invariant_of_run (fun current => RunningWaits current.1) ?_ ?_ ran
  · intro current event next waits stepped
    obtain ⟨added, stepped, -⟩ := traced_eq_some.mp stepped
    exact runningWaits_of_stepped waits (stepped_of_step stepped)
  · intro card running
    cases card <;> cases running

theorem Finished.not_running {card : StepCard}
    (finished : Finished station card) (waits : RunningWaits station) :
    station.state.status card ≠ .running := by
  intro running
  have shown : station.shown = station.state := by
    rw [Station.shown, finished.2, List.foldl_nil]
  obtain ⟨task, member, -, isCard⟩ := waits card (shown ▸ running)
  exact finished.1 task member isCard

/-- Once its task has ended a card is not stuck: its button can be clicked
again, that of the pump when the load cell has been calibrated. -/
theorem enabled_iff_of_finished
    (ran : run (traced (step formatLitre)) (start pods) events =
      some (station, entries)) {card : StepCard}
    (finished : Finished station card) (popup : Popup) :
    popup.enabled station.state card = true ↔
      (card = .pumpVolume → popup.activeDispenser.type = .pump ∧
        station.state.loadCellStatus = .success) := by
  have notRunning := finished.not_running (runningWaits_of_run ran)
  cases card with
  | referenceWeight =>
      have idle : station.state.loadCellStatus ≠ .running := notRunning
      simp [Popup.enabled, idle]
  | tare =>
      have idle : station.state.loadCellTareStatus ≠ .running := notRunning
      simp [Popup.enabled, idle]
  | pumpVolume =>
      have idle : station.state.pumpStatus ≠ .running := notRunning
      simp [Popup.enabled, idle]

def twoPumpsRow : GuiPod where
  id := "pod"
  connectionState := .connected
  dispensers := some (dispenserModel twoPumps)

/-- The load cell of the first pump is calibrated. -/
def calibratesScale : List Event :=
  [.calibrate twoPumpsRow ⟨0, .pump⟩, .click .referenceWeight, .begin 0,
    .runClosure, .answer 0 .done, .runClosure]

theorem enabled_iff_of_finished_calibratesScale :
    ∃ station : Station, ∃ entries,
      run (traced (step fun _ => "")) (start [some twoPumps]) calibratesScale =
          some (station, entries) ∧
        ∀ popup : Popup,
          popup.enabled station.state .pumpVolume = true ↔
            (StepCard.pumpVolume = .pumpVolume →
              popup.activeDispenser.type = .pump ∧
                station.state.loadCellStatus = .success) := by
  have ran : (run (traced (step fun _ => "")) (start [some twoPumps])
      calibratesScale).any (fun last =>
        decide (Finished last.1 .pumpVolume)) = true := by
    decide +kernel
  obtain ⟨⟨station, entries⟩, ran, finished⟩ := (Option.any_eq_true _ _).mp ran
  exact ⟨station, entries, ran,
    enabled_iff_of_finished ran (of_decide_eq_true finished)⟩

end Rest

section Results

variable {formatLitre : Litre → String}

/-- How the last task of a card has ended since the popup was opened. -/
def lastResult (card : StepCard) (entries : List Entry) : Option Result :=
  entries.foldl
    (fun last entry =>
      match entry with
      | .opened _ _ => none
      | .asked _ => last
      | .ended call result =>
          if call.command.card = card then some result else last)
    none

/-- The last failure of any task since the popup was opened. -/
def lastFailure (entries : List Entry) : Option String :=
  entries.foldl
    (fun last entry =>
      match entry with
      | .opened _ _ => none
      | .asked _ => last
      | .ended _ (.failed what) => some what
      | .ended _ .done => last
      | .ended _ (.pumped _) => last)
    none

/-- The popup is opened when nothing waits for the event loop. -/
def QuietWhenOpened (current : Station × List Entry) : Event → Prop
  | .calibrate _ _ => current.1.closures = []
  | .close | .enterReferenceWeight _ | .enterPumpTestSteps _ | .click _
  | .begin _ | .answer _ _ | .runClosure | .registryChanged _ => True

instance (current : Station × List Entry) (event : Event) :
    Decidable (QuietWhenOpened current event) :=
  match event with
  | .calibrate _ _ => inferInstanceAs (Decidable (current.1.closures = []))
  | .close | .enterReferenceWeight _ | .enterPumpTestSteps _ | .click _
  | .begin _ | .answer _ _ | .runClosure | .registryChanged _ => .isTrue trivial

/-- The cards show how their last tasks have ended, or that they are running,
the message is the last failure, and the measured value is that of the last
pump calibration. -/
structure Tells (formatLitre : Litre → String)
    (state : DispenserCalibrationState) (entries : List Entry) : Prop where
  status : ∀ card, state.status card =
      ((lastResult card entries).elim .idle Result.status) ∨
    state.status card = .running
  message : state.errorMessage = (lastFailure entries).getD ""
  measured : ∀ volume,
    lastResult .pumpVolume entries = some (.pumped volume) →
      state.measuredMlPerStep = formatLitre volume

theorem Tells.resetState (entries : List Entry) (podId : PodId)
    (dispenser : Dispenser) :
    Tells formatLitre .resetState
      (entries ++ [.opened podId dispenser]) where
  status card := by
    left
    cases card <;> simp [lastResult] <;> rfl
  message := by
    simp [lastFailure, DispenserCalibrationState.resetState]
  measured volume isLast := by
    simp [lastResult] at isLast

variable {state : DispenserCalibrationState} {entries : List Entry}

theorem Tells.running (tells : Tells formatLitre state entries)
    (card : StepCard) :
    Tells formatLitre (state.updateStatus card .running) entries where
  status other := by
    rw [status_updateStatus]
    split
    · exact .inr rfl
    · exact tells.status other
  message := (texts_updateStatus _ _ _).1.trans tells.message
  measured volume isLast :=
    (texts_updateStatus _ _ _).2.trans (tells.measured volume isLast)

theorem Tells.asked (tells : Tells formatLitre state entries) (call : Call) :
    Tells formatLitre state (entries ++ [.asked call]) where
  status card := by simpa [lastResult] using tells.status card
  message := by simpa [lastFailure] using tells.message
  measured volume isLast := by
    refine tells.measured volume ?_
    simpa [lastResult] using isLast

theorem lastResult_ended (card : StepCard) (call : Call) (result : Result) :
    lastResult card (entries ++ [.ended call result]) =
      if call.command.card = card then some result
      else lastResult card entries := by
  simp [lastResult]

theorem measured_foldl_closures (card : StepCard) (result : Result) :
    ((result.closures formatLitre card).foldl Closure.run
        state).measuredMlPerStep =
      match result with
      | .pumped volume => formatLitre volume
      | .done | .failed _ => state.measuredMlPerStep := by
  cases result <;>
    simp [Result.closures, Closure.run, texts_updateStatus,
      DispenserCalibrationState.updateCalibrationError,
      DispenserCalibrationState.updatePumpMeasuredCalibratedValue]

theorem message_foldl_closures (card : StepCard) (result : Result) :
    ((result.closures formatLitre card).foldl Closure.run state).errorMessage =
      match result with
      | .failed what => what
      | .done | .pumped _ => state.errorMessage := by
  cases result <;>
    simp [Result.closures, Closure.run, texts_updateStatus,
      DispenserCalibrationState.updateCalibrationError,
      DispenserCalibrationState.updatePumpMeasuredCalibratedValue]

theorem Tells.ended (tells : Tells formatLitre state entries) {call : Call}
    {result : Result} (answers : result.answers call.command = true) :
    Tells formatLitre
      ((result.closures formatLitre call.command.card).foldl Closure.run state)
      (entries ++ [.ended call result]) where
  status card := by
    rw [status_foldl_closures, lastResult_ended]
    by_cases isCard : card = call.command.card
    · exact .inl (by simp [isCard])
    · rw [if_neg isCard, if_neg (Ne.symm isCard)]
      exact tells.status card
  message := by
    rw [message_foldl_closures]
    cases result with
    | done => simpa [lastFailure] using tells.message
    | pumped volume => simpa [lastFailure] using tells.message
    | failed what => simp [lastFailure]
  measured volume isLast := by
    rw [lastResult_ended] at isLast
    rw [measured_foldl_closures]
    cases result with
    | done =>
        split at isLast
        · cases isLast
        · exact tells.measured volume isLast
    | pumped measured =>
        have isPump : call.command.card = .pumpVolume := by
          cases command : call.command <;>
            simp_all [Result.answers, Command.card]
        rw [if_pos isPump] at isLast
        cases isLast
        rfl
    | failed what =>
        split at isLast
        · cases isLast
        · exact tells.measured volume isLast

theorem tells_of_stepped {station next : Station} {event : Event}
    {added : List Entry} (tells : Tells formatLitre station.shown entries)
    (quiet : QuietWhenOpened (station, entries) event)
    (stepped : Stepped formatLitre station event next added) :
    Tells formatLitre next.shown (entries ++ added) := by
  cases stepped with
  | kept same =>
      rw [List.append_nil]
      exact tells
  | @opened pod dispenser closed listed =>
      have nothing : station.closures = [] := quiet
      simp only [Station.shown, nothing, List.foldl_nil]
      exact .resetState entries pod.id dispenser
  | clicked isOpen enabled =>
      rw [List.append_nil]
      exact tells
  | @asked index call dispenser spawned found suits =>
      simp only [Station.shown, List.foldl_append, List.foldl_cons,
        List.foldl_nil, Closure.run]
      exact (tells.running _).asked call
  | @ended _ index task before result present isBefore answers =>
      simp only [Station.shown, List.foldl_append]
      rcases isBefore with rfl | rfl
      · exact tells.ended answers
      · exact (tells.running _).ended answers
  | @ran closure closures first =>
      rw [List.append_nil]
      rw [Station.shown, first] at tells
      exact tells

variable {pods : List (Option PodInfo)} {events : List Event}
  {station : Station}

theorem tells_of_run
    (opened : EveryStep (traced (step formatLitre)) QuietWhenOpened
      (start pods) events)
    (ran : run (traced (step formatLitre)) (start pods) events =
      some (station, entries)) : Tells formatLitre station.shown entries := by
  have always : Always (traced (step formatLitre))
      (fun current => Tells formatLitre current.1.shown current.2)
      (start pods) events := by
    refine always_of_everyStep ?_ ?_ opened
    · intro current event next tells quiet stepped
      obtain ⟨added, stepped, put⟩ := traced_eq_some.mp stepped
      rw [put]
      exact tells_of_stepped tells quiet (stepped_of_step stepped)
    · exact
        { status := fun card => .inl (by cases card <;> rfl)
          message := rfl
          measured := nofun }
  exact always events (station, entries) List.prefix_rfl ran

/-- When the popup is only opened while nothing waits for the event loop, it
tells how the calibrations of the dispenser have ended, once they have. -/
theorem results_shown
    (opened : EveryStep (traced (step formatLitre)) QuietWhenOpened
      (start pods) events)
    (ran : run (traced (step formatLitre)) (start pods) events =
      some (station, entries)) (performed : station.closures = []) :
    (∀ card, Finished station card → station.state.status card =
      (lastResult card entries).elim .idle Result.status) ∧
    station.state.errorMessage = (lastFailure entries).getD "" ∧
    ∀ volume, lastResult .pumpVolume entries = some (.pumped volume) →
      station.state.measuredMlPerStep = formatLitre volume := by
  have shown : station.shown = station.state := by
    rw [Station.shown, performed, List.foldl_nil]
  have tells : Tells formatLitre station.state entries :=
    shown ▸ tells_of_run opened ran
  refine ⟨fun card finished => ?_, tells.message, tells.measured⟩
  rcases tells.status card with isLast | running
  · exact isLast
  · exact absurd running (finished.not_running (runningWaits_of_run ran))

/-- Behind its load cell the pump is calibrated. -/
def measuresPump : List Event :=
  calibratesScale ++
    [.click .pumpVolume, .begin 0, .runClosure, .answer 0 (.pumped (1 / 10)),
      .runClosure, .runClosure]

theorem results_shown_measuresPump :
    ∃ station : Station, ∃ entries,
      run (traced (step fun _ => "0.1 l")) (start [some twoPumps])
          measuresPump = some (station, entries) ∧
        (∀ card, Finished station card → station.state.status card =
          (lastResult card entries).elim .idle Result.status) ∧
        station.state.errorMessage = (lastFailure entries).getD "" ∧
        (∀ volume, lastResult .pumpVolume entries = some (.pumped volume) →
          station.state.measuredMlPerStep = "0.1 l") ∧
        lastResult .pumpVolume entries = some (.pumped (1 / 10)) := by
  have ran : (run (traced (step fun _ => "0.1 l")) (start [some twoPumps])
      measuresPump).any (fun last => last.1.closures.isEmpty &&
        decide (lastResult .pumpVolume last.2 =
          some (.pumped (1 / 10)))) = true := by
    decide +kernel
  obtain ⟨⟨station, entries⟩, ran, ended⟩ := (Option.any_eq_true _ _).mp ran
  obtain ⟨performed, isLast⟩ := Bool.and_eq_true_iff.mp ended
  obtain ⟨status, message, measured⟩ := results_shown (by decide +kernel) ran
    (List.isEmpty_iff.mp performed)
  exact ⟨station, entries, ran, status, message, measured,
    of_decide_eq_true isLast⟩

end Results

section Scale

variable {formatLitre : Litre → String}

/-- The popup is opened when no load cell is being calibrated. -/
def ScaleIdleWhenOpened (current : Station × List Entry) : Event → Prop
  | .calibrate _ _ =>
      (∀ task ∈ current.1.tasks, task.call.command.card ≠ .referenceWeight) ∧
        .updateStatus .referenceWeight .success ∉ current.1.closures
  | .close | .enterReferenceWeight _ | .enterPumpTestSteps _ | .click _
  | .begin _ | .answer _ _ | .runClosure | .registryChanged _ => True

instance (current : Station × List Entry) (event : Event) :
    Decidable (ScaleIdleWhenOpened current event) :=
  match event with
  | .calibrate _ _ => inferInstanceAs (Decidable ((∀ _ ∈ _, _) ∧ _))
  | .close | .enterReferenceWeight _ | .enterPumpTestSteps _ | .click _
  | .begin _ | .answer _ _ | .runClosure | .registryChanged _ => .isTrue trivial

/-- The load cell of the dispenser has been calibrated. -/
def ScaleCalibrated (podId : PodId) (dispenserId : DispenserId)
    (entries : List Entry) : Prop :=
  ∃ grams, .ended ⟨podId, dispenserId, .loadCellCalibrateWithRefWeight grams⟩
    .done ∈ entries

theorem ScaleCalibrated.append {podId : PodId} {dispenserId : DispenserId}
    {entries : List Entry}
    (calibrated : ScaleCalibrated podId dispenserId entries)
    (added : List Entry) :
    ScaleCalibrated podId dispenserId (entries ++ added) := by
  obtain ⟨grams, member⟩ := calibrated
  exact ⟨grams, List.mem_append_left added member⟩

/-- The popup is open for the dispenser. -/
def Popup.IsFor (popup : Popup) (call : Call) : Prop :=
  popup.activePod.id = call.podId ∧
    popup.activeDispenser.id = call.dispenserId

/-- While the popup is open, load cells are only calibrated for its dispenser,
and what it shows as calibrated is the load cell of that dispenser.  A pump is
only calibrated when its load cell has been. -/
structure ScaleKnown (station : Station) (entries : List Entry) : Prop where
  own : ∀ popup, station.popup = some popup →
    ∀ task ∈ station.tasks, task.call.command.card = .referenceWeight →
      popup.IsFor task.call
  shown : ∀ popup, station.popup = some popup →
    station.state.loadCellStatus = .success ∨
      .updateStatus .referenceWeight .success ∈ station.closures →
    ScaleCalibrated popup.activePod.id popup.activeDispenser.id entries
  pumps : ∀ task ∈ station.tasks, task.call.command.card = .pumpVolume →
    ScaleCalibrated task.call.podId task.call.dispenserId entries

variable {station next : Station} {event : Event} {entries added : List Entry}

theorem calibrated_of_mem_closures {command : Command} {result : Result}
    (answers : result.answers command = true)
    (member : .updateStatus .referenceWeight .success ∈
      result.closures formatLitre command.card) :
    (∃ grams, command = .loadCellCalibrateWithRefWeight grams) ∧
      result = .done := by
  cases command <;> cases result <;>
    simp_all [Result.closures, Result.answers, Command.card]

theorem success_of_run {state : DispenserCalibrationState} {closure : Closure}
    (success : (closure.run state).loadCellStatus = .success) :
    state.loadCellStatus = .success ∨
      closure = .updateStatus .referenceWeight .success := by
  cases closure with
  | updateStatus card status =>
      cases card with
      | referenceWeight =>
          obtain rfl : status = .success := success
          exact .inr rfl
      | tare => exact .inl success
      | pumpVolume => exact .inl success
  | updateCalibrationError error => exact .inl success
  | updatePumpMeasuredCalibratedValue litre => exact .inl success

theorem scaleKnown_of_stepped (known : ScaleKnown station entries)
    (idle : ScaleIdleWhenOpened (station, entries) event)
    (stepped : Stepped formatLitre station event next added) :
    ScaleKnown next (entries ++ added) := by
  cases stepped with
  | @kept _ popup pods same =>
      rw [List.append_nil]
      refine ⟨fun shown isOpen => ?_, fun shown isOpen => ?_, known.pumps⟩
      · obtain ⟨before, wasOpen, samePod, sameDispenser⟩ := same shown isOpen
        intro task member isScale
        obtain ⟨isPod, isDispenser⟩ :=
          known.own before wasOpen task member isScale
        exact ⟨samePod ▸ isPod, sameDispenser ▸ isDispenser⟩
      · obtain ⟨before, wasOpen, samePod, sameDispenser⟩ := same shown isOpen
        rw [← samePod, ← sameDispenser]
        exact known.shown before wasOpen
  | @opened pod dispenser closed listed =>
      obtain ⟨noTask, noClosure⟩ := idle
      refine ⟨?_, ?_, ?_⟩
      · exact fun popup _ task member isScale =>
          absurd isScale (noTask task member)
      · rintro popup - (shown | waiting)
        · cases shown
        · exact absurd waiting noClosure
      · exact fun task member isPump => (known.pumps task member isPump).append _
  | @clicked card popup isOpen enabled =>
      rw [List.append_nil]
      refine ⟨?_, known.shown, ?_⟩
      · intro other isOther task member isScale
        rcases List.mem_append.mp member with isOld | isNew
        · exact known.own other isOther task isOld isScale
        · obtain rfl := List.mem_singleton.mp isNew
          obtain rfl := Option.some.inj (isOpen.symm.trans isOther)
          exact ⟨rfl, rfl⟩
      · intro task member isPump
        rcases List.mem_append.mp member with isOld | isNew
        · exact known.pumps task isOld isPump
        · obtain rfl := List.mem_singleton.mp isNew
          cases card with
          | referenceWeight => cases isPump
          | tare => cases isPump
          | pumpVolume =>
              simp only [Popup.enabled, Bool.and_eq_true, beq_iff_eq] at enabled
              exact known.shown popup isOpen (.inl enabled.1.2)
  | @asked index call dispenser spawned found suits =>
      have wasThere : ∀ task ∈ station.tasks.set index ⟨call, .waiting⟩,
          ∃ before ∈ station.tasks, before.call = task.call := by
        intro task member
        rcases List.mem_or_eq_of_mem_set member with isOld | rfl
        · exact ⟨task, isOld, rfl⟩
        · exact ⟨⟨call, .spawned⟩, List.mem_of_getElem? spawned, rfl⟩
      refine ⟨?_, ?_, ?_⟩
      · intro popup isOpen task member isScale
        obtain ⟨before, isOld, same⟩ := wasThere task member
        rw [← same] at isScale ⊢
        exact known.own popup isOpen before isOld isScale
      · intro popup isOpen isShown
        refine (known.shown popup isOpen ?_).append _
        simpa using isShown
      · intro task member isPump
        obtain ⟨before, isOld, same⟩ := wasThere task member
        rw [← same] at isPump ⊢
        exact (known.pumps before isOld isPump).append _
  | @ended _ index task before result present quiet answers =>
      have wasThere : ∀ other ∈ station.tasks.eraseIdx index,
          other ∈ station.tasks := fun other => List.mem_of_mem_eraseIdx
      refine ⟨?_, ?_, ?_⟩
      · exact fun popup isOpen other member =>
          known.own popup isOpen other (wasThere other member)
      · intro popup isOpen isShown
        simp only [List.mem_append, or_assoc] at isShown
        rcases isShown with shown | waits | isBefore | isNew
        · exact (known.shown popup isOpen (.inl shown)).append _
        · exact (known.shown popup isOpen (.inr waits)).append _
        · rcases quiet with rfl | rfl <;> simp at isBefore
        · obtain ⟨⟨grams, isScale⟩, rfl⟩ :=
            calibrated_of_mem_closures answers isNew
          obtain ⟨isPod, isDispenser⟩ := known.own popup isOpen task
            (List.mem_of_getElem? present) (congrArg Command.card isScale)
          refine ⟨grams, List.mem_append_right _ (List.mem_singleton.mpr ?_)⟩
          rw [isPod, isDispenser, ← isScale]
      · exact fun other member isPump =>
          (known.pumps other (wasThere other member) isPump).append _
  | @ran closure closures first =>
      rw [List.append_nil]
      refine ⟨known.own, fun popup isOpen isShown => ?_, known.pumps⟩
      refine known.shown popup isOpen ?_
      rw [first]
      rcases isShown with success | waits
      · rcases success_of_run success with earlier | rfl
        · exact .inl earlier
        · exact .inr List.mem_cons_self
      · exact .inr (List.mem_cons_of_mem _ waits)

variable {pods : List (Option PodInfo)} {events : List Event}

theorem scaleKnown_of_run
    (opened : EveryStep (traced (step formatLitre)) ScaleIdleWhenOpened
      (start pods) events)
    (ran : run (traced (step formatLitre)) (start pods) events =
      some (station, entries)) : ScaleKnown station entries := by
  have always : Always (traced (step formatLitre))
      (fun current => ScaleKnown current.1 current.2) (start pods) events := by
    refine always_of_everyStep ?_ ⟨nofun, nofun, nofun⟩ opened
    intro current event next known idle stepped
    obtain ⟨added, stepped, put⟩ := traced_eq_some.mp stepped
    rw [put]
    exact scaleKnown_of_stepped known idle (stepped_of_step stepped)
  exact always events (station, entries) List.prefix_rfl ran

/-- When the popup is only opened while no load cell is being calibrated, a
calibration is only asked of a registered pump whose load cell has been
calibrated. -/
theorem pump_calibrated_behind_scale
    (opened : EveryStep (traced (step formatLitre)) ScaleIdleWhenOpened
      (start pods) events)
    (ran : run (traced (step formatLitre)) (start pods) events =
      some (station, entries))
    (stepped : step formatLitre station event = some (next, added))
    {podId : PodId} {dispenserId : DispenserId} {steps : SpinBoxValue}
    (asks : .asked ⟨podId, dispenserId, .pumpCalibrate steps⟩ ∈ added) :
    (∃ info, some info ∈ station.pods ∧ info.id = podId ∧
      createDispenser info dispenserId = .ok ⟨podId, dispenserId, .pump⟩) ∧
    ScaleCalibrated podId dispenserId entries := by
  have known := scaleKnown_of_run opened ran
  cases stepped_of_step stepped with
  | kept | opened | clicked | ended | ran => simp at asks
  | @asked index call dispenser spawned found suits =>
      cases List.mem_singleton.mp asks
      obtain ⟨info, registered, isPod, created⟩ := dispenserOfPod_eq_ok found
      have shape := createDispenser_shape created
      rw [isPod, suits rfl] at shape
      refine ⟨⟨info, registered, isPod, shape ▸ created⟩, ?_⟩
      exact known.pumps _ (List.mem_of_getElem? spawned) rfl

theorem pump_calibrated_behind_scale_twoPumps :
    ∃ station : Station, ∃ entries next added,
      run (traced (step fun _ => "")) (start [some twoPumps])
          (calibratesScale ++ [.click .pumpVolume]) =
        some (station, entries) ∧
      step (fun _ => "") station (.begin 0) = some (next, added) ∧
      (∃ info, some info ∈ station.pods ∧ info.id = "pod" ∧
        createDispenser info 0 = .ok ⟨"pod", 0, .pump⟩) ∧
      ScaleCalibrated "pod" 0 entries := by
  let steps : SpinBoxValue := ⟨200, by decide, by decide⟩
  have ran : (run (traced (step fun _ => "")) (start [some twoPumps])
      (calibratesScale ++ [.click .pumpVolume])).any (fun last =>
        (step (fun _ => "") last.1 (.begin 0)).any fun began =>
          decide (.asked ⟨"pod", 0, .pumpCalibrate steps⟩ ∈ began.2)) =
      true := by
    decide +kernel
  obtain ⟨⟨station, entries⟩, ran, began⟩ := (Option.any_eq_true _ _).mp ran
  obtain ⟨⟨next, added⟩, stepped, asks⟩ := (Option.any_eq_true _ _).mp began
  exact ⟨station, entries, next, added, ran, stepped,
    pump_calibrated_behind_scale (by decide +kernel) ran stepped
      (of_decide_eq_true asks)⟩

-- The popup is opened for the second pump while the load cell of the first one
-- is being calibrated, and the second pump is calibrated without its own.
example : (run (traced (step fun _ => "")) (start [some twoPumps])
    [.calibrate twoPumpsRow ⟨0, .pump⟩, .click .referenceWeight, .begin 0,
      .runClosure, .close, .calibrate twoPumpsRow ⟨1, .pump⟩, .answer 0 .done,
      .runClosure, .click .pumpVolume, .begin 0]).any (fun last =>
        last.2.any fun entry =>
          entry = .asked ⟨"pod", 1,
            .pumpCalibrate ⟨200, by decide, by decide⟩⟩) = true := by
  decide +kernel

end Scale

end DispenserCalibration

end CocktailMaker
