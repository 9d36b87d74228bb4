import CocktailMaker.CooperativeTasks
import CocktailMaker.PodMessage
import CocktailMaker.Quantities
import Mathlib.Algebra.Group.Pi.Basic
import Mathlib.Algebra.Order.Field.Rat
import Mathlib.Tactic.NormNum

/-!
# The simulated Pod

A simulated Pod answers every request with a coroutine of its own, so requests
are handled next to each other.  Its only state is what is left in its
dispensers.  Whatever is requested in whatever order, the volumes it reports
are the volumes it takes out, and it answers by the communication patterns of
the protocol.
-/

namespace CocktailMaker

namespace SimulatedPod

open LabelledRun

def kNumPumps : Nat := 5

def kNumValves : Nat := 3

/-- An index of `dispenser_volume_`. -/
abbrev DispenserIndex := Fin (kNumPumps + kNumValves)

instance : NeZero (kNumPumps + kNumValves) := ⟨by decide⟩

/-- `dispenser_volume_` -/
abbrev Volumes := DispenserIndex → Litre

/-- The requests with the fields that their handlers read.  The index of a
dispenser is not checked, so only those inside of the array have a defined
effect. -/
inductive Request
  | deviceInfoRequest
  | emergencyStop
  | ping
  | loadCellCalibrateWithRefWeight
  | loadCellTare
  | pumpStartCalibration (pumpStep : Nat)
  | highlightDispenser
  | dispense (dispenserId : DispenserIndex) (millilitre : Rat)
  deriving DecidableEq

/-- A request as `read_loop` sees it. -/
structure Received where
  request : Request
  transactionId : TransactionId
  deriving DecidableEq

/-- A client as its constructor leaves it. -/
def full : Volumes := fun _ => milliLitre 500

/-- `device_info_response_msg_` -/
def deviceInfoResponseMsg (deviceName : String)
    (firmwareMajor firmwareMinor firmwarePatch : Nat) : InMessage :=
  .deviceInfoResponse deviceName firmwareMajor firmwareMinor firmwarePatch
    kNumPumps kNumValves

/-- The end of the handler of `Dispense`, when the time for the requested
volume is over. -/
def finishDispense (dispenserId : DispenserIndex)
    (requestedVolume : Litre) : Coroutine Volumes InMessage :=
  .access
    (fun volumes => Function.update volumes dispenserId
      (if requestedVolume < volumes dispenserId then
        volumes dispenserId - requestedVolume
      else 0))
    fun volumes => .send (.dispenseFinished
      (if requestedVolume < volumes dispenserId then
        requestedVolume.inMilliLitre
      else (volumes dispenserId).inMilliLitre)) .finished

/-- `async_handle` -/
def asyncHandle (deviceInfo : InMessage) :
    Request → Coroutine Volumes InMessage
  | .deviceInfoRequest => .delay 400 (.send deviceInfo .finished)
  | .emergencyStop => .delay 50 (.send .ack .finished)
  | .ping => .delay 400 (.send .pong .finished)
  | .loadCellCalibrateWithRefWeight => .delay 150 (.send .ack .finished)
  | .loadCellTare => .delay 150 (.send .ack .finished)
  | .pumpStartCalibration pumpStep =>
      .delay 50 (.send .ack (.delay (pumpStep + 50)
        (.send (.pumpFinishedCalibrationResponse 230 430) .finished)))
  | .highlightDispenser => .delay 50 (.send .ack .finished)
  | .dispense dispenserId millilitre =>
      let requestedVolume := milliLitre millilitre
      .delay 50 (.access id fun volumes =>
        if volumes dispenserId < milliLitre 5 then
          .send (.nak .dispenserEmpty) .finished
        else
          .send .ack (.delay (requestedVolume.inMilliLitre * 20)
            (finishDispense dispenserId requestedVolume)))

/-- The tasks that the client spawns for the requests it receives. -/
def handle (deviceInfo : InMessage) (received : Received) :
    Coroutine Volumes InMessage :=
  asyncHandle deviceInfo received.request

/-- The frames that `write_loop` writes. -/
def frames (taken : List (Received × InMessage)) : List InFrame :=
  taken.map fun (received, message) => ⟨received.transactionId, message⟩

section Volumes

/-- No dispenser holds less than nothing. -/
def Stocked (volumes : Volumes) : Prop :=
  ∀ dispenserId, 0 ≤ volumes dispenserId

/-- What a message tells about the volume taken out of a dispenser. -/
def dispensed (dispenserId : DispenserIndex)
    (received : Received) (message : InMessage) : Litre :=
  match received.request, message with
  | .dispense other _, .dispenseFinished millilitre =>
      if other = dispenserId then milliLitre millilitre else 0
  | _, _ => 0

/-- What the messages of a task tell about it, the offered one included. -/
def dispensedBy (dispenserId : DispenserIndex)
    (task : CooperativeTask Received Volumes InMessage) : Litre :=
  CooperativeTasks.reported (dispensed dispenserId task.tag) task

variable {deviceInfo : InMessage}

theorem full_stocked : Stocked full := by
  intro dispenserId
  norm_num [full, milliLitre]

theorem finishDispense_preserves (dispenserId : DispenserIndex)
    (requestedVolume : Litre) :
    (finishDispense dispenserId requestedVolume).Preserves Stocked := by
  refine fun volumes stocked => ⟨fun other => ?_, trivial⟩
  dsimp only
  by_cases same : other = dispenserId
  · subst same
    rw [Function.update_self]
    split
    · next enough => exact sub_nonneg.mpr enough.le
    · exact le_rfl
  · rw [Function.update_of_ne same]
    exact stocked other

theorem handle_preserves (received : Received) :
    (handle deviceInfo received).Preserves Stocked := by
  obtain ⟨request, transactionId⟩ := received
  cases request with
  | dispense dispenserId millilitre =>
      refine fun volumes stocked => ⟨stocked, ?_⟩
      dsimp only
      split
      · trivial
      · exact finishDispense_preserves dispenserId _
  | _ => trivial

/-- In every run the handlers go on as they were started. -/
theorem sound_of_run {events : List (CooperativeTasks.Event Received)}
    {last : CooperativeTasks Received Volumes InMessage ×
      List (Received × InMessage)}
    (ran : run (traced (CooperativeTasks.step (handle deviceInfo)))
      ({ state := full }, []) events = some last) :
    Stocked last.1.state ∧ ∀ task ∈ last.1.tasks,
      CooperativeTasks.Sound (handle deviceInfo) Stocked task :=
  CooperativeTasks.sound_of_run handle_preserves
    ⟨full_stocked, List.forall_mem_nil _⟩ ran

theorem finishDispense_balanced (dispenserId : DispenserIndex)
    {received : Received} {requested : DispenserIndex}
    {millilitre : Rat}
    (isDispense : received.request = .dispense requested millilitre) :
    (finishDispense requested (milliLitre millilitre)).Balanced
      (fun volumes => volumes dispenserId) (dispensed dispenserId received)
      0 := by
  refine fun volumes => ⟨?_, rfl⟩
  simp only [dispensed, isDispense]
  by_cases same : requested = dispenserId
  · subst same
    split <;> simp [*]
  · simp [same, Function.update_of_ne (Ne.symm same)]

theorem handle_balanced (dispenserId : DispenserIndex)
    (received : Received) :
    (handle deviceInfo received).Balanced (fun volumes => volumes dispenserId)
      (dispensed dispenserId received) 0 := by
  obtain ⟨request, transactionId⟩ := received
  cases request with
  | dispense requested millilitre =>
      refine ⟨rfl, fun volumes => ?_⟩
      dsimp only
      split
      · exact ⟨by simp [dispensed], rfl⟩
      · exact ⟨by simp [dispensed], rfl, finishDispense_balanced _ rfl⟩
  | pumpStartCalibration pumpStep => exact ⟨rfl, rfl, rfl, rfl, rfl⟩
  | _ => exact ⟨rfl, rfl, rfl⟩

/-- In every run, what is left in a dispenser and what was reported of it make
up what it held at first, and it is never less than nothing. -/
theorem volume_accounted {events : List (CooperativeTasks.Event Received)}
    {last : CooperativeTasks Received Volumes InMessage ×
      List (Received × InMessage)}
    (ran : run (traced (CooperativeTasks.step (handle deviceInfo)))
      ({ state := full }, []) events = some last)
    (dispenserId : DispenserIndex) :
    0 ≤ last.1.state dispenserId ∧
      last.1.state dispenserId +
        (last.1.tasks.map (dispensedBy dispenserId)).sum = milliLitre 500 :=
  ⟨(sound_of_run ran).1 dispenserId,
    CooperativeTasks.total_of_run (handle_balanced dispenserId) ran⟩

end Volumes

section Patterns

/-- The communication patterns of the protocol. -/
inductive Pattern
  | requestResponse (response : MsgId)
  | requestAcknowledgement
  | requestAcknowledgementEvent (event : MsgId)
  deriving DecidableEq

/-- The complete answers of a pattern. -/
def Pattern.Allows : Pattern → List InMessage → Prop
  | .requestResponse response, messages =>
      ∃ message, messages = [message] ∧ message.getId = response
  | .requestAcknowledgement, messages =>
      messages = [.ack] ∨ ∃ errorCode, messages = [.nak errorCode]
  | .requestAcknowledgementEvent event, messages =>
      (∃ errorCode, messages = [.nak errorCode]) ∨
        (∃ errorCode, messages = [.ack, .nak errorCode]) ∨
          ∃ message, messages = [.ack, message] ∧ message.getId = event

/-- The patterns that the protocol uses for the requests. -/
def Request.pattern : Request → Pattern
  | .deviceInfoRequest => .requestResponse .deviceInfoResponse
  | .ping => .requestResponse .pong
  | .emergencyStop | .loadCellCalibrateWithRefWeight | .loadCellTare
  | .highlightDispenser => .requestAcknowledgement
  | .pumpStartCalibration _ =>
      .requestAcknowledgementEvent .pumpFinishedCalibrationResponse
  | .dispense _ _ => .requestAcknowledgementEvent .dispenseFinished

variable {deviceInfo : InMessage}

theorem inMilliLitre_milliLitre (value : Rat) :
    (milliLitre value).inMilliLitre = value :=
  div_mul_cancel₀ value (by norm_num)

theorem trace_finishDispense {dispenserId : DispenserIndex}
    {millilitre : Rat} {messages : List InMessage}
    (trace : (finishDispense dispenserId (milliLitre millilitre)).Trace
      Stocked messages) :
    ∃ poured, messages = [.dispenseFinished poured] ∧ poured ≤ millilitre ∧
      (0 ≤ millilitre → 0 ≤ poured) := by
  obtain ⟨volumes, stocked, later, rfl, rfl⟩ := trace
  refine ⟨_, rfl, ?_⟩
  split
  · rw [inMilliLitre_milliLitre]
    exact ⟨le_rfl, id⟩
  · next notMore =>
      have atMost : volumes dispenserId * 1000 ≤ millilitre := by
        have scaled := mul_le_mul_of_nonneg_right (not_lt.mp notMore)
          (by norm_num : (0 : Rat) ≤ 1000)
        exact scaled.trans_eq (inMilliLitre_milliLitre millilitre)
      exact ⟨atMost, fun _ => mul_nonneg (stocked dispenserId) (by norm_num)⟩

theorem trace_dispense {transactionId : TransactionId}
    {dispenserId : DispenserIndex} {millilitre : Rat}
    {messages : List InMessage}
    (trace : (handle deviceInfo
      ⟨.dispense dispenserId millilitre, transactionId⟩).Trace
        Stocked messages) :
    messages = [.nak .dispenserEmpty] ∨
      ∃ poured, messages = [.ack, .dispenseFinished poured] ∧
        poured ≤ millilitre ∧ (0 ≤ millilitre → 0 ≤ poured) := by
  obtain ⟨volumes, stocked, traceRest⟩ := trace
  dsimp only at traceRest
  split at traceRest
  · obtain ⟨later, rfl, rfl⟩ := traceRest
    exact .inl rfl
  · obtain ⟨later, rfl, traceFinish⟩ := traceRest
    obtain ⟨poured, rfl, bounds⟩ := trace_finishDispense traceFinish
    exact .inr ⟨poured, rfl, bounds⟩

/-- Every handler answers as the protocol wants. -/
theorem allowed_of_trace {received : Received} {messages : List InMessage}
    (isInfo : deviceInfo.getId = .deviceInfoResponse)
    (trace : (handle deviceInfo received).Trace Stocked messages) :
    received.request.pattern.Allows messages := by
  obtain ⟨request, transactionId⟩ := received
  cases request with
  | dispense dispenserId millilitre =>
      rcases trace_dispense trace with rfl | ⟨poured, rfl, _⟩
      · exact .inl ⟨_, rfl⟩
      · exact .inr (.inr ⟨_, rfl, rfl⟩)
  | pumpStartCalibration pumpStep =>
      obtain ⟨later, rfl, last, rfl, rfl⟩ := trace
      exact .inr (.inr ⟨_, rfl, rfl⟩)
  | deviceInfoRequest =>
      obtain ⟨later, rfl, rfl⟩ := trace
      exact ⟨deviceInfo, rfl, isInfo⟩
  | ping =>
      obtain ⟨later, rfl, rfl⟩ := trace
      exact ⟨_, rfl, rfl⟩
  | _ =>
      obtain ⟨later, rfl, rfl⟩ := trace
      exact .inl rfl

def WithId (id : TransactionId) (received : Received) : Prop :=
  received.transactionId = id

instance (id : TransactionId) : DecidablePred (WithId id) :=
  fun _ => inferInstanceAs (Decidable (_ = _))

/-- The messages of the frames with an id. -/
def exchangeFrames (id : TransactionId) (sent : List InFrame) :
    List InMessage :=
  (sent.filter fun frame => frame.transactionId = id).map InFrame.message

theorem exchangeFrames_frames (id : TransactionId)
    (taken : List (Received × InMessage)) :
    exchangeFrames id (frames taken) =
      CooperativeTasks.messagesOf (WithId id) taken := by
  simp only [exchangeFrames, frames, CooperativeTasks.messagesOf,
    List.filter_map, List.map_map]
  rfl

variable {client : CooperativeTasks Received Volumes InMessage}
  {earlier : List (Received × InMessage)}
  {before after : List (CooperativeTasks.Event Received)} {id : TransactionId}
  {request : Request}

/-- The answers to the last request with an id begin a complete answer of its
handler, and they are complete when the handler is finished. -/
theorem exchange_trace
    (ranBefore : run (traced (CooperativeTasks.step (handle deviceInfo)))
      ({ state := full }, []) before = some (client, earlier))
    (concluded : CooperativeTasks.Concluded (WithId id) client)
    (noOther : ∀ received, .spawn received ∈ after → ¬ WithId id received)
    {last : CooperativeTasks Received Volumes InMessage ×
      List (Received × InMessage)}
    (ran : run (traced (CooperativeTasks.step (handle deviceInfo)))
      (client, []) (.spawn ⟨request, id⟩ :: after) = some last) :
    ∃ answers, (handle deviceInfo ⟨request, id⟩).Trace Stocked answers ∧
      exchangeFrames id (frames last.2) <+: answers ∧
      (CooperativeTasks.Concluded (WithId id) last.1 →
        exchangeFrames id (frames last.2) = answers) := by
  obtain ⟨started, stepped, ranAfter⟩ := run_cons_eq_some.mp ran
  cases stepped
  have alone := CooperativeTasks.alone_of_run
    (CooperativeTasks.alone_spawn (handle deviceInfo)
      (rfl : WithId id ⟨request, id⟩) concluded) noOther ranAfter
  obtain ⟨rest, ready, isTask⟩ := alone.isTask
  have isMember := List.mem_of_getElem? isTask
  obtain ⟨stocked, sound⟩ := CooperativeTasks.sound_of_run handle_preserves
    (sound_of_run ranBefore) ran
  obtain ⟨preserves, follows⟩ := sound _ isMember
  obtain ⟨later, trace⟩ := Coroutine.exists_trace preserves stocked
  rw [exchangeFrames_frames]
  refine ⟨_, follows later trace, List.prefix_append _ _, fun finished => ?_⟩
  have isFinished : rest = .finished := finished _ isMember rfl
  subst isFinished
  rw [show later = [] from trace, List.append_nil]

/-- When the exchanges with an id are concluded and one more request arrives
with it, the frames with the id begin a complete answer by the pattern of the
request.  They are complete when its handler is finished, and no more is
dispensed than was asked for. -/
theorem answers_follow_protocol {deviceName : String}
    {firmwareMajor firmwareMinor firmwarePatch : Nat}
    (isInfo : deviceInfo = deviceInfoResponseMsg deviceName firmwareMajor
      firmwareMinor firmwarePatch)
    (ranBefore : run (traced (CooperativeTasks.step (handle deviceInfo)))
      ({ state := full }, []) before = some (client, earlier))
    (concluded : CooperativeTasks.Concluded (WithId id) client)
    (noOther : ∀ received, .spawn received ∈ after → ¬ WithId id received)
    {last : CooperativeTasks Received Volumes InMessage ×
      List (Received × InMessage)}
    (ran : run (traced (CooperativeTasks.step (handle deviceInfo)))
      (client, []) (.spawn ⟨request, id⟩ :: after) = some last) :
    ∃ answers, request.pattern.Allows answers ∧
      (∀ dispenserId millilitre, request = .dispense dispenserId millilitre →
        ∀ poured, .dispenseFinished poured ∈ answers →
          poured ≤ millilitre ∧ (0 ≤ millilitre → 0 ≤ poured)) ∧
      exchangeFrames id (frames last.2) <+: answers ∧
      (CooperativeTasks.Concluded (WithId id) last.1 →
        exchangeFrames id (frames last.2) = answers) := by
  obtain ⟨answers, trace, isPrefix, complete⟩ :=
    exchange_trace ranBefore concluded noOther ran
  refine ⟨answers, allowed_of_trace (isInfo ▸ rfl) trace, ?_, isPrefix,
    complete⟩
  rintro dispenserId millilitre rfl poured isAnswer
  rcases trace_dispense trace with rfl | ⟨volume, rfl, bounds⟩
  · simp at isAnswer
  · obtain rfl : poured = volume := by simpa using isAnswer
    exact bounds

/-- Two requests for one dispenser are handled next to each other, and the
second one gets what the first one leaves. -/
def twoDispenses : List (CooperativeTasks.Event Received) :=
  [.spawn ⟨.dispense 3 300, 1⟩, .spawn ⟨.dispense 3 400, 2⟩, .resume 0,
    .resume 1, .timer 0, .timer 1, .resume 0, .resume 1, .take, .take,
    .resume 0, .resume 1, .timer 0, .timer 1, .resume 0, .resume 1, .take,
    .take, .resume 0, .resume 1]

def client1 : InMessage := deviceInfoResponseMsg "Client1" 1 0 0

theorem frames_twoDispenses :
    (run (traced (CooperativeTasks.step (handle client1)))
      ({ state := full }, []) twoDispenses).map
        (fun last => (frames last.2, last.1.state 3)) =
      some ([⟨1, .ack⟩, ⟨2, .ack⟩, ⟨1, .dispenseFinished 300⟩,
        ⟨2, .dispenseFinished 200⟩], 0) := by
  decide +kernel

theorem volume_accounted_twoDispenses :
    ∃ last, run (traced (CooperativeTasks.step (handle client1)))
        ({ state := full }, []) twoDispenses = some last ∧
      0 ≤ last.1.state 3 ∧
      last.1.state 3 + (last.1.tasks.map (dispensedBy 3)).sum =
        milliLitre 500 := by
  obtain ⟨last, ran, _⟩ := Option.map_eq_some_iff.mp frames_twoDispenses
  exact ⟨last, ran, volume_accounted ran 3⟩

theorem answers_follow_protocol_twoDispenses :
    ∃ answers, (Request.dispense 3 300).pattern.Allows answers ∧
      [.ack, .dispenseFinished 300] <+: answers := by
  obtain ⟨last, ran, written⟩ := Option.map_eq_some_iff.mp frames_twoDispenses
  have isInfo : client1 = deviceInfoResponseMsg "Client1" 1 0 0 := rfl
  have noOther : ∀ received, .spawn received ∈ twoDispenses.tail →
      ¬ WithId 1 received := by
    simp [twoDispenses, WithId]
  obtain ⟨answers, allowed, _, isPrefix, _⟩ :=
    answers_follow_protocol isInfo (run_nil _) (List.forall_mem_nil _) noOther
      ran
  refine ⟨answers, allowed, ?_⟩
  rw [(Prod.mk.inj written).1] at isPrefix
  exact isPrefix

end Patterns

end SimulatedPod

end CocktailMaker
