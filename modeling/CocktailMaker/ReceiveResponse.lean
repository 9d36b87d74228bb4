import CocktailMaker.PodMessage

/-!
# Receiving the response to a request

A caller waits for a message on the channel of its registration, or for its
timer.  `receive_matching` accepts the message types the caller expects, and
the requests of a `Pod` turn a `Nak`, an unexpected message and a timeout into
their own exceptions.
-/

namespace CocktailMaker

/-- What a request of a `Pod` puts into its exceptions. -/
structure MessageEnvironment where
  podId : PodId
  dispenserId : DispenserId
  deriving DecidableEq

/-- Why `receive_matching` throws a `ProtocolError`: "Could not cast message to
expected message.", or "Expected message doesn't match with received message
id" with the id. -/
inductive ProtocolErrorReason
  | couldNotCast
  | unexpected (received : MsgId)
  deriving DecidableEq

/-- The exceptions of `receive_matching`. -/
inductive ReceiveError
  | timeout
  | protocol (errorStatus : ErrorStatus) (reason : ProtocolErrorReason)
  deriving DecidableEq

/-- The exceptions of a request of a `Pod`. -/
inductive PodError
  | podTimeout (podId : PodId)
  | dispenserEmpty (podId : PodId) (dispenserId : DispenserId)
  | podReceive (podId : PodId) (errorCode : ErrorCode)
  | protocol (errorStatus : ErrorStatus) (reason : ProtocolErrorReason)
  deriving DecidableEq

/-- What ends the race between the channel and the timer. -/
inductive Signal
  | message (message : InMessage)
  | timedOut
  deriving DecidableEq

/-- `read_with_timeout`. -/
def readWithTimeout : Signal → Except ReceiveError InMessage
  | .message message => .ok message
  | .timedOut => .error .timeout

/-- The `dynamic_cast` to the message type with a static id. -/
def castMessage (expected : MsgId) (message : InMessage) : Option InMessage :=
  if message.getId = expected then some message else none

/-- `try_match` of `receive_matching`. -/
def tryMatch (message : InMessage) (result : Option InMessage)
    (expected : MsgId) : Except ReceiveError (Option InMessage) :=
  if result.isSome = true ∨ message.getId ≠ expected then .ok result
  else
    match castMessage expected message with
    | none => .error (.protocol .msgAllocFailure .couldNotCast)
    | some concrete => .ok (some concrete)

/-- `receive_matching`: the first of the expected types that fits. -/
def receiveMatching (expected : List MsgId) (signal : Signal) :
    Except ReceiveError InMessage := do
  let message ← readWithTimeout signal
  match ← expected.foldlM (tryMatch message) none with
  | none => .error (.protocol .invalidMsgId (.unexpected message.getId))
  | some result => .ok result

theorem foldlM_tryMatch_some (message result : InMessage)
    (expected : List MsgId) :
    expected.foldlM (tryMatch message) (some result) = .ok (some result) := by
  induction expected with
  | nil => rfl
  | cons id expected ih =>
      have kept : tryMatch message (some result) id = .ok (some result) := by
        simp [tryMatch]
      rw [List.foldlM_cons, kept]
      exact ih

theorem foldlM_tryMatch (message : InMessage) (expected : List MsgId) :
    expected.foldlM (tryMatch message) none =
      .ok (if message.getId ∈ expected then some message else none) := by
  induction expected with
  | nil => rfl
  | cons id expected ih =>
      rw [List.foldlM_cons]
      by_cases fits : message.getId = id
      · have matched : tryMatch message none id = .ok (some message) := by
          simp [tryMatch, castMessage, fits]
        rw [matched, if_pos (by simp [fits])]
        exact foldlM_tryMatch_some message message expected
      · have passed : tryMatch message none id = .ok none := by
          simp [tryMatch, fits]
        rw [passed]
        refine ih.trans ?_
        simp [fits]

/-- A message is accepted exactly when its type is expected, and no cast
fails. -/
theorem receiveMatching_message (expected : List MsgId) (message : InMessage) :
    receiveMatching expected (.message message) =
      if message.getId ∈ expected then .ok message
      else .error (.protocol .invalidMsgId (.unexpected message.getId)) := by
  simp only [receiveMatching, readWithTimeout, bind, Except.bind,
    foldlM_tryMatch]
  by_cases isExpected : message.getId ∈ expected
  · simp only [if_pos isExpected]
  · simp only [if_neg isExpected]

/-- `process_nak`. -/
def processNak (errorCode : ErrorCode) (env : MessageEnvironment) : PodError :=
  match errorCode with
  | .dispenserEmpty => .dispenserEmpty env.podId env.dispenserId
  | .dispenserNotFound | .invalidParameter | .unsupportedInCurrentState
  | .hardwareFault | .busy | .notCalibrated | .internalError | .valuesLimit =>
      .podReceive env.podId errorCode

/-- The handler of `TimeoutError`. -/
def rethrowTimeout (env : MessageEnvironment) : ReceiveError → PodError
  | .timeout => .podTimeout env.podId
  | .protocol errorStatus reason => .protocol errorStatus reason

/-- Wait for one message type or a `Nak`, which is thrown. -/
def receiveOrNak (expected : MsgId) (env : MessageEnvironment)
    (signal : Signal) : Except PodError InMessage :=
  match receiveMatching [expected, .nak] signal with
  | .error error => .error (rethrowTimeout env error)
  | .ok (.nak errorCode) => .error (processNak errorCode env)
  | .ok message => .ok message

/-- The rest of `send_with_ack` once its wait is over. -/
def sendWithAck (env : MessageEnvironment) (signal : Signal) :
    Except PodError InMessage :=
  receiveOrNak .ack env signal

/-- The rest of `send_action_with_response<RxMsg>` once its own wait is
over. -/
def sendActionWithResponse (rxMsg : MsgId) (env : MessageEnvironment)
    (signal : Signal) : Except PodError InMessage :=
  receiveOrNak rxMsg env signal

theorem receiveOrNak_nak (expected : MsgId) (env : MessageEnvironment)
    (errorCode : ErrorCode) :
    receiveOrNak expected env (.message (.nak errorCode)) =
      .error (processNak errorCode env) := by
  simp [receiveOrNak, receiveMatching_message, InMessage.getId]

theorem receiveOrNak_timedOut (expected : MsgId) (env : MessageEnvironment) :
    receiveOrNak expected env .timedOut = .error (.podTimeout env.podId) :=
  rfl

theorem receiveOrNak_other (expected : MsgId) (env : MessageEnvironment)
    {message : InMessage} (notNak : message.getId ≠ .nak) :
    receiveOrNak expected env (.message message) =
      if message.getId = expected then .ok message
      else
        .error (.protocol .invalidMsgId (.unexpected message.getId)) := by
  simp only [receiveOrNak, receiveMatching_message, List.mem_cons, notNak,
    List.not_mem_nil, or_false]
  by_cases isExpected : message.getId = expected
  · simp only [if_pos isExpected]
    cases message with
    | nak errorCode => exact absurd rfl notNak
    | _ => rfl
  · simp only [if_neg isExpected, rethrowTimeout]

/-- How a signal ends a wait for one message type: silence with a timeout, a
`Nak` with the error for its code, another type with a `ProtocolError`, and
the expected message with its payload. -/
inductive Ends (expected : MsgId) (env : MessageEnvironment) :
    Signal → Except PodError InMessage → Prop
  | timedOut : Ends expected env .timedOut (.error (.podTimeout env.podId))
  | dispenserEmpty :
      Ends expected env (.message (.nak .dispenserEmpty))
        (.error (.dispenserEmpty env.podId env.dispenserId))
  | nak (errorCode : ErrorCode) (notEmpty : errorCode ≠ .dispenserEmpty) :
      Ends expected env (.message (.nak errorCode))
        (.error (.podReceive env.podId errorCode))
  | unexpected (message : InMessage) (notNak : message.getId ≠ .nak)
      (notExpected : message.getId ≠ expected) :
      Ends expected env (.message message)
        (.error (.protocol .invalidMsgId (.unexpected message.getId)))
  | value (message : InMessage) (notNak : message.getId ≠ .nak)
      (isExpected : message.getId = expected) :
      Ends expected env (.message message) (.ok message)

theorem ends_receiveOrNak (expected : MsgId) (env : MessageEnvironment)
    (signal : Signal) :
    Ends expected env signal (receiveOrNak expected env signal) := by
  cases signal with
  | timedOut => exact .timedOut
  | message message =>
      by_cases isNak : message.getId = .nak
      · cases message <;> simp only [InMessage.getId, reduceCtorEq] at isNak
        next errorCode =>
        rw [receiveOrNak_nak]
        by_cases isEmpty : errorCode = .dispenserEmpty
        · subst isEmpty
          exact .dispenserEmpty
        · have ends : Ends expected env (.message (.nak errorCode)) _ :=
            .nak errorCode isEmpty
          cases errorCode <;> first | exact ends | exact absurd rfl isEmpty
      · rw [receiveOrNak_other expected env isNak]
        split
        · next isExpected => exact .value message isNak isExpected
        · next notExpected => exact .unexpected message isNak notExpected

/-- A request returns a value only for the expected message. -/
theorem receiveOrNak_eq_ok {expected : MsgId} {env : MessageEnvironment}
    {signal : Signal} {value : InMessage}
    (returned : receiveOrNak expected env signal = .ok value) :
    signal = .message value ∧ value.getId = expected := by
  cases signal with
  | timedOut =>
      rw [receiveOrNak_timedOut] at returned
      cases returned
  | message message =>
      by_cases isNak : message.getId = .nak
      · cases message <;> simp only [InMessage.getId, reduceCtorEq] at isNak
        rw [receiveOrNak_nak] at returned
        cases returned
      · rw [receiveOrNak_other expected env isNak] at returned
        split at returned
        · next isExpected =>
            cases returned
            exact ⟨rfl, isExpected⟩
        · cases returned

end CocktailMaker
