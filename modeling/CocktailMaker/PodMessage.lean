import Mathlib.Data.List.Basic

/-!
# Messages of the Station-Pod link

The status codes of the generated frame code, the error codes a Pod can answer
with, and the messages a Station receives.  Every received message travels in
a frame that carries a transaction id next to it.  Pods and their dispensers
have ids.
-/

namespace CocktailMaker

abbrev PodId := String

abbrev DispenserId := Int

/-- `comms::ErrorStatus`. -/
inductive ErrorStatus
  | success
  | updateRequired
  | notEnoughData
  | protocolError
  | bufferOverflow
  | invalidMsgId
  | invalidMsgData
  | msgAllocFailure
  | notSupported
  deriving DecidableEq, Repr

/-- The reasons a `Nak` can carry, `proto::field::ErrorCodeCommon`. -/
inductive ErrorCode
  | invalidParameter
  | dispenserNotFound
  | unsupportedInCurrentState
  | hardwareFault
  | busy
  | notCalibrated
  | internalError
  | dispenserEmpty
  | valuesLimit
  deriving DecidableEq, Repr

/-- `TransactionId::ValueType`, an 8-bit unsigned number. -/
abbrev TransactionId := UInt8

/-- The message types a Pod sends, each with its own static message id. -/
inductive MsgId
  | pong
  | ack
  | nak
  | deviceInfoResponse
  | pumpFinishedCalibrationResponse
  | dispenseFinished
  deriving DecidableEq, Repr

/-- A received message with the fields of its type. -/
inductive InMessage
  | pong
  | ack
  | nak (errorCode : ErrorCode)
  | deviceInfoResponse (deviceName : String) (firmwareMajor firmwareMinor
      firmwarePatch numPumps numValves : Nat)
  | pumpFinishedCalibrationResponse (millilitre pumpStep : Rat)
  | dispenseFinished (millilitre : Rat)
  deriving DecidableEq, Repr

/-- `msg->getId()`. -/
def InMessage.getId : InMessage → MsgId
  | .pong => .pong
  | .ack => .ack
  | .nak _ => .nak
  | .deviceInfoResponse .. => .deviceInfoResponse
  | .pumpFinishedCalibrationResponse .. => .pumpFinishedCalibrationResponse
  | .dispenseFinished _ => .dispenseFinished

/-- A message as `read_loop` sees it: the transport field and the message. -/
structure InFrame where
  transactionId : TransactionId
  message : InMessage
  deriving DecidableEq, Repr

end CocktailMaker
