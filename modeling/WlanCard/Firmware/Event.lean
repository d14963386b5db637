import WlanCard.Word

/-!
# Firmware events

The firmware tells the host of events: an event number, least significant byte first, and a payload
of at most 128 bytes. A longer payload is cut off.
-/

namespace WlanCard

/-- The events that the firmware knows. -/
inductive FirmwareEvent where
  | ready
  | connect
  | disconnect
  | bssInfo
  | commandError
  | regulatoryDomain
deriving DecidableEq, Repr

/-- The number of an event. -/
def FirmwareEvent.id : FirmwareEvent → UInt16
  | .ready => 0x1001
  | .connect => 0x1002
  | .disconnect => 0x1003
  | .bssInfo => 0x1004
  | .commandError => 0x1005
  | .regulatoryDomain => 0x1006

namespace FirmwareEvent

/-- The number of bytes in an event or command number. -/
def idLength : Nat := 2

/-- The longest payload of an event. -/
def maxPayload : Nat := 128

/-- The message that tells the host of an event. -/
def message (id : UInt16) (payload : List UInt8) : List UInt8 :=
  Word.littleEndian idLength id.toBitVec ++ payload.take maxPayload

end FirmwareEvent

end WlanCard
