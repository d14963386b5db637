import WlanCard.Firmware.Event
import WlanCard.HostInterface.Basic

/-!
# The firmware's side of the control mailbox

Once the host has handed over to the firmware, the firmware owns the control mailbox. After a delay
it announces itself, once, by a ready event with the station address and the capability of the radio.
It acts on no command of the host and counts those that are long enough to carry a command number.
-/

namespace WlanCard

/-- A station address: six bytes, the first of which says whether it stands for a group. -/
abbrev StationAddress := Vector UInt8 6

/-- The capabilities of the radio. -/
inductive RadioCapability where
  | band11a
  | band11g
  | band11ag
deriving DecidableEq, Repr

/-- The byte that stands for a capability. -/
def RadioCapability.code : RadioCapability → UInt8
  | .band11a => 1
  | .band11g => 2
  | .band11ag => 3

/-- The running firmware, as the host sees it. -/
structure Firmware where
  station : StationAddress
  capability : UInt8
  /-- Whether the ready event has been sent. -/
  announced : Bool := false
  /-- The number of commands received and not acted on. -/
  unhandled : Nat := 0
deriving DecidableEq, Repr

namespace Firmware

/-- The ready event. -/
def readyMessage (f : Firmware) : List UInt8 :=
  FirmwareEvent.message FirmwareEvent.ready.id (f.station.toList ++ [f.capability])

/-- Announces the firmware: the message for the host, the first time, and the firmware after it. -/
def announce (f : Firmware) : Option (List UInt8) × Firmware :=
  if f.announced then (none, f) else (some f.readyMessage, { f with announced := true })

/-- The least length of a message with a command number: behind the frame's header. -/
def leastCommandLength : Nat :=
  HostInterface.frameHeaderLength + FirmwareEvent.idLength

/-- The firmware after a message of the given length from the host. -/
def receive (f : Firmware) (length : Nat) : Firmware :=
  if length < leastCommandLength then f else { f with unhandled := f.unhandled + 1 }

end Firmware

end WlanCard
