import WlanCard.Firmware
import WlanCard.Journal
import WlanCard.Text.Numeral

/-!
# The journal of the firmware

The firmware tells of its start, of its ready event, and of every message from the host, on none of
which it acts.
-/

namespace WlanCard

open Text

/-- What the firmware has to tell. -/
inductive FirmwareNotice where
  | created
  | ready (station : StationAddress) (capability : UInt8)
  | short (length : Nat)
  | unhandled (command payload length : Nat)
deriving DecidableEq, Repr

/-- The entry of a notice. -/
def FirmwareNotice.entry : FirmwareNotice → Entry
  | created => ⟨.debug, "WMI transport created"⟩
  | ready station capability =>
    ⟨.info, s!"WMI ready: mac={byteListing .lower station.toList}, "
      ++ s!"phy capability={capability.toNat}"⟩
  | short length => ⟨.warn, s!"WMI: short host message ({length} bytes)"⟩
  | unhandled command payload length =>
    ⟨.warn, s!"WMI: unhandled command {hexPadded 4 command} "
      ++ s!"(HTC length {payload}, {length} bytes written)"⟩

namespace Firmware

/-- The journal of the firmware's start. -/
def startJournal : Journal :=
  [FirmwareNotice.created.entry]

/-- The journal of announcing the firmware. -/
def announceJournal (f : Firmware) : Journal :=
  if f.announced then [] else [(FirmwareNotice.ready f.station f.capability).entry]

/-- The journal of a message of `length` bytes at the end of a window: a frame header, and the number
of a command. -/
def receiveJournal (window : Window) (length : Nat) : Journal :=
  if length < leastCommandLength then [(FirmwareNotice.short length).entry]
  else
    let start := Window.startOf length
    let payload := window.number start HostInterface.frameHeaderLength
    let command :=
      window.number (start + HostInterface.frameHeaderLength) FirmwareEvent.idLength
    [(FirmwareNotice.unhandled command payload (min length 2048)).entry]

end Firmware

end WlanCard
