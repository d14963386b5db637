import WlanCard.Bootloader.Journal
import WlanCard.Card.Journal
import WlanCard.Chip.Basic
import WlanCard.Clock.Journal
import WlanCard.Firmware.Journal
import WlanCard.HostInterface.Journal

/-!
# The journal of the chip

The journal of every operation on the chip, told from the state before it: what the card tells, what
the target behind it tells, and the change of the interrupt line once that has been passed on.
-/

namespace WlanCard

open Text

/-- What the target itself has to tell. -/
inductive TargetNotice where
  | handOver (value : UInt8)
  | unrouted (length : Nat) (m : MailboxNumber)
  | fired (event : Deferred)
deriving DecidableEq, Repr

/-- The entry of a notice. -/
def TargetNotice.entry : TargetNotice → Entry
  | handOver value => ⟨.debug, s!"WLAN interrupt {hex value.toNat}: firmware handoff"⟩
  | unrouted length m => ⟨.warn, s!"HIF: unhandled {length} byte message on mailbox {m.val}"⟩
  | fired event => ⟨.debug, s!"timer fired: {event.name}"⟩

namespace Target

/-- The journal of arming deferred work. -/
def armJournal (t : Target) (delay : Nat) (event : Deferred) : Journal :=
  t.clock.armJournal Deferred.name delay event

/-- The journal of a reset. -/
def resetJournal (t : Target) : Journal :=
  t.host.resetJournal ++ t.clock.openEpochJournal Deferred.name

/-- The journal of dropping or granting credits. -/
def settleCreditsJournal (t : Target) (answer : Bool × HostInterface) : Journal :=
  if answer.1 then t.armJournal t.config.creditDelay .counterUpdate else []

/-- The journal of a message in the control mailbox for the firmware. -/
def firmwareMessageJournal (t : Target) (length : Nat) : Journal :=
  match t.firmware with
  | some _ => Firmware.receiveJournal (t.host.mailbox .control).window length
  | none => [(TargetNotice.unrouted length .control).entry]

/-- The journal of handing a message to whom it is for. -/
def routeMessageJournal (t : Target) (m : MailboxNumber) (length : Nat) : Journal :=
  if m = .control then
    if t.boot.done then t.firmwareMessageJournal length
    else t.boot.handleJournal (t.host.mailbox .control).window length
  else [(TargetNotice.unrouted length m).entry]

/-- The journal of acting on a completed message. -/
def completeMessageJournal (t : Target) (m : MailboxNumber) (length : Nat) : Journal :=
  let dropped := t.host.dropCredits m
  t.settleCreditsJournal dropped
    ++ (t.settleCredits dropped).routeMessageJournal m length
    ++ t.armJournal t.config.creditDelay (.creditGrant m)

/-- The journal of handing over to the firmware. -/
def handOverJournal (t : Target) (value : UInt8) : Journal :=
  (TargetNotice.handOver value).entry :: Firmware.startJournal
    ++ t.armJournal t.config.aliveDelay .alive

/-- The journal of acting on what a register write has led to. -/
def handleJournal (t : Target) : HostEvent → Journal
  | .messageComplete m length => t.completeMessageJournal m length
  | .wlanInterrupt value => if t.handsOver value then t.handOverJournal value else []

/-- The journal of writing the byte at an address of function 1. -/
def writeByteJournal (t : Target) (address : UInt32) (value : UInt8) : Journal :=
  let answer := t.host.write address value
  t.host.writeJournal address value
    ++ answer.1.elim [] fun event => { t with host := answer.2 }.handleJournal event

/-- The journal of writing bytes, each `stride` after the last. -/
def writeRunJournal (stride : UInt32) :
    (address : UInt32) → (bytes : List UInt8) → (t : Target) → Journal
  | _, [], _ => []
  | address, value :: rest, t =>
    t.writeByteJournal address value
      ++ writeRunJournal stride (address + stride) rest (t.writeByte address value)

/-- The journal of announcing the firmware. -/
def announceJournal (t : Target) : Journal :=
  t.firmware.elim [] fun firmware =>
    firmware.announceJournal
      ++ firmware.announce.1.elim [] (HostInterface.deliverJournal .control)

/-- The journal of doing work that has come due. -/
def fireJournal (t : Target) (event : Deferred) : Journal :=
  (TargetNotice.fired event).entry ::
    match event with
    | .counterUpdate => t.host.updateCounterJournal
    | .creditGrant m => t.settleCreditsJournal (t.host.grantCredits m)
    | .alive => t.announceJournal

/-- What the target tells of accesses to function 1. -/
def teller : Functions.Teller Target where
  reset := resetJournal
  read _ address length how t := t.host.readRunJournal how.stride length address
  write _ address bytes how t := t.writeRunJournal how.stride address bytes

end Target

namespace Chip

/-- The journal of passing the interrupt line of the target on to the card. -/
def syncIrqJournal (chip : Chip) : Journal :=
  chip.card.setFunctionIrqJournal 0 chip.target.host.irqLine

/-- The journal of a reset. -/
def resetJournal (chip : Chip) : Journal :=
  chip.attached.resetJournal Target.functions Target.teller
    ++ syncIrqJournal ⟨chip.attached.reset Target.functions⟩

/-- The journal of attaching a chip: its host interface starts from a reset, and then the whole chip
is reset. -/
def attachJournal (config : Config) : Journal :=
  let chip := assemble config
  chip.target.host.resetJournal ++ chip.resetJournal

/-- The journal of a command and its response. -/
def commandJournal (chip : Chip) (number : UInt8) (argument : UInt32) : Journal :=
  chip.attached.commandJournal Target.functions Target.teller number argument
    ++ syncIrqJournal ⟨(chip.attached.command Target.functions number argument).2⟩

/-- The journal of one byte from the host. -/
def writeDataJournal (chip : Chip) (value : UInt8) : Journal :=
  chip.attached.writeDataJournal Target.functions Target.teller value
    ++ syncIrqJournal ⟨chip.attached.writeData Target.functions value⟩

/-- The journal of one byte for the host. -/
def readDataJournal (chip : Chip) : Journal :=
  chip.attached.readDataJournal Target.functions Target.teller
    ++ syncIrqJournal ⟨(chip.attached.readData Target.functions).2⟩

/-- The journal of a report by the target's processor. -/
def raiseCpuJournal (chip : Chip) (bits : UInt8) : Journal :=
  (chip.setTarget { chip.target with host := chip.target.host.raiseCpu bits }).syncIrqJournal

/-- The journal of an error report. -/
def raiseErrorJournal (chip : Chip) (bits : UInt8) : Journal :=
  (chip.setTarget { chip.target with host := chip.target.host.raiseError bits }).syncIrqJournal

/-- The journal of doing work that has come due. -/
def fireJournal (chip : Chip) (event : Deferred) : Journal :=
  chip.target.fireJournal event
    ++ (chip.setTarget (chip.target.fire event)).syncIrqJournal

/-- The journal of doing all work due by `limit`. -/
def runDueJournal (limit : Nat) (chip : Chip) : Journal :=
  chip.target.clock.popDueJournal Deferred.name limit ++
    match _popped : chip.target.popDue limit with
    | (none, _) => []
    | (some event, t) =>
      (chip.setTarget t).fireJournal event
        ++ runDueJournal limit ((chip.setTarget t).fire event)
termination_by chip.target.load
decreasing_by exact Target.load_fire_lt _popped

/-- The journal of advancing virtual time. -/
def advanceJournal (chip : Chip) (ticks : Nat) : Journal :=
  chip.runDueJournal (Clock.tickAfter chip.now ticks)

end Chip

end WlanCard
