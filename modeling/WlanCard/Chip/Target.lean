import WlanCard.Card.Functions
import WlanCard.Chip.Config
import WlanCard.Clock
import WlanCard.HostInterface.Access

/-!
# The target: everything behind function 1

The target answers the host through the host interface. Messages in the control mailbox go to the
bootloader until it is done, and to the firmware after that; messages in the other mailboxes are
nobody's. Every completed message drops the credits of its mailbox at once and restores them later,
through the clock, as is every change that a credit makes to the counter bit of the host status.

The first firmware interrupt of the host that is not zero hands over to the firmware, which announces
itself after a delay.
-/

namespace WlanCard

/-- Work that the target puts off. -/
inductive Deferred where
  /-- Derive the counter bit of the host status again. -/
  | counterUpdate
  /-- Restore the credits of a mailbox. -/
  | creditGrant (m : MailboxNumber)
  /-- Announce the firmware. -/
  | alive
deriving DecidableEq, Repr

/-- The name of deferred work in messages. -/
def Deferred.name : Deferred → String
  | .counterUpdate => "CounterIrqUpdate"
  | .creditGrant m => "CreditGrant(" ++ m.val.repr ++ ")"
  | .alive => "WmiAlive"

/-- The state of the target. -/
structure Target where
  config : Config
  host : HostInterface
  boot : Bootloader
  firmware : Option Firmware
  clock : Clock Deferred
  /-- The messages that the firmware has sent, oldest first. -/
  sent : List (List UInt8)
deriving DecidableEq

namespace Target

/-- The target at power-on. -/
def powerOn (config : Config) : Target where
  config
  host := HostInterface.powerOn
  boot := { form := config.identity }
  firmware := none
  clock := .start
  sent := []

/-- Back to the bootloader. Work put off before a reset is never done after it. -/
def reset (t : Target) : Target :=
  { t with
    host := t.host.reset
    boot := t.boot.reset
    firmware := none
    clock := t.clock.openEpoch }

/-- Puts off deriving the counter bit of the host status again. -/
def deferCounterUpdate (t : Target) : Target :=
  { t with clock := t.clock.arm t.config.creditDelay .counterUpdate }

/-- The target after credits have been dropped or granted: news are told to the host later. -/
def settleCredits (t : Target) (answer : Bool × HostInterface) : Target :=
  let t := { t with host := answer.2 }
  if answer.1 then t.deferCounterUpdate else t

/-- Lets the bootloader carry out a message in the control mailbox. -/
def bootMessage (t : Target) (length : Nat) : Target :=
  let outcome := t.boot.handle (t.host.mailbox .control).window length
  let host := t.host.setWindow .control outcome.window
  { t with
    boot := outcome.session
    host := match outcome.available with
      | some count => host.setAvailable .control count
      | none => host }

/-- Hands a message to whom it is for. -/
def routeMessage (t : Target) (m : MailboxNumber) (length : Nat) : Target :=
  if m = .control then
    if t.boot.done then { t with firmware := t.firmware.map (·.receive length) }
    else t.bootMessage length
  else t

/-- Acts on a completed message. -/
def completeMessage (t : Target) (m : MailboxNumber) (length : Nat) : Target :=
  let t := (t.settleCredits (t.host.dropCredits m)).routeMessage m length
  { t with clock := t.clock.arm t.config.creditDelay (.creditGrant m) }

/-- Hands over to the firmware. -/
def handOver (t : Target) : Target :=
  { t with
    firmware := some { station := t.config.station, capability := t.config.capability }
    clock := t.clock.arm t.config.aliveDelay .alive }

/-- Whether a firmware interrupt hands over to the firmware. -/
def handsOver (t : Target) (value : UInt8) : Bool :=
  value != 0 && t.firmware.isNone

/-- Acts on what a register write has led to. -/
def handle (t : Target) : HostEvent → Target
  | .messageComplete m length => t.completeMessage m length
  | .wlanInterrupt value => if t.handsOver value then t.handOver else t

/-- Writes the byte at an address of function 1. -/
def writeByte (t : Target) (address : UInt32) (value : UInt8) : Target :=
  let answer := t.host.write address value
  let t := { t with host := answer.2 }
  match answer.1 with
  | some event => t.handle event
  | none => t

/-- Writes bytes, each `stride` after the last. -/
def writeRun (stride : UInt32) : (address : UInt32) → (bytes : List UInt8) → (t : Target) → Target
  | _, [], t => t
  | address, value :: rest, t => writeRun stride (address + stride) rest (t.writeByte address value)

/-- Announces the firmware: its ready event is sent and queued in the control mailbox, the first
time. -/
def announce (t : Target) : Target :=
  match t.firmware with
  | none => t
  | some firmware =>
    let answer := firmware.announce
    match answer.1 with
    | none => t
    | some message =>
      { t with
        firmware := some answer.2
        sent := t.sent ++ [message]
        host := t.host.deliver .control message }

/-- Does work that has come due. -/
def fire (t : Target) : Deferred → Target
  | .counterUpdate => { t with host := t.host.updateCounter }
  | .creditGrant m => t.settleCredits (t.host.grantCredits m)
  | .alive => t.announce

/-- The target as the function behind a card. -/
def functions : Functions Target where
  reset := reset
  read _ address length how t :=
    let answer := HostInterface.readRun how.stride length address t.host
    (answer.1, { t with host := answer.2 })
  write _ address bytes how t := t.writeRun how.stride address bytes
  length_read _ address length how t := HostInterface.length_readRun how.stride length address t.host

/-- The number of host commands that the firmware has not acted on; none without a firmware. -/
def unhandledCommands (t : Target) : Nat :=
  t.firmware.elim 0 Firmware.unhandled

end Target

end WlanCard
