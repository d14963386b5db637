import WlanCard.HostInterface.Register
import WlanCard.HostInterface.Window

/-!
# The host interface: state, interrupts, credits and frames

The host interface gathers the target's interrupt sources into one status register, holds the four
mailboxes with their transmit credits, and drives the interrupt line of function 1: the line is high
while any enabled bit of the host status is set.

Three sources are registers of their own with an enable beside each, and show up as one bit each in
the host status: errors, the target's processor, and the credit counters. The low four bits of the
host status say that a frame waits in a mailbox.
-/

namespace WlanCard

/-- One source of interrupts: what has happened, and what the host wants to hear of. -/
structure InterruptSource where
  status : UInt8 := 0
  enable : UInt8 := 0
deriving DecidableEq, Repr

/-- Whether the source asks for an interrupt. -/
def InterruptSource.isAsserted (source : InterruptSource) : Bool :=
  source.status &&& source.enable != 0

/-- The source after more has happened. -/
def InterruptSource.raise (source : InterruptSource) (bits : UInt8) : InterruptSource :=
  { source with status := source.status ||| bits }

/-- The source after the host has acknowledged some of what happened. -/
def InterruptSource.acknowledge (source : InterruptSource) (bits : UInt8) : InterruptSource :=
  { source with status := source.status &&& ~~~bits }

/-- One mailbox. -/
structure Mailbox where
  window : Window
  /-- The bytes written into the window since the last message was complete. -/
  written : Nat
  /-- How many messages the host may still send. -/
  credits : UInt8
  /-- The number of bytes waiting for the host. -/
  available : UInt8
  /-- The length of the frame waiting for the host. -/
  lookahead : UInt32
deriving DecidableEq, Repr

namespace Mailbox

/-- All credits: the target takes any number of messages. -/
def fullCredits : UInt8 := 0xff

/-- No credits: the target takes no further message for now. -/
def noCredits : UInt8 := 0x00

/-- The mailbox after a reset, which leaves the bytes in the window alone. -/
def reset (b : Mailbox) : Mailbox where
  window := b.window
  written := 0
  credits := fullCredits
  available := 0
  lookahead := 0

/-- A mailbox whose window is full of zeros. -/
def empty : Mailbox where
  window := Window.zeros
  written := 0
  credits := fullCredits
  available := 0
  lookahead := 0

end Mailbox

/-- The register state of the host interface. -/
structure HostInterface where
  /-- Interrupts towards the host. -/
  status : UInt8
  /-- The interrupts that drive the line. -/
  enable : UInt8
  cpu : InterruptSource
  error : InterruptSource
  counter : InterruptSource
  mailboxFrame : UInt8
  /-- The mailboxes whose lookahead the host has not read yet. -/
  lookaheadValid : UInt8
  mailboxes : Vector Mailbox 4
  scratch : Vector UInt8 8
  wlanInterrupt : UInt8
deriving DecidableEq, Repr

namespace HostInterface

/-- Host status: a frame waits in mailbox `m`, for the low four bits. -/
def mailboxDataMask : UInt8 := 0x0f

/-- Host status: the credit counters. -/
def counterBit : UInt8 := 0x10

/-- Host status: the target's processor. -/
def cpuBit : UInt8 := 0x40

/-- Host status: errors. -/
def errorBit : UInt8 := 0x80

/-- Counter status: where the bits for dropped credits start. -/
def droppedShift : Nat := 0

/-- Counter status: where the bits for granted credits start. -/
def grantedShift : Nat := 4

/-- Counter status after a reset: credits granted in all mailboxes. -/
def counterPowerOn : UInt8 := 0xf0

/-- Sets or clears bits of the host status. -/
def setStatus (h : HostInterface) (bits : UInt8) (level : Bool) : HostInterface :=
  { h with status := if level then h.status ||| bits else h.status &&& ~~~bits }

/-- Derives the processor bit of the host status again. -/
def updateCpu (h : HostInterface) : HostInterface :=
  h.setStatus cpuBit h.cpu.isAsserted

/-- Derives the error bit of the host status again. -/
def updateError (h : HostInterface) : HostInterface :=
  h.setStatus errorBit h.error.isAsserted

/-- Derives the counter bit of the host status again. -/
def updateCounter (h : HostInterface) : HostInterface :=
  h.setStatus counterBit h.counter.isAsserted

/-- Returns interrupts and credits to their power-on values. What is in the mailboxes, the scratch
registers, the frame register and the last firmware interrupt stay. -/
def reset (h : HostInterface) : HostInterface where
  status := 0
  enable := 0
  cpu := {}
  error := {}
  counter := { status := counterPowerOn }
  mailboxFrame := h.mailboxFrame
  lookaheadValid := 0
  mailboxes := h.mailboxes.map Mailbox.reset
  scratch := h.scratch
  wlanInterrupt := h.wlanInterrupt

/-- The host interface at power-on. -/
def powerOn : HostInterface where
  status := 0
  enable := 0
  cpu := {}
  error := {}
  counter := { status := counterPowerOn }
  mailboxFrame := 0
  lookaheadValid := 0
  mailboxes := Vector.replicate 4 Mailbox.empty
  scratch := Vector.replicate 8 0
  wlanInterrupt := 0

/-- The level of the interrupt line of function 1. -/
def irqLine (h : HostInterface) : Bool :=
  h.status &&& h.enable != 0

/-- One mailbox. -/
def mailbox (h : HostInterface) (m : MailboxNumber) : Mailbox :=
  h.mailboxes[m]

/-- The host interface with one mailbox replaced. -/
def setMailbox (h : HostInterface) (m : MailboxNumber) (b : Mailbox) : HostInterface :=
  { h with mailboxes := h.mailboxes.set m b m.isLt }

/-- The host interface with the bytes of one mailbox replaced. -/
def setWindow (h : HostInterface) (m : MailboxNumber) (w : Window) : HostInterface :=
  h.setMailbox m { h.mailbox m with window := w }

/-- The host interface with the number of bytes waiting in a mailbox replaced. -/
def setAvailable (h : HostInterface) (m : MailboxNumber) (count : UInt8) : HostInterface :=
  h.setMailbox m { h.mailbox m with available := count }

/-- The target's processor reports what has happened. -/
def raiseCpu (h : HostInterface) (bits : UInt8) : HostInterface :=
  { h with cpu := h.cpu.raise bits }.updateCpu

/-- An error is reported. -/
def raiseError (h : HostInterface) (bits : UInt8) : HostInterface :=
  { h with error := h.error.raise bits }.updateError

/-- Replaces the credits of a mailbox and notes it in the counter status, at `shift`. Answers whether
that is news, so that the counter bit of the host status is due to be derived again. -/
def setCredits (h : HostInterface) (m : MailboxNumber) (credits : UInt8) (shift : Nat) :
    Bool × HostInterface :=
  (h.counter.status &&& m.bit shift == 0,
    { h.setMailbox m { h.mailbox m with credits := credits } with
      counter := h.counter.raise (m.bit shift) })

/-- Drops the credits of a mailbox, after a message has been completed. -/
def dropCredits (h : HostInterface) (m : MailboxNumber) : Bool × HostInterface :=
  h.setCredits m Mailbox.noCredits droppedShift

/-- Restores the credits of a mailbox. -/
def grantCredits (h : HostInterface) (m : MailboxNumber) : Bool × HostInterface :=
  h.setCredits m Mailbox.fullCredits grantedShift

/-- The bytes in front of a frame: the length of its payload, least significant byte first. -/
def frameHeaderLength : Nat := 2

/-- The longest payload that a frame in a mailbox can carry. -/
def maxPayload : Nat := 2048 - frameHeaderLength

/-- A frame: the length of the payload and the payload. -/
def frame (payload : List UInt8) : List UInt8 :=
  Word.littleEndian frameHeaderLength (BitVec.ofNat 16 payload.length) ++ payload

/-- Places a frame at the end of a mailbox and tells the host of it. A payload that does not fit is
cut off. -/
def deliver (h : HostInterface) (m : MailboxNumber) (payload : List UInt8) : HostInterface :=
  let payload := payload.take maxPayload
  let b := h.mailbox m
  { h.setMailbox m
      { b with
        window := b.window.placeAtEnd (frame payload)
        lookahead := UInt32.ofNat payload.length } with
    status := h.status ||| m.bit 0
    lookaheadValid := h.lookaheadValid ||| m.bit 0 }

end HostInterface

end WlanCard
