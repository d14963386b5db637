import WlanCard.Cis
import WlanCard.HostInterface.Basic

/-!
# Register access to the host interface

A write may complete a message or be the host's firmware interrupt; it then answers with a
`HostEvent` for the target to act on. Reads of three kinds of register have an effect: a lookahead
byte tells that the host has seen the frame, the credit registers acknowledge or take credits. A read
of an address without a register answers zero.
-/

namespace WlanCard

/-- Something the target has to act on after a register write. -/
inductive HostEvent where
  /-- The last byte of a mailbox window has been written. -/
  | messageComplete (m : MailboxNumber) (length : Nat)
  /-- The host has written the firmware interrupt register. -/
  | wlanInterrupt (value : UInt8)
deriving DecidableEq, Repr

namespace HostInterface

/-- Writes one byte of a mailbox window. The last byte of the window completes a message of as many
bytes as were written since the last one. -/
def writeMailbox (h : HostInterface) (m : MailboxNumber) (offset : Fin 2048) (value : UInt8) :
    Option HostEvent × HostInterface :=
  let b := h.mailbox m
  let window := b.window.setIfInBounds offset value
  if offset.val = 2047 then
    (some (.messageComplete m (b.written + 1)),
      h.setMailbox m { b with window := window, written := 0 })
  else (none, h.setMailbox m { b with window := window, written := b.written + 1 })

/-- Writes one register. Read-only registers and those without a function ignore the write. -/
def writeRegister (h : HostInterface) (value : UInt8) :
    HostRegister → Option HostEvent × HostInterface
  | .hostStatus => (none, h.setStatus value false)
  | .cpuStatus => (none, { h with cpu := h.cpu.acknowledge value }.updateCpu)
  | .errorStatus => (none, { h with error := h.error.acknowledge value }.updateError)
  | .counterStatus => (none, { h with counter := h.counter.acknowledge value }.updateCounter)
  | .mailboxFrame => (none, { h with mailboxFrame := value })
  | .hostEnable => (none, { h with enable := value })
  | .cpuEnable => (none, { h with cpu.enable := value }.updateCpu)
  | .errorEnable => (none, { h with error.enable := value }.updateError)
  | .counterEnable => (none, { h with counter.enable := value }.updateCounter)
  | .scratch i => (none, { h with scratch := h.scratch.set i value i.isLt })
  | .wlanInterrupt => (some (.wlanInterrupt value), { h with wlanInterrupt := value })
  | .mailbox m offset => h.writeMailbox m offset value
  | _ => (none, h)

/-- Reads one register. -/
def readRegister (h : HostInterface) : HostRegister → UInt8 × HostInterface
  | .hostStatus => (h.status, h)
  | .cpuStatus => (h.cpu.status, h)
  | .errorStatus => (h.error.status, h)
  | .counterStatus => (h.counter.status, h)
  | .mailboxFrame => (h.mailboxFrame, h)
  | .lookaheadValid => (h.lookaheadValid, h)
  | .lookahead m i =>
    (Word.byte (h.mailbox m).lookahead.toBitVec i,
      { h with
        lookaheadValid := h.lookaheadValid &&& ~~~m.bit 0
        status := h.status &&& ~~~m.bit 0 })
  | .hostEnable => (h.enable, h)
  | .cpuEnable => (h.cpu.enable, h)
  | .errorEnable => (h.error.enable, h)
  | .counterEnable => (h.counter.enable, h)
  | .available m => ((h.mailbox m).available, h)
  | .creditReset m =>
    ((h.mailbox m).credits,
      { h with counter := h.counter.acknowledge (m.bit droppedShift) }.updateCounter)
  | .creditTake m =>
    let b := h.mailbox m
    (b.credits, h.setMailbox m { b with credits := b.credits - 1 })
  | .scratch i => (h.scratch[i], h)
  | .wlanInterrupt => (h.wlanInterrupt, h)
  | .tuple offset => (Cis.bytes.getD offset 0, h)
  | .mailbox m offset => ((h.mailbox m).window.get offset, h)
  | .fifoTimeout | .fifoTimeoutEnable | .disableSleep | .localBusEndian | .localBus | .windowData
  | .writeAddress | .readAddress | .serialConfig | .serialStatus => (0, h)

/-- Writes the byte at an address. -/
def write (h : HostInterface) (address : UInt32) (value : UInt8) :
    Option HostEvent × HostInterface :=
  match HostRegister.ofAddress? address.toNat with
  | some r => h.writeRegister value r
  | none => (none, h)

/-- Reads the byte at an address. -/
def read (h : HostInterface) (address : UInt32) : UInt8 × HostInterface :=
  match HostRegister.ofAddress? address.toNat with
  | some r => h.readRegister r
  | none => (0, h)

/-- Reads `length` bytes, each `stride` after the last. -/
def readRun (stride : UInt32) :
    (length : Nat) → (address : UInt32) → (h : HostInterface) → List UInt8 × HostInterface
  | 0, _, h => ([], h)
  | length + 1, address, h =>
    let first := h.read address
    let rest := readRun stride length (address + stride) first.2
    (first.1 :: rest.1, rest.2)

/-- A run of reads answers as many bytes as it was asked for. -/
theorem length_readRun (stride : UInt32) (length : Nat) (address : UInt32) (h : HostInterface) :
    (readRun stride length address h).1.length = length := by
  induction length generalizing address h with
  | zero => rfl
  | succ length ih => simp [readRun, ih]

end HostInterface

end WlanCard
