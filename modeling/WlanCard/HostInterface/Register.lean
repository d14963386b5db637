/-!
# The registers of the host interface

Function 1 of the card is the host interface of the target. Its address space holds interrupt
registers, receive lookahead, transmit credits, a few registers without a function here, a window
onto the tuples, and the four mailboxes. `address` says where each register is; `ofAddress?` finds the
register at an address.
-/

namespace WlanCard

/-- The number of a mailbox. -/
abbrev MailboxNumber := Fin 4

namespace MailboxNumber

/-- The number of mailboxes. -/
def count : Nat := 4

/-- The mailbox for control messages, in both directions. -/
def control : MailboxNumber := 0

/-- The mailbox for data of ordinary priority. -/
def bestEffort : MailboxNumber := 1

/-- The mailbox for data of low priority. -/
def lowPriority : MailboxNumber := 2

/-- The mailbox for data of high priority. -/
def highPriority : MailboxNumber := 3

/-- The bit of a mailbox in a register with one bit for each, moved up by `shift`. -/
def bit (m : MailboxNumber) (shift : Nat) : UInt8 :=
  UInt8.ofNat (1 <<< (m.val + shift))

end MailboxNumber

/-- The registers of the host interface. -/
inductive HostRegister where
  /-- Interrupts towards the host, as one status. -/
  | hostStatus
  | cpuStatus
  | errorStatus
  | counterStatus
  | mailboxFrame
  /-- The mailboxes whose lookahead the host has not read yet. -/
  | lookaheadValid
  /-- Byte `i` of the length of the frame waiting in a mailbox. -/
  | lookahead (m : MailboxNumber) (i : Fin 4)
  | hostEnable
  | cpuEnable
  | errorEnable
  | counterEnable
  /-- The number of bytes waiting in a mailbox. -/
  | available (m : MailboxNumber)
  /-- The credits of a mailbox; reading them acknowledges that they were dropped. -/
  | creditReset (m : MailboxNumber)
  /-- The credits of a mailbox; reading them takes one. -/
  | creditTake (m : MailboxNumber)
  | scratch (i : Fin 8)
  | fifoTimeout
  | fifoTimeoutEnable
  | disableSleep
  | localBusEndian
  | localBus
  /-- Written by the host once the firmware is loaded. -/
  | wlanInterrupt
  | windowData
  | writeAddress
  | readAddress
  | serialConfig
  | serialStatus
  /-- A byte of the tuples, or behind them. -/
  | tuple (offset : Fin 512)
  /-- A byte of a mailbox window. -/
  | mailbox (m : MailboxNumber) (offset : Fin 2048)
deriving DecidableEq, Repr

namespace HostRegister

/-- The distance between the registers of one kind for neighbouring mailboxes. -/
def counterStride : Nat := 4

/-- Where the counters start; the bytes available in mailbox `m` follow at `4 + m`. -/
def counterBase : Nat := 0x420

/-- The address of a register. -/
def address : HostRegister → Nat
  | .hostStatus => 0x400
  | .cpuStatus => 0x401
  | .errorStatus => 0x402
  | .counterStatus => 0x403
  | .mailboxFrame => 0x404
  | .lookaheadValid => 0x405
  | .lookahead m i => 0x408 + 4 * m + i
  | .hostEnable => 0x418
  | .cpuEnable => 0x419
  | .errorEnable => 0x41a
  | .counterEnable => 0x41b
  | .available m => counterBase + 4 + m
  | .creditReset m => 0x440 + counterStride * m
  | .creditTake m => 0x450 + counterStride * m
  | .scratch i => 0x460 + i
  | .fifoTimeout => 0x468
  | .fifoTimeoutEnable => 0x469
  | .disableSleep => 0x46a
  | .localBusEndian => 0x46e
  | .localBus => 0x470
  | .wlanInterrupt => 0x472
  | .windowData => 0x474
  | .writeAddress => 0x478
  | .readAddress => 0x47c
  | .serialConfig => 0x480
  | .serialStatus => 0x481
  | .tuple offset => 0x600 + offset
  | .mailbox m offset => 0x800 + 2048 * m + offset

/-- The register at an address below the tuple window that has no neighbours of its kind. -/
def ofSingleAddress? : Nat → Option HostRegister
  | 0x400 => some .hostStatus
  | 0x401 => some .cpuStatus
  | 0x402 => some .errorStatus
  | 0x403 => some .counterStatus
  | 0x404 => some .mailboxFrame
  | 0x405 => some .lookaheadValid
  | 0x418 => some .hostEnable
  | 0x419 => some .cpuEnable
  | 0x41a => some .errorEnable
  | 0x41b => some .counterEnable
  | 0x468 => some .fifoTimeout
  | 0x469 => some .fifoTimeoutEnable
  | 0x46a => some .disableSleep
  | 0x46e => some .localBusEndian
  | 0x470 => some .localBus
  | 0x472 => some .wlanInterrupt
  | 0x474 => some .windowData
  | 0x478 => some .writeAddress
  | 0x47c => some .readAddress
  | 0x480 => some .serialConfig
  | 0x481 => some .serialStatus
  | _ => none

/-- The register at an address. Of the credit registers only the first byte of each has one. -/
def ofAddress? (a : Nat) : Option HostRegister :=
  if h : 0x800 ≤ a ∧ a < 0x2800 then
    some (.mailbox ⟨(a - 0x800) / 2048, by omega⟩ ⟨(a - 0x800) % 2048, by omega⟩)
  else if h : 0x408 ≤ a ∧ a < 0x418 then
    some (.lookahead ⟨(a - 0x408) / 4, by omega⟩ ⟨a % 4, by omega⟩)
  else if h : 0x424 ≤ a ∧ a < 0x428 then some (.available ⟨a - 0x424, by omega⟩)
  else if h : 0x440 ≤ a ∧ a < 0x450 ∧ a % 4 = 0 then
    some (.creditReset ⟨(a - 0x440) / 4, by omega⟩)
  else if h : 0x450 ≤ a ∧ a < 0x460 ∧ a % 4 = 0 then
    some (.creditTake ⟨(a - 0x450) / 4, by omega⟩)
  else if h : 0x460 ≤ a ∧ a < 0x468 then some (.scratch ⟨a - 0x460, by omega⟩)
  else if h : 0x600 ≤ a ∧ a < 0x800 then some (.tuple ⟨a - 0x600, by omega⟩)
  else ofSingleAddress? a

end HostRegister

end WlanCard
