import WlanCard.HostInterface.Access
import WlanCard.Journal
import WlanCard.Text.Numeral

/-!
# The journal of the host interface

The host interface tells of every register access and of accesses that lead nowhere, of the counter
status whenever its bit is derived again, and of messages and frames in the mailboxes.
-/

namespace WlanCard

open Text

/-- What the host interface has to tell. -/
inductive HostNotice where
  | reset
  | counter (status enable : UInt8)
  | truncated (length : Nat)
  | queued (length : Nat) (m : MailboxNumber)
  | write (address : UInt32) (value : UInt8)
  | read (address : UInt32)
  | enabled (value : UInt8)
  | complete (m : MailboxNumber) (length : Nat)
  | unsupportedWrite (address : UInt32) (value : UInt8)
  | unknownWrite (address : UInt32) (value : UInt8)
  | unsupportedRead (address : UInt32)
  | unknownRead (address : UInt32)
  | pastTuples (address : UInt32)
deriving DecidableEq, Repr

/-- An address and a value, as entries show them. -/
def addressAndValue (address : UInt32) (value : UInt8) : String :=
  s!"addr={hex address.toNat}, value={hex value.toNat}"

/-- The entry of a notice. -/
def HostNotice.entry : HostNotice → Entry
  | reset => ⟨.debug, "HIF reset"⟩
  | counter status enable =>
    ⟨.trace, s!"HIF counter interrupt: status={hex status.toNat}, enable={hex enable.toNat}"⟩
  | truncated length =>
    ⟨.warn, s!"HIF: {length} byte frame truncated to {HostInterface.maxPayload}"⟩
  | queued length m => ⟨.debug, s!"HIF: {length} byte frame queued in mailbox {m.val}"⟩
  | write address value => ⟨.trace, s!"HIF write: {addressAndValue address value}"⟩
  | read address => ⟨.trace, s!"HIF read: addr={hex address.toNat}"⟩
  | enabled value => ⟨.debug, s!"HIF host interrupt enable: {hex value.toNat}"⟩
  | complete m length => ⟨.debug, s!"HIF: mailbox {m.val} message complete ({length} bytes)"⟩
  | unsupportedWrite address value =>
    ⟨.warn, s!"HIF: unsupported register write: {addressAndValue address value}"⟩
  | unknownWrite address value =>
    ⟨.warn, s!"Unknown HIF register write: {addressAndValue address value}"⟩
  | unsupportedRead address =>
    ⟨.warn, s!"HIF: unsupported register read: addr={hex address.toNat}"⟩
  | unknownRead address => ⟨.warn, s!"Unknown HIF register read: addr={hex address.toNat}"⟩
  | pastTuples address =>
    ⟨.warn, s!"HIF: read past CIS window contents at {hex address.toNat}"⟩

namespace HostInterface

/-- The counter status as it is told when its bit is derived again. -/
def counterNotice (h : HostInterface) : HostNotice :=
  .counter h.counter.status h.counter.enable

/-- The journal of a reset. -/
def resetJournal (h : HostInterface) : Journal :=
  [HostNotice.reset, h.reset.counterNotice].map HostNotice.entry

/-- The journal of deriving the counter bit again. -/
def updateCounterJournal (h : HostInterface) : Journal :=
  [h.counterNotice.entry]

/-- The journal of delivering a frame. -/
def deliverJournal (m : MailboxNumber) (payload : List UInt8) : Journal :=
  let notices : List HostNotice :=
    (if maxPayload < payload.length then [.truncated payload.length] else [])
      ++ [.queued (payload.take maxPayload).length m]
  notices.map HostNotice.entry

/-- What a write to a register leads to. -/
def writeNotices (h : HostInterface) (address : UInt32) (value : UInt8) : List HostNotice :=
  .write address value ::
    match HostRegister.ofAddress? address.toNat with
    | some .hostStatus | some .cpuStatus | some .errorStatus | some .mailboxFrame
    | some .cpuEnable | some .errorEnable | some (.scratch _) | some .wlanInterrupt => []
    | some .counterStatus | some .counterEnable => [(h.write address value).2.counterNotice]
    | some .hostEnable => [.enabled value]
    | some (.mailbox m _) =>
      match (h.write address value).1 with
      | some (.messageComplete _ length) => [.complete m length]
      | _ => []
    | some .fifoTimeout | some .fifoTimeoutEnable | some .disableSleep | some .localBusEndian
    | some .localBus | some .windowData | some .writeAddress | some .readAddress
    | some .serialConfig => [.unsupportedWrite address value]
    | some .lookaheadValid | some (.lookahead ..) | some (.available _) | some (.creditReset _)
    | some (.creditTake _) | some .serialStatus | some (.tuple _) | none =>
      [.unknownWrite address value]

/-- The journal of writing the byte at an address. -/
def writeJournal (h : HostInterface) (address : UInt32) (value : UInt8) : Journal :=
  (h.writeNotices address value).map HostNotice.entry

/-- What a read of a register leads to. -/
def readNotices (h : HostInterface) (address : UInt32) : List HostNotice :=
  .read address ::
    match HostRegister.ofAddress? address.toNat with
    | some (.creditReset _) => [(h.read address).2.counterNotice]
    | some (.tuple offset) => if Cis.bytes.size ≤ offset then [.pastTuples address] else []
    | some .fifoTimeout | some .fifoTimeoutEnable | some .disableSleep | some .localBusEndian
    | some .localBus | some .windowData | some .writeAddress | some .readAddress
    | some .serialConfig | some .serialStatus => [.unsupportedRead address]
    | some _ => []
    | none => [.unknownRead address]

/-- The journal of reading the byte at an address. -/
def readJournal (h : HostInterface) (address : UInt32) : Journal :=
  (h.readNotices address).map HostNotice.entry

/-- The journal of reading `length` bytes, each `stride` after the last. -/
def readRunJournal (stride : UInt32) :
    (length : Nat) → (address : UInt32) → (h : HostInterface) → Journal
  | 0, _, _ => []
  | length + 1, address, h =>
    h.readJournal address ++ readRunJournal stride length (address + stride) (h.read address).2

end HostInterface

end WlanCard
