import WlanCard.Card.Command
import WlanCard.Card.Response
import WlanCard.Journal
import WlanCard.Text.Numeral
import WlanCard.Text.Record

/-!
# What a card has to tell

A card tells of its enumeration, of refused commands, of register accesses and transfers, and of
every change of its interrupt line.
-/

namespace WlanCard

open Text

/-- What a card has to tell. -/
inductive CardNotice where
  | fixedHandler
  | reset
  | idleIgnored
  | addressPublished (address : UInt16)
  | ready (conditions : UInt32)
  | selected
  | deselected
  | inactive
  | refused (number : UInt8) (reason : Refusal) (phase : Phase)
  | answered (number : UInt8) (response : Response)
  | directMissing (f : FunctionNumber)
  | directWrite (f : FunctionNumber) (address : UInt32) (value : UInt8)
  | directRead (f : FunctionNumber) (address : UInt32) (value : UInt8)
  | extendedMissing (f : FunctionNumber)
  | unusableBlock (f : FunctionNumber) (length : Nat)
  | opened (t : Transfer)
  | noTransfer (direction : Direction)
  | noDataCommand (direction : Direction) (active : UInt8)
  /-- Data in one direction during a transfer in the other. -/
  | wrongDirection (direction running : Direction)
  | transferDone
  | aborted (f : FunctionNumber)
  | nothingToAbort (f : FunctionNumber)
  | absentRead (f : FunctionNumber) (count : Nat) (address : UInt32)
  | absentWrite (f : FunctionNumber) (count : Nat) (address : UInt32)
  | badCommonWrite (address : UInt32) (left : Nat)
  | interrupt (level : Bool)
deriving DecidableEq, Repr

/-- A direction as a verb. -/
def Direction.verb : Direction → String
  | .read => "read"
  | .write => "write"

/-- A function and an address in it, as entries show them. -/
def functionAndAddress (f : FunctionNumber) (address : UInt32) : String :=
  s!"fn={f.val}, addr={hex address.toNat}"

/-- A number of blocks, as entries show it. -/
def BlockCount.describe : BlockCount → String
  | .finite count => s!"Finite({count})"
  | .infinite => "Infinite"

/-- The entry of a refused command. -/
def refusalEntry (number : UInt8) (phase : Phase) : Refusal → Entry
  | .unsupported => ⟨.warn, s!"SDIO: unsupported CMD{number.toNat}"⟩
  | .wrongPhase => ⟨.warn, s!"SDIO: CMD{number.toNat} in wrong state {phase.name}"⟩

/-- The entry of a transfer that has been opened. -/
def openedEntry (t : Transfer) : Entry :=
  ⟨.debug, s!"CMD53 {t.direction.name}: {functionAndAddress t.function t.start}, "
    ++ s!"step={t.addressing.stride.toNat}, block_len={t.blockLength}, "
    ++ s!"blocks={t.blocks.describe}"⟩

/-- The entry of a notice. -/
def CardNotice.entry : CardNotice → Entry
  | fixedHandler => ⟨.warn, "SDIO: function 0 handler is fixed"⟩
  | reset => ⟨.debug, "SDIO card reset"⟩
  | idleIgnored => ⟨.debug, "SDIO: CMD0 bus mode switch attempt ignored"⟩
  | addressPublished address =>
    ⟨.debug, s!"SDIO: published RCA {hexPadded 4 address.toNat}"⟩
  | ready conditions => ⟨.info, s!"SDIO card ready (host OCR {hex conditions.toNat})"⟩
  | selected => ⟨.debug, "SDIO: card selected"⟩
  | deselected => ⟨.debug, "SDIO: card deselected"⟩
  | inactive => ⟨.debug, "SDIO: card inactive"⟩
  | refused number reason phase => refusalEntry number phase reason
  | answered number response =>
    ⟨.trace, s!"CMD{number.toNat} response: {byteListing .upper response.bytes}"⟩
  | directMissing f => ⟨.warn, s!"SDIO CMD52: function {f.val} not present"⟩
  | directWrite f address value =>
    ⟨.trace, s!"CMD52 write: {functionAndAddress f address}, value={hex value.toNat}"⟩
  | directRead f address value =>
    ⟨.trace, s!"CMD52 read: {functionAndAddress f address}, value={hex value.toNat}"⟩
  | extendedMissing f => ⟨.warn, s!"SDIO CMD53: function {f.val} not present"⟩
  | unusableBlock f length =>
    ⟨.warn, s!"SDIO CMD53: function {f.val} block size {length} unusable"⟩
  | opened t => openedEntry t
  | noTransfer direction => ⟨.warn, s!"SDIO data {direction.verb}: not in Transfer state"⟩
  | noDataCommand direction active =>
    ⟨.warn, s!"SDIO data {direction.verb}: no data command (CMD{active.toNat})"⟩
  | wrongDirection direction running =>
    ⟨.warn, s!"SDIO data {direction.verb} during a {running.verb} transfer"⟩
  | transferDone => ⟨.debug, "SDIO transfer done"⟩
  | aborted f => ⟨.debug, s!"SDIO: transfer on function {f.val} aborted"⟩
  | nothingToAbort f => ⟨.warn, s!"SDIO: no transfer to abort for function {f.val}"⟩
  | absentRead f count address =>
    ⟨.warn, s!"SDIO fn{f.val}: reading {count} bytes at {hex address.toNat}"⟩
  | absentWrite f count address =>
    ⟨.warn, s!"SDIO fn{f.val}: writing {count} bytes at {hex address.toNat}"⟩
  | badCommonWrite address left =>
    ⟨.warn, s!"SDIO fn0: bad write at {hex address.toNat} ({left} bytes)"⟩
  | interrupt level => ⟨.trace, s!"SDIO card interrupt: {truth level}"⟩

end WlanCard
