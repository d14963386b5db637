import WlanCard.CommonArea.Basic
import WlanCard.Journal
import WlanCard.Text.Numeral

/-!
# The journal of the common area

Function 0 tells of every register access, of the values that switches have after a write, and of
accesses that lead nowhere: to an offset without a register, to a register that cannot be written, or
to memory.
-/

namespace WlanCard

open Text

/-- What function 0 has to tell. -/
inductive CommonAreaNotice where
  | commonRead (offset : Nat)
  | commonWrite (offset : Nat) (value : UInt8)
  | ioEnable (value : UInt8)
  | interruptEnable (value : UInt8)
  | resetRequested
  | invalidBusWidth (value : UInt8)
  | busControl (value : UInt8)
  | unknownCommonRead (offset : Nat)
  | unknownCommonWrite (offset : Nat) (value : UInt8)
  | functionRead (f : FunctionNumber) (offset : Nat)
  | functionWrite (f : FunctionNumber) (offset : Nat) (value : UInt8)
  | blockLength (f : FunctionNumber) (length : Nat)
  | unknownFunctionRead (f : FunctionNumber) (offset : Nat)
  | unknownFunctionWrite (f : FunctionNumber) (offset : Nat) (value : UInt8)
  | memoryWrite (address : Nat) (value : UInt8)
deriving DecidableEq, Repr

/-- An offset and a value, as entries show them. -/
def offsetAndValue (offset : Nat) (value : UInt8) : String :=
  s!"offset={hex offset}, value={hex value.toNat}"

/-- The entry of a notice. -/
def CommonAreaNotice.entry : CommonAreaNotice → Entry
  | commonRead offset => ⟨.trace, s!"CCCR read: offset={hex offset}"⟩
  | commonWrite offset value => ⟨.trace, s!"CCCR write: {offsetAndValue offset value}"⟩
  | ioEnable value => ⟨.debug, s!"CCCR I/O enable: {hex value.toNat}"⟩
  | interruptEnable value => ⟨.debug, s!"CCCR interrupt enable: {hex value.toNat}"⟩
  | resetRequested => ⟨.debug, "CCCR I/O abort: card reset"⟩
  | invalidBusWidth value => ⟨.warn, s!"CCCR: invalid bus width selected ({hex value.toNat})"⟩
  | busControl value => ⟨.debug, s!"CCCR bus interface control: {hex value.toNat}"⟩
  | unknownCommonRead offset => ⟨.warn, s!"Unknown CCCR register read: offset={hex offset}"⟩
  | unknownCommonWrite offset value =>
    ⟨.warn, s!"Unknown CCCR register write: {offsetAndValue offset value}"⟩
  | functionRead f offset => ⟨.trace, s!"FBR{f.val} read: offset={hex offset}"⟩
  | functionWrite f offset value =>
    ⟨.trace, s!"FBR{f.val} write: {offsetAndValue offset value}"⟩
  | blockLength f length => ⟨.debug, s!"FBR{f.val} block size: {length}"⟩
  | unknownFunctionRead f offset =>
    ⟨.warn, s!"Unknown FBR{f.val} register read: offset={hex offset}"⟩
  | unknownFunctionWrite f offset value =>
    ⟨.warn, s!"Unknown FBR{f.val} register write: {offsetAndValue offset value}"⟩
  | memoryWrite address value =>
    ⟨.warn, s!"CIA write outside CCCR/FBR: addr={hex address}, value={hex value.toNat}"⟩

namespace CommonArea

/-- What a read of a common control register leads to. The abort register cannot be read. -/
def readCommonNotices (offset : Nat) : List CommonAreaNotice :=
  .commonRead offset ::
    match CommonRegister.ofOffset? offset with
    | some .ioAbort | none => [.unknownCommonRead offset]
    | some _ => []

/-- What a read of a basic register of function `i + 1` leads to. -/
def readFunctionNotices (i : Fin 7) (offset : Nat) : List CommonAreaNotice :=
  .functionRead i.succ offset ::
    match FunctionRegister.ofOffset? offset with
    | none => [.unknownFunctionRead i.succ offset]
    | some _ => []

/-- The journal of reading one byte. -/
def readByteJournal (address : Nat) : Journal :=
  let notices : List CommonAreaNotice := match Region.ofAddress address with
    | .common offset => readCommonNotices offset
    | .function i offset => readFunctionNotices i offset
    | .memory => []
  notices.map CommonAreaNotice.entry

/-- The journal of reading `length` bytes: one entry and more for each register, none for memory. -/
def readJournal (how : Addressing) : (address length : Nat) → Journal
  | _, 0 => []
  | address, length + 1 =>
    if address < registersEnd then
      readByteJournal address ++ readJournal how (address + how.stride.toNat) length
    else []

/-- What a write to a common control register leads to. The ready flags ignore a write silently. -/
def writeCommonNotices (area : CommonArea) (offset : Nat) (value : UInt8) :
    List CommonAreaNotice :=
  let after := (area.writeCommon offset value).2
  .commonWrite offset value ::
    match CommonRegister.ofOffset? offset with
    | some .ioEnable => [.ioEnable after.ioEnable]
    | some .interruptEnable => [.interruptEnable after.interruptEnable]
    | some .ioAbort => if value &&& resetBit != 0 then [.resetRequested] else []
    | some .busControl =>
      (if value &&& 1 != 0 then [.invalidBusWidth value] else []) ++ [.busControl after.busControl]
    | some .capability | some .readyFlags | some (.blockLength _) | some .powerControl
    | some .highSpeed => []
    | _ => [.unknownCommonWrite offset value]

/-- What a write to a basic register of function `i + 1` leads to. -/
def writeFunctionNotices (area : CommonArea) (i : Fin 7) (offset : Nat) (value : UInt8) :
    List CommonAreaNotice :=
  let after := area.writeFunctionRegister i offset value
  .functionWrite i.succ offset value ::
    match FunctionRegister.ofOffset? offset with
    | some .interfaceCode | some .powerSelection | some (.storagePointer _) => []
    | some (.blockLength _) => [.blockLength i.succ (after.blockLength i.succ)]
    | some .storageWindow =>
      if (area.functions.get i).storageOpen then [] else [.unknownFunctionWrite i.succ offset value]
    | _ => [.unknownFunctionWrite i.succ offset value]

/-- The journal of writing one byte. -/
def writeByteJournal (area : CommonArea) (address : Nat) (value : UInt8) : Journal :=
  let notices : List CommonAreaNotice := match Region.ofAddress address with
    | .common offset => area.writeCommonNotices offset value
    | .function i offset => area.writeFunctionNotices i offset value
    | .memory => [.memoryWrite address value]
  notices.map CommonAreaNotice.entry

end CommonArea

end WlanCard
