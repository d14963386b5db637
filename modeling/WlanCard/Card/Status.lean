/-!
# The card status register

Thirty-two bits that say what went wrong with recent commands and what the card is doing. Each flag
has its own bits, one for most of them and four for the current state. The bits fall into classes by
what clears them: class A follows the card, class B is cleared by the next valid command, class C by
being read.
-/

namespace WlanCard

/-- The status register: any thirty-two bits. -/
structure Status where
  bits : UInt32
deriving DecidableEq, Repr

namespace Status

/-- The flags of the status register, from the most significant bit down. -/
inductive Flag where
  | outOfRange
  | addressError
  | blockLengthError
  | eraseSequenceError
  | eraseParameter
  | writeProtectViolation
  | cardIsLocked
  | lockUnlockFailed
  | commandCrcError
  | illegalCommand
  | cardEccFailed
  | controllerError
  | generalError
  | identityOverwrite
  | writeProtectEraseSkip
  | cardEccDisabled
  | eraseReset
  | currentState
  | readyForData
  | applicationCommand
  | authenticationError
deriving DecidableEq, Repr

/-- The bits of a flag. -/
def Flag.mask : Flag → UInt32
  | .outOfRange => 0x80000000
  | .addressError => 0x40000000
  | .blockLengthError => 0x20000000
  | .eraseSequenceError => 0x10000000
  | .eraseParameter => 0x08000000
  | .writeProtectViolation => 0x04000000
  | .cardIsLocked => 0x02000000
  | .lockUnlockFailed => 0x01000000
  | .commandCrcError => 0x00800000
  | .illegalCommand => 0x00400000
  | .cardEccFailed => 0x00200000
  | .controllerError => 0x00100000
  | .generalError => 0x00080000
  | .identityOverwrite => 0x00010000
  | .writeProtectEraseSkip => 0x00008000
  | .cardEccDisabled => 0x00004000
  | .eraseReset => 0x00002000
  | .currentState => 0x00001e00
  | .readyForData => 0x00000100
  | .applicationCommand => 0x00000020
  | .authenticationError => 0x00000008

/-- The name of a flag in messages. -/
def Flag.name : Flag → String
  | .outOfRange => "OUT_OF_RANGE"
  | .addressError => "ADDRESS_ERROR"
  | .blockLengthError => "BLOCK_LEN_ERROR"
  | .eraseSequenceError => "ERASE_SEQ_ERROR"
  | .eraseParameter => "ERASE_PARAM"
  | .writeProtectViolation => "WP_VIOLATION"
  | .cardIsLocked => "CARD_IS_LOCKED"
  | .lockUnlockFailed => "LOCK_UNLOCK_FAILED"
  | .commandCrcError => "COM_CRC_ERROR"
  | .illegalCommand => "ILLEGAL_COMMAND"
  | .cardEccFailed => "CARD_ECC_FAILED"
  | .controllerError => "CC_ERROR"
  | .generalError => "SD_ERROR"
  | .identityOverwrite => "CID_CSD_OVERWRITE"
  | .writeProtectEraseSkip => "WP_ERASE_SKIP"
  | .cardEccDisabled => "CARD_ECC_DISABLED"
  | .eraseReset => "ERASE_RESET"
  | .currentState => "CURRENT_STATE"
  | .readyForData => "READY_FOR_DATA"
  | .applicationCommand => "APP_CMD"
  | .authenticationError => "AKE_SEQ_ERROR"

/-- Every flag, from the most significant bit down. -/
def Flag.all : List Flag :=
  [.outOfRange, .addressError, .blockLengthError, .eraseSequenceError, .eraseParameter,
    .writeProtectViolation, .cardIsLocked, .lockUnlockFailed, .commandCrcError, .illegalCommand,
    .cardEccFailed, .controllerError, .generalError, .identityOverwrite, .writeProtectEraseSkip,
    .cardEccDisabled, .eraseReset, .currentState, .readyForData, .applicationCommand,
    .authenticationError]

/-- Class A: bits that reflect what the card is doing. -/
def classA : UInt32 := 0x02004100

/-- Class B: bits that the next valid command clears. -/
def classB : UInt32 := 0x00c01e00

/-- Class C: bits that are cleared once they have been read. -/
def classC : UInt32 := 0xfd39a028

/-- The status of a card that has just been reset. -/
def powerOn : Status := ⟨0x00001e00⟩

/-- The errors that stop the data path. -/
def dataErrors : UInt32 :=
  Flag.addressError.mask ||| Flag.outOfRange.mask ||| Flag.generalError.mask

/-- The bits of a mask that are set. -/
def meet (s : Status) (mask : UInt32) : UInt32 :=
  s.bits &&& mask

/-- Whether any bit of a mask is set. -/
def meets (s : Status) (mask : UInt32) : Bool :=
  s.meet mask != 0

/-- Whether a flag is set, with all of its bits. -/
def has (s : Status) (f : Flag) : Bool :=
  s.meet f.mask == f.mask

/-- The status with all bits of a mask set. -/
def raise (s : Status) (mask : UInt32) : Status :=
  ⟨s.bits ||| mask⟩

/-- The status with all bits of a mask cleared. -/
def clear (s : Status) (mask : UInt32) : Status :=
  ⟨s.bits &&& ~~~mask⟩

/-- The flags that are set, from the most significant bit down. -/
def flags (s : Status) : List Flag :=
  Flag.all.filter s.has

/-- The bits that belong to a flag at all. -/
def known (s : Status) : UInt32 :=
  s.meet (Flag.all.foldl (fun mask f => mask ||| f.mask) 0)

/-- The bits that no flag in `flags` accounts for. -/
def leftover (s : Status) : UInt32 :=
  (s.flags.foldl (fun rest f => rest.clear f.mask) s).bits

end Status

end WlanCard
