import WlanCard.Card.Phase
import WlanCard.Card.Status
import WlanCard.Word

/-!
# Responses to commands

A response has a kind, fixed by the command, and up to four bytes, most significant first. The two
kinds that report the status register also consume it: each clears its own set of bits once the
response is built, so that an error is reported and then forgotten.

A suppressed response keeps its kind and loses its bytes; that is how the card stays silent after an
illegal command.
-/

namespace WlanCard

/-- The kinds of response. -/
inductive ResponseKind where
  /-- No response. -/
  | r0
  /-- The status register. -/
  | r1
  /-- The status register, while the card may be busy. -/
  | r1b
  /-- The operating conditions register. -/
  | r4
  /-- One data byte with error flags. -/
  | r5
  /-- The card's relative address. -/
  | r6
deriving DecidableEq, Repr

/-- The name of a kind in messages. -/
def ResponseKind.name : ResponseKind → String
  | .r0 => "R0"
  | .r1 => "R1"
  | .r1b => "R1b"
  | .r4 => "R4"
  | .r5 => "R5"
  | .r6 => "R6"

/-- What is sent back on the command line. -/
structure Response where
  kind : ResponseKind
  /-- The payload, most significant byte first; empty when nothing is sent. -/
  bytes : List UInt8
deriving DecidableEq, Repr

namespace Response

/-- No response at all. -/
def none : Response := ⟨.r0, []⟩

/-- The payload as one number. -/
def word (r : Response) : UInt32 :=
  UInt32.ofNat (Word.ofBigEndian r.bytes)

/-- The same kind of response without its payload. -/
def suppress (r : Response) : Response :=
  { r with bytes := [] }

/-- One flag at bit `i` of a flag byte. -/
def flagAt (i : Nat) (b : Bool) : UInt8 :=
  if b then UInt8.ofNat (1 <<< i) else 0

/-- The bits of an R1 that come from before the command: class B, except the report of an illegal
command, which is the command's own. -/
def carryMask : UInt32 :=
  Status.classB ^^^ Status.Flag.illegalCommand.mask

/-- The bits that the error flag of an R5 stands for on a native bus. -/
def nativeErrorMask : UInt32 := 0x37380003

/-- The bits that the error flag of an R5 stands for on a serial bus. -/
def spiErrorMask : UInt32 := 0xb7380003

/-- The bits that an R5 clears. -/
def directClearMask : UInt32 := 0xf7f80003

/-- R1 and R1b: the status register, with the carried bits as they were before the command. Class C
is cleared afterwards. -/
def normal (kind : ResponseKind) (last status : Status) : Response × Status :=
  let bits := status.meet (~~~carryMask) ||| last.meet carryMask
  (⟨kind, Word.bigEndian 4 bits.toBitVec⟩, status.clear Status.classC)

/-- R4: the operating conditions, with the top bit set once the card is ready. -/
def operatingConditions (conditions : UInt32) (ready : Bool) : Response :=
  let bits := if ready then conditions ||| 0x80000000 else conditions
  ⟨.r4, Word.bigEndian 4 bits.toBitVec⟩

/-- The flag byte of an R5. -/
def directFlags (status : Status) (phase : Phase) : BusMode → UInt8
  | .native =>
    flagAt 7 (status.meets Status.Flag.commandCrcError.mask)
      ||| flagAt 6 (status.meets Status.Flag.illegalCommand.mask)
      ||| phase.code <<< 4
      ||| flagAt 3 (status.meets nativeErrorMask)
      ||| flagAt 1 (status.meets Status.Flag.addressError.mask)
      ||| flagAt 0 (status.meets Status.Flag.outOfRange.mask)
  | .spi =>
    flagAt 6 (status.meets spiErrorMask)
      ||| flagAt 4 (status.meets Status.Flag.addressError.mask)
      ||| flagAt 3 (status.meets Status.Flag.commandCrcError.mask)
      ||| flagAt 2 (status.meets Status.Flag.illegalCommand.mask)
      ||| flagAt 0 (phase.code == 0)

/-- R5: a data byte and its flags. On a native bus two zero bytes stand before them. The bits of
`directClearMask` are cleared afterwards. -/
def direct (status : Status) (phase : Phase) (mode : BusMode) (data : UInt8) : Response × Status :=
  let flags := directFlags status phase mode
  let bytes := match mode with
    | .native => [0, 0, flags, data]
    | .spi => [flags, data]
  (⟨.r5, bytes⟩, status.clear directClearMask)

/-- R6: the relative address and three error flags. -/
def publishedAddress (status : Status) (address : UInt16) : Response :=
  let flags :=
    flagAt 7 (status.has .commandCrcError)
      ||| flagAt 6 (status.has .illegalCommand)
      ||| flagAt 5 (status.has .generalError)
  ⟨.r6, Word.bigEndian 2 address.toBitVec ++ [flags, 0]⟩

end Response

end WlanCard
