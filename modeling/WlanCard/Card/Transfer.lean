import WlanCard.Card.Functions

/-!
# Block transfers

An extended command opens a transfer of a number of blocks to or from one function. The bytes of the
current block pass through a staging buffer: a block written by the host is handed to the function
once the buffer is full, a block read by the host is fetched from the function before its first byte.
After each block the address moves on by the block's length, unless it is fixed.
-/

namespace WlanCard

/-- The direction of a transfer, as the host sees it. -/
inductive Direction where
  /-- From the card to the host. -/
  | read
  /-- From the host to the card. -/
  | write
deriving DecidableEq, Repr

/-- The name of a direction in messages. -/
def Direction.name : Direction → String
  | .read => "Read"
  | .write => "Write"

/-- The number of blocks left in a transfer. -/
inductive BlockCount where
  | finite (count : Nat)
  /-- As many as the host likes, until it aborts the transfer. -/
  | infinite
deriving DecidableEq, Repr

/-- A transfer in progress. -/
structure Transfer where
  function : FunctionNumber
  direction : Direction
  addressing : Addressing
  /-- Bytes in a block; one when the host counts bytes. -/
  blockLength : Nat
  blocks : BlockCount
  /-- The register address of the current block. -/
  start : UInt32
  /-- The position within the current block. -/
  offset : Nat
  /-- The bytes of the current block. -/
  staging : Array UInt8
deriving DecidableEq, Repr

namespace Transfer

/-- The largest block a function may be configured with. -/
def maxBlockLength : Nat := 2048

/-- A transfer at its first byte, its staging buffer full of zeros. -/
def new (function : FunctionNumber) (direction : Direction) (addressing : Addressing)
    (start : UInt32) (blockLength : Nat) (blocks : BlockCount) : Transfer where
  function
  direction
  addressing
  blockLength
  blocks
  start
  offset := 0
  staging := Array.replicate blockLength 0

/-- Whether the whole block has passed through the staging buffer. -/
def blockDone (t : Transfer) : Bool :=
  t.blockLength ≤ t.offset

/-- The transfer at the first byte of the next block. -/
def nextBlock (t : Transfer) : Transfer :=
  { t with
    start := t.start + UInt32.ofNat t.blockLength * t.addressing.stride
    offset := 0 }

/-- Accounts for one finished block: whether it was the last, and the transfer after it. The last
block leaves the position as it is. -/
def finishBlock (t : Transfer) : Bool × Transfer :=
  match t.blocks with
  | .infinite => (false, t.nextBlock)
  | .finite count =>
    let left := { t with blocks := .finite (count - 1) }
    if count - 1 = 0 then (true, left) else (false, left.nextBlock)

/-- The transfer after the host has written one byte. -/
def put (t : Transfer) (value : UInt8) : Transfer :=
  { t with staging := t.staging.setIfInBounds t.offset value, offset := t.offset + 1 }

/-- The byte that the host reads next. -/
def current (t : Transfer) : UInt8 :=
  t.staging.getD t.offset 0

/-- The transfer after the host has read one byte. -/
def advance (t : Transfer) : Transfer :=
  { t with offset := t.offset + 1 }

end Transfer

end WlanCard
