/-!
# The card information structure

A card describes itself by a chain of tuples: a code, the number of bytes that follow, and those
bytes. A terminator ends the chain. The card carries two chains, one for the card as a whole and one
for its single function, laid out one after the other.
-/

namespace WlanCard.Cis

/-- What a tuple describes. -/
inductive TupleCode where
  | null
  | device
  | manufacturer
  | functionKind
  | functionExtension
  | terminator
deriving DecidableEq, Repr

/-- The byte that stands for a tuple code. -/
def TupleCode.byte : TupleCode → UInt8
  | .null => 0x00
  | .device => 0x01
  | .manufacturer => 0x20
  | .functionKind => 0x21
  | .functionExtension => 0x22
  | .terminator => 0xff

/-- One tuple: its code and its body. -/
structure Tuple where
  code : TupleCode
  body : List UInt8
deriving DecidableEq, Repr

/-- The bytes of a tuple: its code, the length of its body, and the body. -/
def Tuple.encode (t : Tuple) : List UInt8 :=
  t.code.byte :: UInt8.ofNat t.body.length :: t.body

/-- The bytes of a chain of tuples and its terminator, which has no body to count. -/
def encode (chain : List Tuple) : List UInt8 :=
  chain.flatMap Tuple.encode ++ [TupleCode.terminator.byte, 0xff]

/-- Who made the card, and which part it is. -/
def manufacturer : Tuple := ⟨.manufacturer, [0x71, 0x02, 0x0a, 0x01]⟩

/-- The kind of every function here: an input-output function, with nothing to set up. -/
def functionKind : Tuple := ⟨.functionKind, [0x0c, 0x00]⟩

/-- The chain for the card as a whole. -/
def cardChain : List Tuple :=
  [⟨.device, [0x00, 0x00, 0x00]⟩,
    manufacturer,
    functionKind,
    -- function 0; blocks of at most 2048 bytes; 25 Mb/s on each line
    ⟨.functionExtension, [0x00, 0x00, 0x08, 0x32]⟩]

/-- The chain for function 1. -/
def functionChain : List Tuple :=
  [manufacturer,
    functionKind,
    ⟨.functionExtension,
      -- functions 1 to 7; has a wake-up; application specification version
      [0x01, 0x01, 0x11,
        -- no product serial number
        0x00, 0x00, 0x00, 0x00,
        -- no code storage area, and none of its properties
        0x00, 0x00, 0x00, 0x00, 0x00,
        -- blocks of at most 2048 bytes
        0x00, 0x08,
        -- operating conditions: 2.8 V to 3.6 V
        0x00, 0x00, 0xff, 0x00,
        -- operating current, least, average and most: above 200 mA
        0x00, 0x00, 0x00,
        -- standby current: none at least, 1 mA on average, 10 mA at most
        0x00, 0x01, 0x0a,
        -- no least bandwidth, no best bandwidth, no ready timeout
        0x00, 0x00, 0x00, 0x00, 0x00, 0x00,
        -- operating current, average and most, in the wider fields: above 200 mA
        0x00, 0x00, 0x00, 0x00,
        -- high-current mode: 257 mA on average, 256 mA at most
        0x01, 0x01, 0x00, 0x01,
        -- low-current mode: 256 mA on average and at most
        0x00, 0x01, 0x00, 0x01]⟩]

/-- The bytes of the card's own chain. -/
def cardBytes : List UInt8 := encode cardChain

/-- The bytes of the chain of function 1. -/
def functionBytes : List UInt8 := encode functionChain

/-- Where the chain of function 1 starts. -/
def functionOffset : Nat := cardBytes.length

/-- Both chains, the card's own first. -/
def bytes : Array UInt8 := (cardBytes ++ functionBytes).toArray

end WlanCard.Cis
