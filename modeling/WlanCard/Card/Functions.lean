/-!
# The functions behind a card

A card has up to eight functions. Function 0 is the card's own register area; the others belong to
whatever the card carries, which answers register accesses through `Functions`. A function may also
offer a code storage area, reached through a window one byte at a time.

`Functions.recorded` adds to any functions a record of the accesses made to them; it changes nothing
else, so what holds of recorded functions holds of the functions themselves.
-/

namespace WlanCard

/-- The number of a function on a card. -/
abbrev FunctionNumber := Fin 8

/-- Every card has a function 0. -/
-- With the zero of `Nat` that literals of `Fin` ask for.
instance FunctionNumber.neZero : @NeZero Nat Zero.ofOfNat0 8 := ⟨by decide⟩

/-- The number of functions that a card can have, function 0 included. -/
def FunctionNumber.count : Nat := 8

/-- The function number in the low three bits of a byte. -/
def FunctionNumber.ofBits (b : UInt8) : FunctionNumber :=
  ⟨b.toNat % 8, Nat.mod_lt _ (by decide)⟩

/-- An address in a function's code storage area. -/
abbrev StorageAddress := BitVec 24

/-- How the address moves from one byte of an access to the next. -/
inductive Addressing where
  /-- Every byte goes to the same address. -/
  | fixed
  /-- Each byte goes to the address after the last. -/
  | incrementing
deriving DecidableEq, Repr

/-- The distance between the addresses of neighbouring bytes. -/
def Addressing.stride : Addressing → UInt32
  | .fixed => 0
  | .incrementing => 1

/-- Register access to the functions a card carries, whose state is `σ`.

Of a read it is assumed that it fills the whole buffer that takes the bytes, and that it does not look
at what stood there before: the length of the buffer is all that `read` gets of it, and a byte for each
of its places is what `read` answers (`length_read`). Functions that leave a part of the buffer as it
was, or that answer by what is in it, are not described. -/
structure Functions (σ : Type) where
  /-- Called at the end of every card reset. -/
  reset : σ → σ
  /-- The bytes of one read access, one for each place of the buffer that takes them, and the state
  after it. -/
  read (f : FunctionNumber) (address : UInt32) (length : Nat) (how : Addressing) (s : σ) :
    List UInt8 × σ
  /-- The state after one write access. -/
  write (f : FunctionNumber) (address : UInt32) (bytes : List UInt8) (how : Addressing) (s : σ) : σ
  /-- One byte read from the code storage area; a function without one answers nothing. -/
  readStorage : FunctionNumber → StorageAddress → σ → Option UInt8 × σ := fun _ _ s => (none, s)
  /-- One byte written to the code storage area. -/
  writeStorage : FunctionNumber → StorageAddress → UInt8 → σ → σ := fun _ _ _ s => s
  /-- A read answers as many bytes as it was asked for. -/
  length_read (f : FunctionNumber) (address : UInt32) (length : Nat) (how : Addressing) (s : σ) :
    (read f address length how s).1.length = length

/-- One access made to the functions of a card. -/
inductive Access where
  | reset
  | read (f : FunctionNumber) (address : UInt32) (length : Nat) (how : Addressing)
  | write (f : FunctionNumber) (address : UInt32) (bytes : List UInt8) (how : Addressing)
  | readStorage (f : FunctionNumber) (address : StorageAddress)
  | writeStorage (f : FunctionNumber) (address : StorageAddress) (value : UInt8)
deriving DecidableEq, Repr

/-- The same functions, with every access added to a record, oldest first. -/
def Functions.recorded {σ : Type} (fs : Functions σ) : Functions (σ × Array Access) where
  reset s := (fs.reset s.1, s.2.push .reset)
  read f address length how s :=
    let answer := fs.read f address length how s.1
    (answer.1, answer.2, s.2.push (.read f address length how))
  write f address bytes how s :=
    (fs.write f address bytes how s.1, s.2.push (.write f address bytes how))
  readStorage f address s :=
    let answer := fs.readStorage f address s.1
    (answer.1, answer.2, s.2.push (.readStorage f address))
  writeStorage f address value s :=
    (fs.writeStorage f address value s.1, s.2.push (.writeStorage f address value))
  length_read f address length how s := fs.length_read f address length how s.1

end WlanCard
