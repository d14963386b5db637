import WlanCard.Word

/-!
# Mailbox windows

A mailbox is a window of 2048 bytes. Messages in either direction are placed so that they end at the
window's last byte; where a message starts follows from its length alone.

`splice_getElem` says which byte stands where after bytes have been written.
-/

namespace WlanCard

/-- The number of address bits within a mailbox window. -/
def windowShift : Nat := 11

/-- The bytes of one mailbox. -/
abbrev Window := Vector UInt8 2048

namespace Window

/-- The number of bytes in a window. -/
def size : Nat := 1 <<< windowShift

/-- A window full of zeros. -/
def zeros : Window := Vector.replicate 2048 0

/-- Where a message of the given length starts; a longer one fills the window. -/
def startOf (length : Nat) : Nat :=
  2048 - min length 2048

/-- The bytes of the window from `start` on, at most `count` of them. -/
def slice (w : Window) (start count : Nat) : List UInt8 :=
  (w.toArray.extract start (start + count)).toList

/-- The number whose `count` bytes, least significant first, stand at `start`. -/
def number (w : Window) (start count : Nat) : Nat :=
  Word.ofLittleEndian (w.slice start count)

/-- The window with bytes written from `offset` on; bytes beyond the end of the window are lost. -/
def splice (w : Window) (offset : Nat) (bytes : List UInt8) : Window :=
  let bytes := bytes.toArray
  Vector.ofFn fun i =>
    if offset ≤ i.val ∧ i.val < offset + bytes.size then bytes.getD (i.val - offset) 0 else w[i]

/-- The window with a message placed at its end; of a message longer than the window only the last
bytes are left. -/
def placeAtEnd (w : Window) (message : List UInt8) : Window :=
  w.splice (startOf message.length) (message.drop (message.length - 2048))

/-- **Writing bytes**: they stand where they were written, and every other byte is as it was. -/
theorem splice_getElem (w : Window) (offset : Nat) (bytes : List UInt8) (i : Nat)
    (inside : i < 2048) :
    (w.splice offset bytes)[i] =
      if offset ≤ i ∧ i < offset + bytes.length then bytes.getD (i - offset) 0 else w[i] := by
  simp [splice]

end Window

end WlanCard
