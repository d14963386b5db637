import WlanCard.Proofs.Checked.Fault
import WlanCard.Proofs.HostInterface.Messages
import WlanCard.Proofs.HostInterface.Windows

/-!
# The host interface in steps that can fault

The registers of function 1 as they go by the numbers: the number of a mailbox is the distance from
the first register of a kind, divided by the distance between two; a bit of a status is a one moved
up by the number of its mailbox; and the four windows stand one after the other in one run of 8192
bytes, from which each is cut out by its number.

Nothing of this depends on what has happened before, with one exception: the bytes written into a
window are counted, and a count has a width (`checkedWrite_eq`).
-/

namespace WlanCard

open Checked

/-! ## Windows -/

namespace Window

/-- As many bytes as a window has. -/
def checkedOfList (bytes : List UInt8) : Checked Window :=
  if size : bytes.length = 2048 then .ok ⟨bytes.toArray, by rw [List.size_toArray, size]⟩
  else .error .length

theorem checkedOfList_eq {bytes : List UInt8} {w : Window} (same : w.toList = bytes) :
    checkedOfList bytes = .ok w := by
  subst same
  have size : w.toList.length = 2048 := Vector.length_toList
  rw [checkedOfList, dif_pos size]
  rfl

end Window

namespace HostInterface

variable (h : HostInterface)

/-- The bytes of all windows, one window after the other. -/
def bytes : List UInt8 :=
  h.mailboxes.toList.flatMap (·.window.toList)

/-- The window of mailbox `m`, cut out of the bytes of all windows. -/
def cut (bytes : List UInt8) (m : Nat) : Checked (List UInt8) := do
  let start ← mul 64 m Window.size
  let stop ← add 64 start Window.size
  slice bytes start stop

/-- The number of the mailbox whose register an address is one of, counted from the register of the
first mailbox. -/
def checkedMailbox (base stride address : Nat) : Checked MailboxNumber := do
  let distance ← sub address base
  index 4 (distance / stride)

/-! ## Credits and frames -/

/-- Replaces the credits of a mailbox and notes it in the counter status. -/
def checkedSetCredits (m : Nat) (credits : UInt8) (shift : Nat) : Checked (Bool × HostInterface) := do
  let m ← index 4 m
  let number ← add 32 m shift
  let bit ← Checked.bit number
  return (h.counter.status &&& bit == 0,
    { h.setMailbox m { h.mailbox m with credits := credits } with counter := h.counter.raise bit })

/-- The bytes of a window with a frame at its end. -/
def checkedPlaceFrame (window payload : List UInt8) : Checked (List UInt8) := do
  let length ← add 64 payload.length frameHeaderLength
  let start ← sub Window.size length
  let behind ← add 64 start frameHeaderLength
  let headed ← overwrite window start behind
    (Word.littleEndian frameHeaderLength (BitVec.ofNat 16 payload.length))
  overwrite headed behind headed.length payload

/-- Places a frame at the end of a mailbox and tells the host of it. -/
def checkedDeliver (m : Nat) (payload : List UInt8) : Checked HostInterface := do
  let most ← sub Window.size frameHeaderLength
  let payload ← truncate payload most
  let bit ← Checked.bit m
  let window ← cut h.bytes m
  let filled ← checkedPlaceFrame window payload
  let placed ← Window.checkedOfList filled
  let m ← index 4 m
  return {
    h.setMailbox m
      { h.mailbox m with window := placed, lookahead := UInt32.ofNat payload.length } with
    status := h.status ||| bit
    lookaheadValid := h.lookaheadValid ||| bit }

/-! ## Registers -/

/-- Writes the byte of a window that stands at an address, and counts it. -/
def checkedWriteMailbox (address : Nat) (value : UInt8) :
    Checked (Option HostEvent × HostInterface) := do
  let offset ← sub address 0x800
  let number ← shiftRight 64 offset windowShift
  let stored ← set h.bytes offset value
  let m ← index 4 number
  let written ← add 64 (h.mailbox m).written 1
  let window ← cut stored m
  let window ← Window.checkedOfList window
  return if address % Window.size = Window.size - 1 then
    (some (.messageComplete m written),
      h.setMailbox m { h.mailbox m with window := window, written := 0 })
  else (none, h.setMailbox m { h.mailbox m with window := window, written := written })

/-- Writes the byte at an address. -/
def checkedWrite (address : UInt32) (value : UInt8) : Checked (Option HostEvent × HostInterface) :=
  match HostRegister.ofAddress? address.toNat with
  | some (.scratch _) => do
    let i ← sub address.toNat 0x460
    require (i < 8) .index
    return (none, { h with scratch := h.scratch.setIfInBounds i value })
  | some (.mailbox _ _) => h.checkedWriteMailbox address.toNat value
  | some r => .ok (h.writeRegister value r)
  | none => .ok (none, h)

/-- Reads a byte of the length of the frame that waits in a mailbox. -/
def checkedReadLookahead (address : Nat) : Checked (UInt8 × HostInterface) := do
  let m ← checkedMailbox 0x408 4 address
  let bit ← Checked.bit m
  let amount ← shiftLeft 32 (address % 4) 3
  let moved ← shiftRight 32 (h.mailbox m).lookahead.toNat amount
  return (UInt8.ofNat moved,
    { h with
      lookaheadValid := h.lookaheadValid &&& ~~~bit
      status := h.status &&& ~~~bit })

/-- Reads the byte at an address. -/
def checkedRead (address : UInt32) : Checked (UInt8 × HostInterface) :=
  match HostRegister.ofAddress? address.toNat with
  | some (.lookahead _ _) => h.checkedReadLookahead address.toNat
  | some (.available _) => do
    let counter ← sub address.toNat HostRegister.counterBase
    let m ← checkedMailbox 4 1 counter
    return ((h.mailbox m).available, h)
  | some (.creditReset _) => do
    let m ← checkedMailbox 0x440 HostRegister.counterStride address.toNat
    let bit ← Checked.bit m
    return ((h.mailbox m).credits, { h with counter := h.counter.acknowledge bit }.updateCounter)
  | some (.creditTake _) => do
    let m ← checkedMailbox 0x450 HostRegister.counterStride address.toNat
    let b := h.mailbox m
    return (b.credits, h.setMailbox m { b with credits := b.credits - 1 })
  | some (.scratch _) => do
    let i ← sub address.toNat 0x460
    let value ← get h.scratch.toList i
    return (value, h)
  | some (.tuple _) => do
    let offset ← sub address.toNat 0x600
    return (Cis.bytes.getD offset 0, h)
  | some (.mailbox _ _) => do
    let offset ← sub address.toNat 0x800
    let value ← get h.bytes offset
    return (value, h)
  | some r => .ok (h.readRegister r)
  | none => .ok (0, h)

/-- Reads `length` bytes, each `stride` after the last. -/
def checkedReadRun (stride : UInt32) :
    (length : Nat) → (address : UInt32) → (h : HostInterface) → Checked (List UInt8 × HostInterface)
  | 0, _, h => .ok ([], h)
  | length + 1, address, h => do
    let first ← h.checkedRead address
    let rest ← checkedReadRun stride length (address + stride) first.2
    return (first.1 :: rest.1, rest.2)

/-! ## Windows without a fault -/

/-- In front of a window stand as many windows as its number says. -/
theorem bytes_eq (m : MailboxNumber) :
    ∃ before after, h.bytes = before ++ (h.mailbox m).window.toList ++ after ∧
      before.length = m * 2048 := by
  have inside : m.val < h.mailboxes.toList.length := by
    rw [Vector.length_toList]
    exact m.isLt
  have each : ∀ boxes : List Mailbox,
      (boxes.flatMap (·.window.toList)).length = boxes.length * 2048 := by
    intro boxes
    induction boxes with
    | nil => rfl
    | cons b boxes ih =>
      rw [List.flatMap_cons, List.length_append, ih, Vector.length_toList, List.length_cons]
      omega
  refine ⟨(h.mailboxes.toList.take m).flatMap (·.window.toList),
    (h.mailboxes.toList.drop (m + 1)).flatMap (·.window.toList), ?_, ?_⟩
  · have whole : h.mailboxes.toList =
        h.mailboxes.toList.take m ++ h.mailbox m :: h.mailboxes.toList.drop (m + 1) := by
      have here : h.mailbox m = h.mailboxes.toList[m.val] := (Vector.getElem_toList inside).symm
      rw [here, ← List.drop_eq_getElem_cons inside, List.take_append_drop]
    rw [bytes]
    conv_lhs => rw [whole]
    rw [List.flatMap_append, List.flatMap_cons, List.append_assoc]
  · rw [each, List.length_take, Nat.min_eq_left (Nat.le_of_lt inside)]

theorem cut_eq {before window after : List UInt8} {m : MailboxNumber}
    (place : before.length = m * 2048) (size : window.length = 2048) : cut (before ++ window ++ after) m = .ok window := by
  have four := m.isLt
  refine ok_bind (mul_eq (show m.val * 2048 < 2 ^ 64 by omega)) ?_
  refine ok_bind (add_eq (show m.val * 2048 + 2048 < 2 ^ 64 by omega)) ?_
  have inside : before.length + window.length ≤ (before ++ window ++ after).length := by
    rw [List.length_append, List.length_append]
    exact Nat.le_add_right ..
  rw [show Window.size = 2048 from rfl, ← place, ← size, slice_eq (Nat.le_add_right ..) inside,
    List.extract_eq_take_drop, Nat.add_sub_cancel_left, List.append_assoc, List.drop_left,
    List.take_left]

theorem cut_bytes (m : MailboxNumber) : cut h.bytes m = .ok (h.mailbox m).window.toList := by
  obtain ⟨before, after, whole, place⟩ := h.bytes_eq m
  rw [whole]
  exact cut_eq place Vector.length_toList

theorem checkedMailbox_eq {base stride address i : Nat} {m : MailboxNumber}
    (place : address = base + (stride * m + i)) (low : i < stride) :
    checkedMailbox base stride address = .ok m := by
  subst place
  refine ok_bind (sub_eq (Nat.le_add_right ..)) (index_eq ?_)
  rw [Nat.add_sub_cancel_left, Nat.mul_add_div (by omega), Nat.div_eq_of_lt low, Nat.add_zero]

theorem bit_mailbox (m : MailboxNumber) {shift : Nat} (low : shift ≤ 4) :
    Checked.bit (m + shift) = .ok (m.bit shift) :=
  bit_eq (by omega)

/-! ## Credits and frames without a fault -/

theorem checkedSetCredits_eq (m : MailboxNumber) (credits : UInt8) {shift : Nat} (low : shift ≤ 4) :
    h.checkedSetCredits m credits shift = .ok (h.setCredits m credits shift) := by
  refine ok_bind (index_eq rfl) (ok_bind (add_eq (by omega)) ?_)
  exact ok_bind (bit_mailbox m low) rfl

theorem checkedPlaceFrame_eq (w : Window) {payload : List UInt8} (fits : payload.length ≤ maxPayload) :
    checkedPlaceFrame w.toList payload = .ok (w.placeAtEnd (frame payload)).toList := by
  let header := Word.littleEndian frameHeaderLength (BitVec.ofNat 16 payload.length)
  have two : header.length = 2 := Word.length_littleEndian ..
  have length : (frame payload).length = payload.length + 2 := by
    rw [frame, List.length_append, Nat.add_comm]
    exact congrArg _ two
  simp only [maxPayload, frameHeaderLength] at fits
  -- The window falls into what stays and what the frame takes the place of.
  let start := 2048 - (payload.length + 2)
  let done := w.toList.take start
  let rest := w.toList.drop start
  have front : done.length = start := by
    rw [List.length_take, Vector.length_toList]
    omega
  have behind : rest.length = payload.length + 2 := by
    rw [List.length_drop, Vector.length_toList]
    omega
  have headed : overwrite w.toList start (start + 2) header = .ok (done ++ header ++ rest.drop 2) := by
    have split : w.toList = done ++ rest := (List.take_append_drop ..).symm
    rw [split, overwrite_append front.symm (by rw [two]) (by omega), two]
  have filled : overwrite (done ++ header ++ rest.drop 2) (start + 2)
      (done ++ header ++ rest.drop 2).length payload = .ok (done ++ header ++ payload) := by
    have none : (rest.drop 2).drop payload.length = [] := by
      rw [List.drop_drop, List.drop_eq_nil_iff]
      omega
    rw [overwrite_append (by rw [List.length_append]; omega)
      (by simp only [List.length_append, List.length_drop]; omega)
      (by rw [List.length_drop]; omega), none, List.append_nil]
  refine ok_bind (add_eq (show payload.length + 2 < 2 ^ 64 by omega)) ?_
  refine ok_bind (sub_eq (show payload.length + 2 ≤ 2048 by omega)) ?_
  refine ok_bind (add_eq (show start + 2 < 2 ^ 64 by omega)) (ok_bind headed (filled.trans ?_))
  rw [w.toList_placeAtEnd (by omega), length, List.append_assoc]
  rfl

theorem checkedDeliver_eq (m : MailboxNumber) (payload : List UInt8) :
    h.checkedDeliver m payload = .ok (h.deliver m payload) := by
  have fits : (payload.take maxPayload).length ≤ maxPayload := List.length_take_le ..
  refine ok_bind (sub_eq (by decide)) (ok_bind (truncate_eq ..) ?_)
  refine ok_bind (bit_mailbox m (Nat.zero_le 4)) (ok_bind (h.cut_bytes m) ?_)
  refine ok_bind (checkedPlaceFrame_eq _ fits) (ok_bind (Window.checkedOfList_eq rfl) ?_)
  exact ok_bind (index_eq rfl) rfl

/-! ## Registers without a fault -/

/-- **A byte of a window is written** and counted, if there is room for one more. -/
theorem checkedWriteMailbox_eq {m : MailboxNumber} {offset : Fin 2048} {address : Nat}
    (stands : address = (HostRegister.mailbox m offset).address) (value : UInt8)
    (room : h.written m + 1 < 2 ^ 64) :
    h.checkedWriteMailbox address value = .ok (h.writeMailbox m offset value) := by
  change address = 0x800 + 2048 * m + offset at stands
  have inside := offset.isLt
  have four := m.isLt
  let window := (h.mailbox m).window.toList
  obtain ⟨before, after, whole, place⟩ := h.bytes_eq m
  have distance : address - 0x800 = before.length + offset := by omega
  have size : window.length = 2048 := Vector.length_toList
  have within : before.length + offset < (before ++ window ++ after).length := by
    rw [List.length_append, List.length_append, size]
    omega
  have stored : (before ++ window ++ after).set (before.length + offset) value =
      before ++ window.set offset value ++ after := by
    rw [List.append_assoc, List.set_append_right _ _ (Nat.le_add_right ..), Nat.add_sub_cancel_left,
      List.set_append_left _ _ (by omega), List.append_assoc]
  have number : (before.length + offset.val) >>> windowShift = m := by
    rw [windowShift, Nat.shiftRight_eq_div_pow]
    omega
  have last : address % Window.size = Window.size - 1 ↔ offset.val = 2047 := by
    rw [show Window.size = 2048 from rfl]
    omega
  refine ok_bind (sub_eq (by omega)) ?_
  rw [distance]
  refine ok_bind (shiftRight_eq (by decide)) ?_
  rw [number, whole]
  refine ok_bind (set_eq within value) ?_
  rw [stored]
  refine ok_bind (index_eq rfl) (ok_bind (add_eq room) ?_)
  refine ok_bind (cut_eq place (by rw [List.length_set, size])) ?_
  refine ok_bind (Window.checkedOfList_eq (w := (h.mailbox m).window.setIfInBounds offset value) ?_) ?_
  · exact Vector.toList_setIfInBounds
  · exact congrArg Except.ok (if_congr last rfl rfl)

/-- A write adds one byte at most to those that a mailbox has counted. -/
theorem written_write_le (m : MailboxNumber) (address : UInt32) (value : UInt8) :
    (h.write address value).2.written m ≤ h.written m + 1 := by
  have marked := (h.perform_mark m (.write address value)).2
  change (h.write address value).2.written m = _ at marked
  rw [marked]
  cases Operation.mark? m (.write address value) with
  | none => exact Nat.le_succ _
  | some mark =>
    cases mark with
    | reset => exact Nat.zero_le _
    | byte offset =>
      show (Mark.byte offset).pending (h.written m) ≤ _
      unfold Mark.pending
      dsimp only
      split
      · exact Nat.zero_le _
      · exact Nat.le_refl _

/-- A read adds none. -/
theorem written_read (m : MailboxNumber) (address : UInt32) :
    (h.read address).2.written m = h.written m :=
  (h.perform_mark m (.read address)).2

/-- **A register is written** as the total definition has it, if there is room for one more byte in
every count. -/
theorem checkedWrite_eq (address : UInt32) (value : UInt8)
    (room : ∀ m, h.written m + 1 < 2 ^ 64) :
    h.checkedWrite address value = .ok (h.write address value) := by
  unfold checkedWrite write
  cases found : HostRegister.ofAddress? address.toNat with
  | none => rfl
  | some r =>
    have stands := HostRegister.address_of_ofAddress? found
    cases r with
    | scratch i =>
      change 0x460 + i = address.toNat at stands
      have stored : h.scratch.setIfInBounds i value = h.scratch.set i value i.isLt :=
        Vector.ext fun j _ => by rw [Vector.getElem_setIfInBounds, Vector.getElem_set]
      refine ok_bind (sub_eq (by omega)) (ok_bind (require_eq (by omega)) ?_)
      rw [← stands, Nat.add_sub_cancel_left, stored]
      rfl
    | mailbox m offset => exact h.checkedWriteMailbox_eq stands.symm value (room m)
    | _ => rfl

theorem checkedReadLookahead_eq {m i : Fin 4} {address : Nat}
    (stands : address = (HostRegister.lookahead m i).address) :
    h.checkedReadLookahead address = .ok (h.readRegister (.lookahead m i)) := by
  change address = 0x408 + 4 * m + i at stands
  have low := i.isLt
  have place : address % 4 = i := by omega
  have amount : i.val <<< 3 % 2 ^ 32 = 8 * i := by
    rw [Nat.shiftLeft_eq]
    omega
  refine ok_bind (checkedMailbox_eq (m := m) (by omega) low) ?_
  refine ok_bind (bit_mailbox m (Nat.zero_le 4)) ?_
  refine ok_bind (shiftLeft_eq (by decide)) ?_
  rw [place, amount]
  exact ok_bind (shiftRight_eq (by omega)) rfl

/-- **A register is read** as the total definition has it. -/
theorem checkedRead_eq (address : UInt32) : h.checkedRead address = .ok (h.read address) := by
  unfold checkedRead read
  cases found : HostRegister.ofAddress? address.toNat with
  | none => rfl
  | some r =>
    have stands := HostRegister.address_of_ofAddress? found
    cases r with
    | lookahead m i => exact h.checkedReadLookahead_eq stands.symm
    | available m =>
      change 0x420 + 4 + m = address.toNat at stands
      refine ok_bind (sub_eq (show 0x420 ≤ address.toNat by omega)) ?_
      refine ok_bind (checkedMailbox_eq (m := m) ?_ Nat.one_pos) rfl
      show address.toNat - 0x420 = _
      omega
    | creditReset m =>
      change 0x440 + (4 * m + 0) = address.toNat at stands
      refine ok_bind (checkedMailbox_eq (i := 0) stands.symm (by decide)) ?_
      exact ok_bind (bit_mailbox m (Nat.zero_le 4)) rfl
    | creditTake m =>
      change 0x450 + (4 * m + 0) = address.toNat at stands
      exact ok_bind (checkedMailbox_eq (i := 0) stands.symm (by decide)) rfl
    | scratch i =>
      change 0x460 + i = address.toNat at stands
      have there : h.scratch.toList[address.toNat - 0x460]? = some h.scratch[i] := by
        rw [← stands, Nat.add_sub_cancel_left, Vector.getElem?_toList]
        exact Vector.getElem?_eq_getElem i.isLt
      exact ok_bind (sub_eq (by omega)) (ok_bind (get_eq there) rfl)
    | tuple offset =>
      change 0x600 + offset = address.toNat at stands
      refine ok_bind (sub_eq (by omega)) ?_
      rw [← stands, Nat.add_sub_cancel_left]
      rfl
    | mailbox m offset =>
      change 0x800 + 2048 * m.val + offset = address.toNat at stands
      obtain ⟨before, after, whole, place⟩ := h.bytes_eq m
      have there : h.bytes[address.toNat - 0x800]? = some ((h.mailbox m).window.get offset) := by
        have distance : address.toNat - 0x800 = before.length + offset := by omega
        rw [distance, whole, List.append_assoc, List.getElem?_append_right (Nat.le_add_right ..),
          Nat.add_sub_cancel_left,
          List.getElem?_append_left (by rw [Vector.length_toList]; exact offset.isLt),
          Vector.getElem?_toList]
        exact Vector.getElem?_eq_getElem offset.isLt
      exact ok_bind (sub_eq (by omega)) (ok_bind (get_eq there) rfl)
    | _ => rfl

/-- **A run of reads** goes on for as long as it is meant to. -/
theorem checkedReadRun_eq (stride : UInt32) (length : Nat) (address : UInt32) :
    checkedReadRun stride length address h = .ok (readRun stride length address h) := by
  induction length generalizing address h with
  | zero => rfl
  | succ length ih => exact ok_bind (h.checkedRead_eq address) (ok_bind (ih ..) rfl)

theorem written_readRun (m : MailboxNumber) (stride : UInt32) (length : Nat) (address : UInt32) :
    (readRun stride length address h).2.written m = h.written m := by
  induction length generalizing address h with
  | zero => rfl
  | succ length ih => exact (ih ..).trans (h.written_read m address)

end HostInterface

end WlanCard
