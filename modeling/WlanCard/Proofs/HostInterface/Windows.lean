import WlanCard.Proofs.HostInterface.Credits

/-!
# What the mailboxes hold

A message at the end of a window stands behind what was in front of it (`Window.toList_placeAtEnd`), and its
numbers are read from there (`Window.number_placeAtEnd`).

A byte of a mailbox changes when it is written, and when the target places something at the end of the
window, be it an answer of the bootloader or a frame (`byte_deliver`). A reset leaves it alone, and so
does every other access (`byte_write`, `byte_read`). The number of bytes that wait for the host is set by
the target alone.
-/

namespace WlanCard

namespace Window

/-- Bytes that fit stand between what was in front of them and what was behind them. -/
theorem toList_splice (w : Window) {offset : Nat} {bytes : List UInt8}
    (fits : offset + bytes.length ≤ 2048) :
    (w.splice offset bytes).toList =
      w.toList.take offset ++ bytes ++ w.toList.drop (offset + bytes.length) := by
  have length : w.toList.length = 2048 := Vector.length_toList
  rw [List.append_assoc]
  apply List.ext_getElem
  · simp only [Vector.length_toList, List.length_append, List.length_take, List.length_drop]
    omega
  · intro i inside _
    rw [Vector.length_toList] at inside
    rw [Vector.getElem_toList, splice_getElem w offset bytes i inside]
    by_cases before : i < offset
    · rw [if_neg (by omega), List.getElem_append_left (by rw [List.length_take]; omega),
        List.getElem_take, Vector.getElem_toList]
    · have front : (w.toList.take offset).length = offset := by
        rw [List.length_take]
        omega
      rw [List.getElem_append_right (by omega)]
      simp only [front]
      by_cases within : i - offset < bytes.length
      · rw [if_pos (by omega), List.getElem_append_left within, List.getD_eq_getElem?_getD,
          List.getElem?_eq_getElem within, Option.getD_some]
      · rw [if_neg (by omega), List.getElem_append_right (by omega), List.getElem_drop,
          Vector.getElem_toList]
        congr 1
        omega

theorem placeAtEnd_eq_splice (w : Window) {message : List UInt8} (fits : message.length ≤ 2048) :
    w.placeAtEnd message = w.splice (2048 - message.length) message := by
  have whole : message.drop (message.length - 2048) = message := by
    rw [Nat.sub_eq_zero_of_le fits, List.drop_zero]
  have start : startOf message.length = 2048 - message.length := by
    rw [startOf, Nat.min_eq_left fits]
  rw [placeAtEnd, whole, start]

/-- A message that fits ends with the window. -/
theorem toList_placeAtEnd (w : Window) {message : List UInt8} (fits : message.length ≤ 2048) :
    (w.placeAtEnd message).toList = w.toList.take (2048 - message.length) ++ message := by
  have length : w.toList.length = 2048 := Vector.length_toList
  have behind : w.toList.drop (2048 - message.length + message.length) = [] := by
    rw [List.drop_eq_nil_iff]
    omega
  rw [placeAtEnd_eq_splice w fits, toList_splice w (by omega), behind, List.append_nil]

/-- A message at the end of a window leaves what is in front of it alone. -/
theorem get_placeAtEnd (w : Window) {message : List UInt8} {i : Fin 2048}
    (front : i.val + message.length < 2048) : (w.placeAtEnd message).get i = w.get i := by
  have fits : message.length ≤ 2048 := by omega
  show (w.placeAtEnd message)[i.val] = w[i.val]
  rw [placeAtEnd_eq_splice w fits, splice_getElem _ _ _ _ i.isLt, if_neg]
  omega

/-- **The message itself** stands behind that. -/
theorem get_placeAtEnd_of_le (w : Window) {message : List UInt8} {i : Fin 2048}
    (inside : message.length ≤ 2048) (behind : 2048 - message.length ≤ i.val) :
    (w.placeAtEnd message).get i = message.getD (i.val - (2048 - message.length)) 0 := by
  show (w.placeAtEnd message)[i.val] = _
  rw [placeAtEnd_eq_splice w inside, splice_getElem _ _ _ _ i.isLt, if_pos]
  omega

/-! ## Numbers -/

theorem slice_eq (w : Window) (start count : Nat) :
    w.slice start count = (w.toList.drop start).take count := by
  unfold slice
  rw [Array.toList_extract, List.extract_eq_take_drop, Nat.add_sub_cancel_left]
  rfl

/-- A number at the end of a window is read from the message that stands there. -/
theorem number_placeAtEnd (w : Window) {message : List UInt8} (fits : message.length ≤ 2048)
    (offset count : Nat) :
    (w.placeAtEnd message).number (2048 - message.length + offset) count =
      Word.ofLittleEndian ((message.drop offset).take count) := by
  have front : (w.toList.take (2048 - message.length)).length = 2048 - message.length := by
    rw [List.length_take, Vector.length_toList]
    omega
  rw [number, slice_eq, toList_placeAtEnd w fits, ← List.drop_drop, List.drop_left' front]

end Window

namespace HostInterface

variable {h : HostInterface} {m n : MailboxNumber} {i : Fin 2048}

/-- The byte that stands in the window of a mailbox. -/
def byte (h : HostInterface) (m : MailboxNumber) (i : Fin 2048) : UInt8 :=
  (h.mailbox m).window.get i

/-- The number of bytes that wait for the host in a mailbox. -/
def available (h : HostInterface) (m : MailboxNumber) : UInt8 :=
  (h.mailbox m).available

theorem byte_powerOn (m : MailboxNumber) (i : Fin 2048) : powerOn.byte m i = 0 := by
  unfold byte mailbox powerOn
  simp [Mailbox.empty, Window.zeros, Vector.get]

/-! ## Operations of the target -/

theorem byte_reset (h : HostInterface) (m : MailboxNumber) (i : Fin 2048) :
    h.reset.byte m i = h.byte m i := by
  unfold byte mailbox reset
  simp [Mailbox.reset]

theorem byte_setCredits (h : HostInterface) (m n : MailboxNumber) (credits : UInt8) (shift : Nat)
    (i : Fin 2048) : (h.setCredits m credits shift).2.byte n i = h.byte n i :=
  apply_setMailbox (h := h) (·.window.get i) rfl

theorem available_setCredits (h : HostInterface) (m n : MailboxNumber) (credits : UInt8)
    (shift : Nat) : (h.setCredits m credits shift).2.available n = h.available n :=
  apply_setMailbox (h := h) Mailbox.available rfl

theorem byte_setAvailable (h : HostInterface) (m n : MailboxNumber) (count : UInt8) (i : Fin 2048) :
    (h.setAvailable m count).byte n i = h.byte n i :=
  apply_setMailbox (·.window.get i) rfl

theorem byte_setWindow (h : HostInterface) (m n : MailboxNumber) (w : Window) (i : Fin 2048) :
    (h.setWindow m w).byte n i = if n = m then w.get i else h.byte n i := by
  unfold byte setWindow
  rw [mailbox_setMailbox]
  split <;> rfl

/-- A frame stands at the end of the window that it is delivered to. -/
theorem byte_deliver (h : HostInterface) (m : MailboxNumber) (payload : List UInt8)
    (front : n = m → i.val + (frameHeaderLength + payload.length) < 2048) :
    (h.deliver m payload).byte n i = h.byte n i := by
  show ((h.setMailbox m _).mailbox n).window.get i = _
  rw [mailbox_setMailbox]
  split
  next here =>
    subst here
    have front := front rfl
    have frame : (frame (payload.take maxPayload)).length ≤ frameHeaderLength + payload.length := by
      unfold frame
      rw [List.length_append, Word.length_littleEndian, List.length_take]
      omega
    exact Window.get_placeAtEnd _ (by omega)
  · rfl

/-! ## Register accesses -/

theorem byte_writeMailbox (h : HostInterface) (m n : MailboxNumber) (offset i : Fin 2048)
    (value : UInt8) :
    (h.writeMailbox m offset value).2.byte n i =
      if n = m ∧ i = offset then value else h.byte n i := by
  have placed : (h.writeMailbox m offset value).2.byte n i =
      if n = m then ((h.mailbox m).window.setIfInBounds offset value).get i else h.byte n i := by
    unfold writeMailbox byte
    dsimp only
    split <;> (dsimp only; rw [mailbox_setMailbox]; split <;> rfl)
  rw [placed]
  by_cases here : n = m
  · subst here
    have written : ((h.mailbox n).window.setIfInBounds offset value).get i =
        if i = offset then value else (h.mailbox n).window.get i := by
      show ((h.mailbox n).window.setIfInBounds offset value)[i.val] =
        if _ then _ else (h.mailbox n).window[i.val]
      rw [Vector.getElem_setIfInBounds i.isLt]
      simp only [Fin.ext_iff, eq_comm]
    rw [if_pos rfl, written]
    simp only [true_and]
    rfl
  · rw [if_neg here, if_neg fun both => here both.1]

/-- **A byte of a window is written** at its address, and nowhere else. -/
theorem byte_write (h : HostInterface) (address : UInt32) (value : UInt8) (n : MailboxNumber)
    (i : Fin 2048) :
    (h.write address value).2.byte n i =
      if address.toNat = (HostRegister.mailbox n i).address then value else h.byte n i := by
  by_cases stands : address.toNat = (HostRegister.mailbox n i).address
  · rw [write_at stands, if_pos stands]
    exact (byte_writeMailbox ..).trans (if_pos ⟨rfl, rfl⟩)
  · rw [if_neg stands]
    rcases h.write_cases address value with ⟨r, elsewhere, same⟩ | same
    · rw [same]
      cases r with
      | mailbox m offset =>
        refine (byte_writeMailbox ..).trans (if_neg ?_)
        rintro ⟨rfl, rfl⟩
        exact stands elsewhere
      | _ => rfl
    · rw [same]

theorem available_write (h : HostInterface) (address : UInt32) (value : UInt8) (n : MailboxNumber) :
    (h.write address value).2.available n = h.available n := by
  rcases h.write_cases address value with ⟨r, -, same⟩ | same
  · rw [same]
    cases r with
    | mailbox m offset =>
      unfold writeRegister writeMailbox
      dsimp only
      split <;> exact apply_setMailbox Mailbox.available rfl
    | _ => rfl
  · rw [same]

theorem byte_read (h : HostInterface) (address : UInt32) (n : MailboxNumber) (i : Fin 2048) :
    (h.read address).2.byte n i = h.byte n i := by
  rcases h.read_cases address with ⟨r, -, same⟩ | ⟨-, same⟩
  · rw [same]
    cases r with
    | creditTake m => exact apply_setMailbox (h := h) (·.window.get i) rfl
    | _ => rfl
  · rw [same]

end HostInterface

end WlanCard
