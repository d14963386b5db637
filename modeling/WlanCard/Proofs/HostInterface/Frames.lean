import WlanCard.Firmware.Event
import WlanCard.Proofs.HostInterface.Footprint
import WlanCard.Proofs.Word

/-!
# Frames as a host reads them

A frame is delivered to the end of a window, behind its length, and the lookahead of the mailbox tells how
far back it reaches. Reading has effects of its own, but none of them reaches the window or the lookahead
(`content_reads`): whatever a host reads, and in whichever order, the answers are those of the state that
the delivery has left (`Answers`). So a host that reads the lookahead first knows where the frame starts,
and finds in it the event that the firmware has sent (`eventOf_frame`, `events_framed`).
-/

namespace WlanCard.HostInterface

variable {h : HostInterface} {m : MailboxNumber}

/-! ## Reads -/

/-- Reads leave a cell alone that none of them can change. -/
theorem content_reads {reads : List UInt32} {cell : HostCell}
    (spared : ∀ address ∈ reads, ¬ cell.ReadAt address.toNat) :
    (h.run (reads.map .read)).content cell = h.content cell := by
  induction reads generalizing h with
  | nil => rfl
  | cons address reads ih =>
    obtain ⟨first, rest⟩ := List.forall_mem_cons.mp spared
    exact (ih rest).trans (h.changesOnly_read address cell first)

/-- The byte that the host is answered at an address, whatever it has read before. -/
def Answers (h : HostInterface) (a : Nat) (b : UInt8) : Prop :=
  ∀ (reads : List UInt32) (address : UInt32), address.toNat = a →
    ((h.run (reads.map .read)).read address).1 = b

theorem Answers.reads {a : Nat} {b : UInt8} (answers : h.Answers a b) (reads : List UInt32) :
    (h.run (reads.map .read)).Answers a b := by
  intro more address stands
  have all := answers (reads ++ more) address stands
  rw [List.map_append] at all
  unfold run at all ⊢
  rwa [List.foldl_append] at all

/-- **The windows and the lookahead** are answered as they are. -/
theorem answers_byte (h : HostInterface) (m : MailboxNumber) (i : Fin 2048) :
    h.Answers (HostRegister.mailbox m i).address (h.byte m i) := by
  intro reads address stands
  have kept : (h.run (reads.map .read)).content (.mailbox m (.byte i)) =
      h.content (.mailbox m (.byte i)) := content_reads fun _ _ => id
  rw [read_at stands]
  exact UInt8.toNat_inj.mp kept

theorem answers_lookahead (h : HostInterface) (m : MailboxNumber) (i : Fin 4) :
    h.Answers (HostRegister.lookahead m i).address
      (Word.byte (h.mailbox m).lookahead.toBitVec i) := by
  intro reads address stands
  have kept : (h.run (reads.map .read)).content (.mailbox m .lookahead) =
      h.content (.mailbox m .lookahead) := content_reads fun _ _ => id
  have same : ((h.run (reads.map .read)).mailbox m).lookahead = (h.mailbox m).lookahead :=
    UInt32.toNat_inj.mp kept
  rw [read_at stands, ← same]
  rfl

theorem Answers.readRun {a : Nat} {b : UInt8} (answers : h.Answers a b) (stride : UInt32)
    (length : Nat) (start : UInt32) : (h.readRun stride length start).2.Answers a b := by
  induction length generalizing h start with
  | zero => exact answers
  | succ length ih => exact ih (answers.reads [start]) (start + stride)

/-- Bytes that are answered one by one are answered by a run of reads. -/
theorem readRun_of_answers {bytes : List UInt8} {start : UInt32}
    (inside : start.toNat + bytes.length < 2 ^ 32)
    (answers : ∀ (i : Nat) (b : UInt8), bytes[i]? = some b → h.Answers (start.toNat + i) b) :
    (h.readRun 1 bytes.length start).1 = bytes := by
  induction bytes generalizing h start with
  | nil => rfl
  | cons b bytes ih =>
    rw [List.length_cons] at inside
    have next : (start + 1).toNat = start.toNat + 1 := by
      have fits : start.toNat + 1 < 2 ^ 32 := by omega
      rw [UInt32.toNat_add]
      exact Nat.mod_eq_of_lt fits
    have first : (h.read start).1 = b := answers 0 b rfl [] start rfl
    have rest : ((h.read start).2.readRun 1 bytes.length (start + 1)).1 = bytes := by
      refine ih (by omega) fun i c here => ?_
      rw [next, Nat.add_assoc, Nat.add_comm 1]
      exact (answers (i + 1) c here).reads [start]
    show (h.read start).1 :: ((h.read start).2.readRun 1 bytes.length (start + 1)).1 = _
    rw [first, rest]

/-! ## Deliveries -/

/-- A frame waits in a mailbox, and its lookahead has not been read. -/
structure Waits (h : HostInterface) (m : MailboxNumber) : Prop where
  valid : bitSet h.lookaheadValid m = true
  status : bitSet h.status m = true

/-- The addresses of the lookahead of a mailbox. -/
def LookaheadAt (m : MailboxNumber) (a : Nat) : Prop :=
  0x408 + 4 * m.val ≤ a ∧ a < 0x408 + 4 * (m.val + 1)

/-- **What a host finds** after `payload` has been delivered to a mailbox, whatever it reads and in whichever
order. -/
structure Delivered (before after : HostInterface) (m : MailboxNumber) (payload : List UInt8) :
    Prop where
  /-- The lookahead tells the length of the payload, least significant byte first. -/
  lookahead : ∃ told : Fin 4 → UInt8, (∀ i, after.Answers (0x408 + 4 * m.val + i.val) (told i)) ∧
    Word.ofLittleEndian (List.ofFn told) = payload.length
  /-- The window ends with the length, in two bytes, and the payload. -/
  window : ∀ (i : Nat) (b : UInt8),
    (Word.littleEndian 2 (BitVec.ofNat 16 payload.length) ++ payload)[i]? = some b →
      after.Answers (0x800 + 2048 * (m.val + 1) - (payload.length + 2) + i) b
  /-- Apart from these bytes, the lookahead and what tells of the frame, everything is as it was. -/
  confined : ChangesOnly
    (fun cell => (∃ i : Fin 2048, 2048 ≤ i.val + (payload.length + 2) ∧ cell = .mailbox m (.byte i)) ∨
      cell = .mailbox m .lookahead ∨ IsWaitingBit m cell) before after
  /-- The frame waits until a byte of the lookahead is read. -/
  waits : ∀ reads : List UInt32, (∀ address ∈ reads, ¬ LookaheadAt m address.toNat) →
    (after.run (reads.map .read)).Waits m
  /-- Whichever byte that is, it takes back what tells of the frame and changes nothing else. -/
  taken : ∀ (reads : List UInt32) (address : UInt32), LookaheadAt m address.toNat →
    let now := after.run (reads.map .read)
    bitSet (now.read address).2.lookaheadValid m = false ∧
      bitSet (now.read address).2.status m = false ∧
      ChangesOnly (IsWaitingBit m) now (now.read address).2

theorem length_frame (payload : List UInt8) : (frame payload).length = payload.length + 2 := by
  unfold frame
  rw [List.length_append, Word.length_littleEndian, Nat.add_comm]
  rfl

/-- What does not fit is cut off before the delivery. -/
theorem deliver_take (h : HostInterface) (m : MailboxNumber) (payload : List UInt8) :
    h.deliver m (payload.take maxPayload) = h.deliver m payload := by
  unfold deliver
  rw [List.take_take, Nat.min_self]

/-- A delivery changes the end of the window, the lookahead, and the bits that tell of it. -/
theorem changesOnly_deliver (h : HostInterface) (m : MailboxNumber) (payload : List UInt8) :
    ChangesOnly
      (fun cell =>
        (∃ i : Fin 2048, 2048 ≤ i.val + (payload.length + 2) ∧ cell = .mailbox m (.byte i)) ∨
          cell = .mailbox m .lookahead ∨ IsWaitingBit m cell) h (h.deliver m payload) := by
  have kept (x : UInt8) (j : Fin 8) (other : j.val ≠ m.val) :
      (bitSet (x ||| m.bit 0) j).toNat = (bitSet x j).toNat := by
    rw [bitSet_or, bitSet_bit_zero, decide_eq_false other, Bool.or_false]
  intro cell spared
  cases cell with
  | status j => exact kept h.status j fun here => spared (.inr (.inr ⟨j, here, .inl rfl⟩))
  | lookaheadValid j =>
    exact kept h.lookaheadValid j fun here => spared (.inr (.inr ⟨j, here, .inr rfl⟩))
  | mailbox n c =>
    cases c with
    | byte i =>
      refine congrArg UInt8.toNat (h.byte_deliver m payload fun here => ?_)
      subst here
      have front : ¬ 2048 ≤ i.val + (payload.length + 2) := fun behind => spared (.inl ⟨i, behind, rfl⟩)
      unfold frameHeaderLength
      omega
    | lookahead =>
      have other : n ≠ m := by
        rintro rfl
        exact spared (.inr (.inl rfl))
      show ((h.setMailbox m _).mailbox n).content .lookahead = _
      rw [mailbox_setMailbox, if_neg other]
      rfl
    | written => exact apply_setMailbox (h := h) Mailbox.written rfl
    | credits => exact congrArg UInt8.toNat (h.credits_deliver m n payload)
    | available => exact congrArg UInt8.toNat (apply_setMailbox (h := h) Mailbox.available rfl)
  | _ => rfl

section

variable {payload : List UInt8} (fits : payload.length ≤ maxPayload)
include fits

/-- The frame stands at the end of the window. -/
theorem byte_deliver_of_le (h : HostInterface) (m : MailboxNumber) {i : Fin 2048}
    (behind : 2048 ≤ i.val + (payload.length + 2)) :
    (h.deliver m payload).byte m i = (frame payload).getD (i.val + (payload.length + 2) - 2048) 0 := by
  have whole : payload.take maxPayload = payload := List.take_of_length_le fits
  have length := length_frame payload
  have start : i.val - (2048 - (payload.length + 2)) = i.val + (payload.length + 2) - 2048 := by
    unfold maxPayload frameHeaderLength at fits
    omega
  show ((h.setMailbox m _).mailbox m).window.get i = _
  rw [mailbox_setMailbox, if_pos rfl, whole, ← start, ← length]
  refine Window.get_placeAtEnd_of_le _ ?_ (by omega)
  unfold maxPayload frameHeaderLength at fits
  omega

theorem lookahead_deliver (h : HostInterface) (m : MailboxNumber) :
    ((h.deliver m payload).mailbox m).lookahead = UInt32.ofNat payload.length := by
  show ((h.setMailbox m _).mailbox m).lookahead = _
  rw [mailbox_setMailbox, if_pos rfl, List.take_of_length_le fits]

end

theorem waits_deliver (h : HostInterface) (m : MailboxNumber) (payload : List UInt8) :
    (h.deliver m payload).Waits m := by
  have set (x : UInt8) : bitSet (x ||| m.bit 0) m = true := by
    rw [bitSet_or, bitSet_bit_zero, decide_eq_true rfl, Bool.or_true]
  exact ⟨set h.lookaheadValid, set h.status⟩

/-- **A frame waits** until its lookahead is read. -/
theorem Waits.reads (waits : h.Waits m) {reads : List UInt32}
    (spared : ∀ address ∈ reads, ¬ LookaheadAt m address.toNat) :
    (h.run (reads.map .read)).Waits m := by
  have four := m.isLt
  let j : Fin 8 := ⟨m.val, by omega⟩
  have kept (cell : HostCell) (at_lookahead : ∀ a, cell.ReadAt a → LookaheadAt m a) :
      (h.run (reads.map .read)).content cell = h.content cell :=
    content_reads fun address mem read => spared address mem (at_lookahead _ read)
  have set {x y : UInt8} (same : (bitSet x m).toNat = (bitSet y m).toNat) (set : bitSet y m = true) :
      bitSet x m = true := by
    rw [← Bool.toNat_eq_one, same, set]
    rfl
  refine ⟨set (kept (.lookaheadValid j) fun a read => read.2) waits.valid,
    set (kept (.status j) fun a read => ?_) waits.status⟩
  rcases read with ⟨-, within⟩ | ⟨counters, -⟩
  · exact within
  · have number : m.val = 4 := counters
    omega

/-- The host hears of the frame with the first byte that it reads of the lookahead. -/
theorem taken_read (h : HostInterface) {address : UInt32} (lookahead : LookaheadAt m address.toNat) :
    bitSet (h.read address).2.lookaheadValid m = false ∧
      bitSet (h.read address).2.status m = false ∧
      ChangesOnly (IsWaitingBit m) h (h.read address).2 := by
  obtain ⟨low, high⟩ := lookahead
  let i : Fin 4 := ⟨address.toNat - (0x408 + 4 * m.val), by omega⟩
  have stands : address.toNat = (HostRegister.lookahead m i).address := by
    show address.toNat = 0x408 + 4 * m.val + (address.toNat - (0x408 + 4 * m.val))
    omega
  have cleared (x : UInt8) : bitSet (x &&& ~~~m.bit 0) m = false := by
    rw [bitSet_andNot, bitSet_bit_zero, decide_eq_true rfl, Bool.not_true, Bool.and_false]
  rw [read_at stands]
  exact ⟨cleared h.lookaheadValid, cleared h.status, h.changesOnly_lookahead m i⟩

/-- **A delivery** leaves a frame for the host to read. -/
theorem delivered (h : HostInterface) (m : MailboxNumber) {payload : List UInt8}
    (fits : payload.length ≤ maxPayload) : Delivered h (h.deliver m payload) m payload where
  lookahead := by
    refine ⟨fun i => Word.byte ((h.deliver m payload).mailbox m).lookahead.toBitVec i,
      fun i => answers_lookahead _ m i, ?_⟩
    have short : payload.length < 256 ^ 4 := by
      unfold maxPayload frameHeaderLength at fits
      omega
    rw [lookahead_deliver fits]
    refine (Word.ofLittleEndian_littleEndian 4 (UInt32.ofNat payload.length).toBitVec).trans ?_
    rw [UInt32.toNat_toBitVec, UInt32.toNat_ofNat']
    exact (Nat.mod_mod _ _).trans (Nat.mod_eq_of_lt short)
  window i b stands := by
    have four := m.isLt
    have inside : i < payload.length + 2 :=
      length_frame payload ▸ (List.getElem?_eq_some_iff.mp stands).1
    unfold maxPayload frameHeaderLength at fits
    let place : Fin 2048 := ⟨2048 - (payload.length + 2) + i, by omega⟩
    have address : 0x800 + 2048 * (m.val + 1) - (payload.length + 2) + i =
        (HostRegister.mailbox m place).address := by
      show _ = 0x800 + 2048 * m.val + (2048 - (payload.length + 2) + i)
      omega
    have offset : place.val + (payload.length + 2) - 2048 = i := by
      show 2048 - (payload.length + 2) + i + (payload.length + 2) - 2048 = i
      omega
    have byte : (h.deliver m payload).byte m place = b := by
      rw [byte_deliver_of_le fits h m (by show 2048 ≤ 2048 - (payload.length + 2) + i + _; omega),
        offset, List.getD_eq_getElem?_getD]
      exact congrArg (·.getD 0) stands
    rw [address, ← byte]
    exact answers_byte _ m place
  confined := changesOnly_deliver h m payload
  waits reads spared := (h.waits_deliver m payload).reads spared
  taken reads address lookahead := taken_read _ lookahead

/-! ## Events -/

/-- A host reads a frame: the lookahead tells it how far from the end of the window to start. -/
def fetch (h : HostInterface) (m : MailboxNumber) : List UInt8 :=
  let told := h.readRun 1 4 (UInt32.ofNat (0x408 + 4 * m.val))
  let length := Word.ofLittleEndian told.1 + 2
  (told.2.readRun 1 length (UInt32.ofNat (0x800 + 2048 * (m.val + 1) - length))).1

/-- The number and the payload of the event in a frame. -/
def eventOf (frame : List UInt8) : Nat × List UInt8 :=
  (Word.ofLittleEndian ((frame.drop 2).take 2), frame.drop 4)

/-- A host that is answered the length of the frame, and the frame, fetches it. -/
theorem fetch_of_answers {frame : List UInt8} {length : Nat} (size : frame.length = length + 2)
    (fits : length + 2 ≤ 2048) {told : Fin 4 → UInt8}
    (lookahead : ∀ i, h.Answers (0x408 + 4 * m.val + i.val) (told i))
    (tells : Word.ofLittleEndian (List.ofFn told) = length)
    (window : ∀ (i : Nat) (b : UInt8), frame[i]? = some b →
      h.Answers (0x800 + 2048 * (m.val + 1) - (length + 2) + i) b) :
    h.fetch m = frame := by
  have four := m.isLt
  have small {a : Nat} (below : a < 0x2800) : (UInt32.ofNat a).toNat = a :=
    UInt32.toNat_ofNat_of_lt' (Nat.lt_trans below (by decide))
  have first : 0x408 + 4 * m.val < 0x2800 := by omega
  have seen : (h.readRun 1 4 (UInt32.ofNat (0x408 + 4 * m.val))).1 = List.ofFn told := by
    have run : (h.readRun 1 (List.ofFn told).length (UInt32.ofNat (0x408 + 4 * m.val))).1 =
        List.ofFn told := by
      refine readRun_of_answers (by rw [small first, List.length_ofFn]; omega) fun i b here => ?_
      obtain ⟨inside, rfl⟩ := List.getElem?_eq_some_iff.mp here
      rw [small first, List.getElem_ofFn]
      exact lookahead ⟨i, List.length_ofFn (f := told) ▸ inside⟩
    rwa [List.length_ofFn] at run
  have second : 0x800 + 2048 * (m.val + 1) - (length + 2) < 0x2800 := by omega
  unfold fetch
  dsimp only
  rw [seen, tells, ← size]
  refine readRun_of_answers (by rw [size, small second]; omega) fun i b here => ?_
  rw [size, small second]
  exact (window i b here).readRun 1 4 _

/-- **The frame that a host fetches** is the one that was delivered. -/
theorem Delivered.fetch {before after : HostInterface} {payload : List UInt8}
    (delivered : Delivered before after m payload) (fits : payload.length ≤ maxPayload)
    (reads : List UInt32) :
    (after.run (reads.map .read)).fetch m =
      Word.littleEndian 2 (BitVec.ofNat 16 payload.length) ++ payload := by
  obtain ⟨told, lookahead, tells⟩ := delivered.lookahead
  exact fetch_of_answers (length_frame payload) (Nat.add_le_add_right fits 2)
    (fun i => (lookahead i).reads reads) tells fun i b here => (delivered.window i b here).reads reads

/-- The number and the payload stand where they are looked for. -/
theorem eventOf_frame {n : Nat} (length : BitVec n) (id : UInt16) (payload : List UInt8) :
    eventOf (Word.littleEndian 2 length ++ (Word.littleEndian 2 id.toBitVec ++ payload)) =
      (id.toNat, payload) := by
  have number : Word.ofLittleEndian (Word.littleEndian 2 id.toBitVec) = id.toNat :=
    (Word.ofLittleEndian_littleEndian 2 id.toBitVec).trans (Nat.mod_eq_of_lt id.toNat_lt)
  have two {n : Nat} (x : BitVec n) : (Word.littleEndian 2 x).length = 2 := Word.length_littleEndian 2 x
  unfold eventOf
  rw [List.drop_left' (two length), List.take_left' (two id.toBitVec), number,
    ← List.append_assoc, List.drop_left' (by rw [List.length_append, two, two])]

/-- **Events survive their framing**, in every state and every mailbox. Of any payload the first 2046 bytes
are delivered. An event is its number and the first 128 bytes of its payload: the lookahead tells their
length, the window ends with that length and these bytes, nothing else in the windows changes, and the
frame waits until the host reads a byte of the lookahead, which takes back the two bits that tell of it and
no others. Whatever the host has read before, it fetches that frame, and finds the event in it. -/
theorem events_framed (h : HostInterface) (m : MailboxNumber) :
    (∀ payload, Delivered h (h.deliver m payload) m (payload.take 2046)) ∧
    ∀ (id : UInt16) (payload : List UInt8),
      let kept := payload.take 128
      let body := Word.littleEndian 2 id.toBitVec ++ kept
      let after := h.deliver m (FirmwareEvent.message id payload)
      body.length = kept.length + 2 ∧ Delivered h after m body ∧
      ∀ reads : List UInt32,
        let now := after.run (reads.map .read)
        now.fetch m = Word.littleEndian 2 (BitVec.ofNat 16 (kept.length + 2)) ++ body ∧
          eventOf (now.fetch m) = (id.toNat, kept) := by
  refine ⟨fun payload => ?_, fun id payload => ?_⟩
  · rw [← deliver_take]
    exact delivered h m (List.length_take_le ..)
  · intro kept body after
    have length : body.length = kept.length + 2 := by
      rw [List.length_append, Word.length_littleEndian, Nat.add_comm]
    have fits : body.length ≤ maxPayload := by
      have short : kept.length ≤ 128 := List.length_take_le ..
      rw [length]
      unfold maxPayload frameHeaderLength
      omega
    have left : Delivered h after m body := delivered h m fits
    refine ⟨length, left, fun reads => ?_⟩
    have fetched := left.fetch fits reads
    rw [← length]
    exact ⟨fetched, fetched ▸ eventOf_frame _ id kept⟩

/-- A host interface that has an event of three bytes for the host. -/
def ready : HostInterface :=
  powerOn.deliver .control (FirmwareEvent.message 0x1001 [7, 8, 9])

/-- The host has looked at its status and at the end of the window. It still finds the frame, and then
reads a byte of the lookahead. -/
theorem events_framed_ready :
    let looked := [0x400, 0xfff].map Operation.read
    eventOf ((ready.run looked).fetch .control) = (0x1001, [7, 8, 9]) ∧
      (ready.run looked).Waits .control ∧
      bitSet ((ready.run looked).read 0x40b).2.lookaheadValid MailboxNumber.control = false := by
  obtain ⟨-, left, fetches⟩ := (events_framed powerOn .control).2 0x1001 [7, 8, 9]
  have spared : ∀ address ∈ [0x400, 0xfff], ¬ LookaheadAt .control (UInt32.toNat address) := by
    simp [LookaheadAt, MailboxNumber.control]
  have lookahead : LookaheadAt .control (UInt32.toNat 0x40b) := by
    unfold LookaheadAt
    decide
  exact ⟨(fetches [0x400, 0xfff]).2, left.waits _ spared, (left.taken [0x400, 0xfff] _ lookahead).1⟩

end WlanCard.HostInterface
