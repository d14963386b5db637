import WlanCard.Proofs.HostInterface.Aggregation
import WlanCard.Proofs.HostInterface.Windows

/-!
# What a register access can change

The state of the host interface is cut into cells: the bits of the status registers one by one, the other
registers and the bytes of the windows whole (`ext_content`). Each cell has the addresses at which a write
or a read can change it (`HostCell.WrittenAt`, `HostCell.ReadAt`), and an access changes no other
(`changesOnly_write`, `changesOnly_read`).

Cells of different mailboxes have different addresses, so an access to one mailbox leaves the bytes,
counts and credits of the others alone.
-/

namespace WlanCard

/-- A part of a mailbox that changes by itself. -/
inductive MailboxCell where
  | byte (i : Fin 2048)
  | written
  | credits
  | available
  | lookahead
deriving DecidableEq, Repr

/-- What stands in a part of a mailbox. -/
def Mailbox.content (b : Mailbox) : MailboxCell → Nat
  | .byte i => (b.window.get i).toNat
  | .written => b.written
  | .credits => b.credits.toNat
  | .available => b.available.toNat
  | .lookahead => b.lookahead.toNat

/-- A part of the host interface that changes by itself. -/
inductive HostCell where
  /-- A bit of the host status. -/
  | status (i : Fin 8)
  | enable
  /-- A bit of the status of a source. -/
  | happened (s : StatusSource) (i : Fin 8)
  /-- What the host wants to hear of a source. -/
  | wanted (s : StatusSource)
  | mailboxFrame
  /-- Whether the host has yet to read the lookahead, by the number of the mailbox. -/
  | lookaheadValid (i : Fin 8)
  | mailbox (m : MailboxNumber) (c : MailboxCell)
  | scratch (i : Fin 8)
  | wlanInterrupt
deriving DecidableEq, Repr

namespace HostCell

/-- **A write** can change a cell at these addresses. The bit of the host status that shows a source is
derived again whenever the host acknowledges or enables something of that source. -/
def WrittenAt (a : Nat) : HostCell → Prop
  | .status i =>
    a = 0x400 ∨ i.val = 6 ∧ (a = 0x401 ∨ a = 0x419) ∨ i.val = 7 ∧ (a = 0x402 ∨ a = 0x41a) ∨
      i.val = 4 ∧ (a = 0x403 ∨ a = 0x41b)
  | .enable => a = 0x418
  | .happened .cpu _ => a = 0x401
  | .happened .error _ => a = 0x402
  | .happened .counter _ => a = 0x403
  | .wanted .cpu => a = 0x419
  | .wanted .error => a = 0x41a
  | .wanted .counter => a = 0x41b
  | .mailboxFrame => a = 0x404
  | .lookaheadValid _ => False
  | .mailbox m (.byte i) => a = 0x800 + 2048 * m + i
  | .mailbox m .written => 0x800 + 2048 * m.val ≤ a ∧ a < 0x800 + 2048 * (m.val + 1)
  | .mailbox _ .credits | .mailbox _ .available | .mailbox _ .lookahead => False
  | .scratch i => a = 0x460 + i
  | .wlanInterrupt => a = 0x472

/-- **A read** can change a cell at these addresses: the bytes of the lookahead of a mailbox, and its two
credit registers. -/
def ReadAt (a : Nat) : HostCell → Prop
  | .status i =>
    i.val < 4 ∧ 0x408 + 4 * i.val ≤ a ∧ a < 0x408 + 4 * (i.val + 1) ∨
      i.val = 4 ∧ (a = 0x440 ∨ a = 0x444 ∨ a = 0x448 ∨ a = 0x44c)
  | .lookaheadValid i => i.val < 4 ∧ 0x408 + 4 * i.val ≤ a ∧ a < 0x408 + 4 * (i.val + 1)
  | .happened .counter i => i.val < 4 ∧ a = 0x440 + 4 * i.val
  | .mailbox m .credits => a = 0x450 + 4 * m.val
  | _ => False

end HostCell

namespace HostInterface

variable {h : HostInterface}

/-- What stands in a cell. -/
def content (h : HostInterface) : HostCell → Nat
  | .status i => (bitSet h.status i).toNat
  | .enable => h.enable.toNat
  | .happened s i => (bitSet (h.source s).status i).toNat
  | .wanted s => (h.source s).enable.toNat
  | .mailboxFrame => h.mailboxFrame.toNat
  | .lookaheadValid i => (bitSet h.lookaheadValid i).toNat
  | .mailbox m c => (h.mailbox m).content c
  | .scratch i => (h.scratch.get i).toNat
  | .wlanInterrupt => h.wlanInterrupt.toNat

end HostInterface

/-! ## The cells are all there is -/

/-- A byte is made of its eight bits. -/
theorem eq_of_bits {x y : UInt8} (same : ∀ i : Fin 8, (bitSet x i).toNat = (bitSet y i).toNat) :
    x = y := by
  refine eq_of_bitSet fun i => ?_
  by_cases inside : i < 8
  · rw [Bool.eq_iff_iff, ← Bool.toNat_eq_one, ← Bool.toNat_eq_one, same ⟨i, inside⟩]
  · have outside := Nat.le_of_not_lt inside
    rw [bitSet_of_ge x i outside, bitSet_of_ge y i outside]

theorem InterruptSource.ext_bits {x y : InterruptSource}
    (status : ∀ i : Fin 8, (bitSet x.status i).toNat = (bitSet y.status i).toNat)
    (enable : x.enable.toNat = y.enable.toNat) : x = y := by
  obtain ⟨xs, xe⟩ := x
  obtain ⟨ys, ye⟩ := y
  obtain rfl : xs = ys := eq_of_bits status
  obtain rfl : xe = ye := UInt8.toNat_inj.mp enable
  rfl

theorem Mailbox.ext_content {x y : Mailbox} (same : ∀ c, x.content c = y.content c) : x = y := by
  have window : x.window = y.window :=
    Vector.ext fun i inside => UInt8.toNat_inj.mp (same (.byte ⟨i, inside⟩))
  have written : x.written = y.written := same .written
  have credits : x.credits = y.credits := UInt8.toNat_inj.mp (same .credits)
  have available : x.available = y.available := UInt8.toNat_inj.mp (same .available)
  have lookahead : x.lookahead = y.lookahead := UInt32.toNat_inj.mp (same .lookahead)
  cases x
  cases y
  congr

/-- **The cells are all of the state.** -/
theorem HostInterface.ext_content {x y : HostInterface}
    (same : ∀ cell, x.content cell = y.content cell) : x = y := by
  have source (s : StatusSource) : x.source s = y.source s :=
    InterruptSource.ext_bits (fun i => same (.happened s i)) (same (.wanted s))
  have status : x.status = y.status := eq_of_bits fun i => same (.status i)
  have enable : x.enable = y.enable := UInt8.toNat_inj.mp (same .enable)
  have cpu : x.cpu = y.cpu := source .cpu
  have error : x.error = y.error := source .error
  have counter : x.counter = y.counter := source .counter
  have mailboxFrame : x.mailboxFrame = y.mailboxFrame := UInt8.toNat_inj.mp (same .mailboxFrame)
  have lookaheadValid : x.lookaheadValid = y.lookaheadValid :=
    eq_of_bits fun i => same (.lookaheadValid i)
  have mailboxes : x.mailboxes = y.mailboxes :=
    Vector.ext fun i inside => Mailbox.ext_content fun c => same (.mailbox ⟨i, inside⟩ c)
  have scratch : x.scratch = y.scratch :=
    Vector.ext fun i inside => UInt8.toNat_inj.mp (same (.scratch ⟨i, inside⟩))
  have wlanInterrupt : x.wlanInterrupt = y.wlanInterrupt :=
    UInt8.toNat_inj.mp (same .wlanInterrupt)
  cases x
  cases y
  congr

namespace HostInterface

variable {h before middle after : HostInterface} {p q : HostCell → Prop}

/-- Between two states, only certain cells change. -/
def ChangesOnly (p : HostCell → Prop) (before after : HostInterface) : Prop :=
  ∀ cell, ¬ p cell → after.content cell = before.content cell

theorem ChangesOnly.refl (p : HostCell → Prop) (h : HostInterface) : ChangesOnly p h h :=
  fun _ _ => rfl

theorem ChangesOnly.trans (first : ChangesOnly p before middle) (second : ChangesOnly p middle after) :
    ChangesOnly p before after :=
  fun cell spared => (second cell spared).trans (first cell spared)

theorem ChangesOnly.mono (changes : ChangesOnly p before after) (more : ∀ cell, p cell → q cell) :
    ChangesOnly q before after :=
  fun cell spared => changes cell (mt (more cell) spared)

/-- If no cell may change, nothing does. -/
theorem ChangesOnly.eq (changes : ChangesOnly p before after) (none : ∀ cell, ¬ p cell) :
    after = before :=
  ext_content fun cell => changes cell (none cell)

/-! ## Steps -/

/-- The host interface with one source replaced. -/
def setSource (h : HostInterface) (d : StatusSource) (source : InterruptSource) : HostInterface :=
  match d with
  | .counter => { h with counter := source }
  | .cpu => { h with cpu := source }
  | .error => { h with error := source }

theorem source_setSource (h : HostInterface) (d s : StatusSource) (source : InterruptSource) :
    (h.setSource d source).source s = if s = d then source else h.source s := by
  cases d <;> cases s <;> rfl

/-- A source is replaced, and whatever the new one has in common with it stays. -/
theorem changesOnly_setSource {d : StatusSource} {source : InterruptSource}
    (happened : ∀ i : Fin 8, ¬ p (.happened d i) →
      bitSet source.status i = bitSet (h.source d).status i)
    (wanted : ¬ p (.wanted d) → source.enable = (h.source d).enable) :
    ChangesOnly p h (h.setSource d source) := by
  intro cell spared
  cases cell with
  | happened s i =>
    show (bitSet ((h.setSource d source).source s).status i).toNat = _
    rw [source_setSource]
    split
    next here =>
      subst here
      exact congrArg Bool.toNat (happened i spared)
    · rfl
  | wanted s =>
    show ((h.setSource d source).source s).enable.toNat = _
    rw [source_setSource]
    split
    next here =>
      subst here
      exact congrArg UInt8.toNat (wanted spared)
    · rfl
  | _ => cases d <;> rfl

/-- The bit of a source is derived, and the rest of the host status stays. -/
theorem changesOnly_derive (h : HostInterface) (d : StatusSource) :
    ChangesOnly (fun cell => ∃ i : Fin 8, cell = .status i ∧ i.val = d.number) h (h.derive d) := by
  intro cell spared
  cases cell with
  | status i =>
    have other : i.val ≠ d.number := fun here => spared ⟨i, rfl, here⟩
    have unset : ∀ (d : StatusSource) (i : Fin 8), i.val ≠ d.number → bitSet d.bit i ≠ true := by
      intro d
      cases d <;> decide
    refine congrArg Bool.toNat ?_
    unfold derive
    rw [status_setStatus, if_neg (unset d i other)]
  | _ => rfl

/-- A mailbox is replaced, and whatever the new one has in common with it stays. -/
theorem changesOnly_setMailbox {m : MailboxNumber} {b : Mailbox} {p : MailboxCell → Prop}
    (keeps : ∀ c, ¬ p c → b.content c = (h.mailbox m).content c) :
    ChangesOnly (fun cell => ∃ c, cell = .mailbox m c ∧ p c) h (h.setMailbox m b) := by
  intro cell spared
  cases cell with
  | mailbox n c =>
    show ((h.setMailbox m b).mailbox n).content c = (h.mailbox n).content c
    rw [mailbox_setMailbox]
    split
    next here =>
      subst here
      exact keeps c fun may => spared ⟨c, rfl, may⟩
    · rfl
  | _ => rfl

/-- A byte of a window is written, and the count of its mailbox goes on or starts again. -/
theorem changesOnly_writeMailbox (h : HostInterface) (m : MailboxNumber) (offset : Fin 2048)
    (value : UInt8) :
    ChangesOnly (fun cell => ∃ c, cell = .mailbox m c ∧ (c = .byte offset ∨ c = .written)) h
      (h.writeMailbox m offset value).2 := by
  have keeps (written : Nat) (c : MailboxCell) (spared : ¬ (c = .byte offset ∨ c = .written)) :
      Mailbox.content
          { h.mailbox m with
            window := (h.mailbox m).window.setIfInBounds offset value
            written := written } c =
        (h.mailbox m).content c := by
    cases c with
    | byte i =>
      have other : offset.val ≠ i.val := fun here => spared (.inl (congrArg _ (Fin.ext here.symm)))
      exact congrArg UInt8.toNat (Vector.getElem_setIfInBounds_ne i.isLt other)
    | written => exact absurd (.inr rfl) spared
    | credits | available | lookahead => rfl
  unfold writeMailbox
  dsimp only
  split
  · exact changesOnly_setMailbox (keeps 0)
  · exact changesOnly_setMailbox (keeps _)

/-- The bits that tell that a frame waits in a mailbox. -/
def IsWaitingBit (m : MailboxNumber) (cell : HostCell) : Prop :=
  ∃ j : Fin 8, j.val = m.val ∧ (cell = .status j ∨ cell = .lookaheadValid j)

/-- The host hears of a frame: it has seen its lookahead. -/
theorem changesOnly_lookahead (h : HostInterface) (m : MailboxNumber) (i : Fin 4) :
    ChangesOnly (IsWaitingBit m) h (h.readRegister (.lookahead m i)).2 := by
  have kept (x : UInt8) (j : Fin 8) (other : j.val ≠ m.val) :
      (bitSet (x &&& ~~~m.bit 0) j).toNat = (bitSet x j).toNat := by
    rw [bitSet_andNot, bitSet_bit_zero, decide_eq_false other, Bool.not_false, Bool.and_true]
  intro cell spared
  cases cell with
  | status j => exact kept h.status j fun here => spared ⟨j, here, .inl rfl⟩
  | lookaheadValid j => exact kept h.lookaheadValid j fun here => spared ⟨j, here, .inr rfl⟩
  | _ => rfl

/-! ## Accesses -/

theorem ChangesOnly.derive (changes : ChangesOnly p before after) {d : StatusSource}
    (shown : ∀ i : Fin 8, i.val = d.number → p (.status i)) :
    ChangesOnly p before (after.derive d) := by
  refine changes.trans ((after.changesOnly_derive d).mono ?_)
  rintro _ ⟨i, rfl, here⟩
  exact shown i here

/-- The host acknowledges what has happened in a source. -/
theorem changesOnly_acknowledge (d : StatusSource) (bits : UInt8)
    (happened : ∀ i : Fin 8, bitSet bits i = true → p (.happened d i))
    (shown : ∀ i : Fin 8, i.val = d.number → p (.status i)) :
    ChangesOnly p h ((h.setSource d ((h.source d).acknowledge bits)).derive d) := by
  have acknowledged : ChangesOnly p h (h.setSource d ((h.source d).acknowledge bits)) := by
    refine changesOnly_setSource (fun i spared => ?_) fun _ => rfl
    have unset : bitSet bits i = false := Bool.eq_false_iff.mpr (mt (happened i) spared)
    show bitSet ((h.source d).status &&& ~~~bits) i = _
    rw [bitSet_andNot, unset, Bool.not_false, Bool.and_true]
  exact acknowledged.derive shown

/-- The host wants to hear of other things in a source. -/
theorem changesOnly_enable (d : StatusSource) (bits : UInt8) (wanted : p (.wanted d))
    (shown : ∀ i : Fin 8, i.val = d.number → p (.status i)) :
    ChangesOnly p h ((h.setSource d { h.source d with enable := bits }).derive d) := by
  have enabled : ChangesOnly p h (h.setSource d { h.source d with enable := bits }) :=
    changesOnly_setSource (fun _ _ => rfl) fun spared => absurd wanted spared
  exact enabled.derive shown

/-- **A write** changes only what stands at its address, and the bit of the host status or the count that
belongs to it. -/
theorem changesOnly_write (h : HostInterface) (address : UInt32) (value : UInt8) :
    ChangesOnly (HostCell.WrittenAt address.toNat) h (h.write address value).2 := by
  rcases h.write_cases address value with ⟨r, stands, same⟩ | same
  · rw [same, stands]
    cases r with
    | hostStatus =>
      intro cell spared
      cases cell with
      | status i => exact absurd (.inl rfl) spared
      | _ => rfl
    | cpuStatus =>
      exact changesOnly_acknowledge .cpu value (fun _ _ => rfl)
        fun i here => .inr (.inl ⟨here, .inl rfl⟩)
    | errorStatus =>
      exact changesOnly_acknowledge .error value (fun _ _ => rfl)
        fun i here => .inr (.inr (.inl ⟨here, .inl rfl⟩))
    | counterStatus =>
      exact changesOnly_acknowledge .counter value (fun _ _ => rfl)
        fun i here => .inr (.inr (.inr ⟨here, .inl rfl⟩))
    | cpuEnable =>
      exact changesOnly_enable .cpu value rfl
        fun i here => .inr (.inl ⟨here, .inr rfl⟩)
    | errorEnable =>
      exact changesOnly_enable .error value rfl
        fun i here => .inr (.inr (.inl ⟨here, .inr rfl⟩))
    | counterEnable =>
      exact changesOnly_enable .counter value rfl
        fun i here => .inr (.inr (.inr ⟨here, .inr rfl⟩))
    | mailboxFrame | hostEnable | wlanInterrupt =>
      intro cell spared
      cases cell <;> first | rfl | exact absurd rfl spared
    | scratch i =>
      intro cell spared
      cases cell with
      | scratch j =>
        have other : i.val ≠ j.val := fun here => spared (congrArg _ here)
        exact congrArg UInt8.toNat (Vector.getElem_set_ne i.isLt j.isLt other)
      | _ => rfl
    | mailbox m offset =>
      have inside := offset.isLt
      refine (changesOnly_writeMailbox h m offset value).mono ?_
      rintro _ ⟨_, rfl, rfl | rfl⟩
      · rfl
      · show 0x800 + 2048 * m.val ≤ 0x800 + 2048 * m.val + offset.val ∧
          0x800 + 2048 * m.val + offset.val < 0x800 + 2048 * (m.val + 1)
        omega
    | _ => exact .refl _ h
  · rw [same]
    exact .refl _ h

/-- **A read** changes only what tells that a frame waits, the bits and the credits of the mailbox that it
concerns, and the bit of the host status that shows the counters. -/
theorem changesOnly_read (h : HostInterface) (address : UInt32) :
    ChangesOnly (HostCell.ReadAt address.toNat) h (h.read address).2 := by
  rcases h.read_cases address with ⟨r, stands, same⟩ | ⟨-, same⟩
  · rw [same, stands]
    cases r with
    | lookahead m i =>
      have four := m.isLt
      have inside := i.isLt
      have mine (j : Fin 8) (here : j.val = m.val) :
          j.val < 4 ∧ 0x408 + 4 * j.val ≤ 0x408 + 4 * m.val + i.val ∧
            0x408 + 4 * m.val + i.val < 0x408 + 4 * (j.val + 1) := by omega
      refine (changesOnly_lookahead h m i).mono ?_
      rintro _ ⟨j, here, rfl | rfl⟩
      · exact .inl (mine j here)
      · exact mine j here
    | creditReset m =>
      have four := m.isLt
      have place : 0x440 + 4 * m.val = 0x440 ∨ 0x440 + 4 * m.val = 0x444 ∨
          0x440 + 4 * m.val = 0x448 ∨ 0x440 + 4 * m.val = 0x44c := by omega
      refine changesOnly_acknowledge .counter (m.bit droppedShift) (fun i set => ?_)
        fun i here => .inr ⟨here, place⟩
      rw [droppedShift, bitSet_bit_zero, decide_eq_true_eq] at set
      rw [← set] at four
      exact ⟨four, congrArg (0x440 + 4 * ·) set.symm⟩
    | creditTake m =>
      refine (changesOnly_setMailbox (p := (· = .credits)) fun c other => ?_).mono ?_
      · cases c with
        | credits => exact absurd rfl other
        | _ => rfl
      · rintro _ ⟨_, rfl, rfl⟩
        rfl
    | _ => exact .refl _ h
  · rw [same]
    exact .refl _ h

/-! ## Elsewhere -/

/-- Only the firmware interrupt and the windows lead to anything for the target to act on. -/
theorem write_silent (h : HostInterface) {address : UInt32} (value : UInt8)
    (quiet : address.toNat ≠ 0x472) (outside : ¬ (0x800 ≤ address.toNat ∧ address.toNat ≤ 0x27ff)) :
    (h.write address value).1 = none := by
  cases event : (h.write address value).1 with
  | none => rfl
  | some event' =>
    cases event' with
    | messageComplete m length =>
      have four := m.isLt
      have last : address.toNat = 0x800 + 2048 * m.val + 2047 :=
        (write_completes_iff h address value).mp ⟨length, event⟩
      exact absurd (by omega) outside
    | wlanInterrupt written =>
      exact absurd ((write_interrupts_iff h address value).mp event).2 quiet

end HostInterface

/-- No cell can be written elsewhere. -/
theorem HostCell.WrittenAt.inside {a : Nat} {cell : HostCell} (written : cell.WrittenAt a) :
    0x400 ≤ a ∧ a ≤ 0x404 ∨ 0x418 ≤ a ∧ a ≤ 0x41b ∨ 0x460 ≤ a ∧ a ≤ 0x467 ∨ a = 0x472 ∨
      0x800 ≤ a ∧ a ≤ 0x27ff := by
  cases cell with
  | mailbox m c =>
    cases c with
    | byte | written => simp only [WrittenAt] at written; omega
    | credits | available | lookahead => cases written
  | happened s | wanted s => cases s <;> (simp only [WrittenAt] at written; omega)
  | lookaheadValid => cases written
  | _ => simp only [WrittenAt] at written; omega

/-- No cell can be changed by reads elsewhere. -/
theorem HostCell.ReadAt.inside {a : Nat} {cell : HostCell} (read : cell.ReadAt a) :
    0x408 ≤ a ∧ a ≤ 0x417 ∨ (a = 0x440 ∨ a = 0x444 ∨ a = 0x448 ∨ a = 0x44c) ∨
      (a = 0x450 ∨ a = 0x454 ∨ a = 0x458 ∨ a = 0x45c) := by
  cases cell with
  | mailbox m c =>
    cases c with
    | credits => simp only [ReadAt] at read; omega
    | _ => cases read
  | happened s =>
    cases s with
    | counter => simp only [ReadAt] at read; omega
    | cpu | error => cases read
  | status | lookaheadValid => simp only [ReadAt] at read; omega
  | _ => cases read

namespace HostInterface

variable {h : HostInterface}

/-- The addresses of the registers that have something to answer. -/
def Mapped (a : Nat) : Prop :=
  0x400 ≤ a ∧ a ≤ 0x405 ∨ 0x408 ≤ a ∧ a ≤ 0x41b ∨ 0x424 ≤ a ∧ a ≤ 0x427 ∨
    0x440 ≤ a ∧ a ≤ 0x45c ∧ a % 4 = 0 ∨ 0x460 ≤ a ∧ a ≤ 0x467 ∨ a = 0x472 ∨ 0x600 ≤ a ∧ a ≤ 0x27ff

/-- Nothing answers elsewhere. -/
theorem read_unmapped (h : HostInterface) {address : UInt32} (unmapped : ¬ Mapped address.toNat) :
    h.read address = (0, h) := by
  unfold Mapped at unmapped
  rcases h.read_cases address with ⟨r, stands, same⟩ | ⟨-, same⟩
  · rw [same]
    cases r with
    | fifoTimeout | fifoTimeoutEnable | disableSleep | localBusEndian | localBus | windowData
    | writeAddress | readAddress | serialConfig | serialStatus => rfl
    | _ =>
      simp only [HostRegister.address, HostRegister.counterBase, HostRegister.counterStride] at stands
      omega
  · exact same

/-- **Accesses are confined.** A write changes only what stands at its address: one register, or one byte of
a window, and with it at most one bit of the host status (the bit of the source that the register belongs
to) or the byte count of the mailbox. At addresses where nothing can be written it leaves everything alone
and leads to nothing. A read changes something only at the lookahead bytes (whether a frame waits in that
mailbox, as a bit of its own and in the host status) and at the credit registers (the bit of the mailbox
that tells of dropped credits, with the bit of the host status that shows the counters; the credits
themselves). Where there is nothing to read, the answer is zero. -/
theorem accesses_confined (h : HostInterface) (address : UInt32) :
    let a := address.toNat
    (∀ value, ChangesOnly (HostCell.WrittenAt a) h (h.write address value).2) ∧
    (∀ value, ¬ (0x400 ≤ a ∧ a ≤ 0x404 ∨ 0x418 ≤ a ∧ a ≤ 0x41b ∨ 0x460 ≤ a ∧ a ≤ 0x467 ∨ a = 0x472 ∨
      0x800 ≤ a ∧ a ≤ 0x27ff) → h.write address value = (none, h)) ∧
    ChangesOnly (HostCell.ReadAt a) h (h.read address).2 ∧
    (¬ (0x408 ≤ a ∧ a ≤ 0x417 ∨ (a = 0x440 ∨ a = 0x444 ∨ a = 0x448 ∨ a = 0x44c) ∨
      (a = 0x450 ∨ a = 0x454 ∨ a = 0x458 ∨ a = 0x45c)) → (h.read address).2 = h) ∧
    (¬ Mapped a → h.read address = (0, h)) := by
  intro a
  refine ⟨h.changesOnly_write address, fun value outside => ?_, h.changesOnly_read address,
    fun outside => ?_, h.read_unmapped⟩
  · have kept : (h.write address value).2 = h :=
      (h.changesOnly_write address value).eq fun _ written => outside written.inside
    have silent : (h.write address value).1 = none :=
      h.write_silent value (by omega) (by omega)
    exact Prod.ext silent kept
  · exact (h.changesOnly_read address).eq fun _ read => outside read.inside

/-- The firmware has reported something that the host enables now: that shows in one bit of the host status
and leaves another alone. A write behind the enables and a read next to the credits lead to nothing. -/
theorem accesses_confined_raised :
    let h := powerOn.raiseCpu 1
    ((h.write 0x419 1).2.content (.status ⟨6, by decide⟩) ≠ h.content (.status ⟨6, by decide⟩) ∧
      (h.write 0x419 1).2.content (.status ⟨4, by decide⟩) = h.content (.status ⟨4, by decide⟩)) ∧
    h.write 0x41c 1 = (none, h) ∧ (h.read 0x441).2 = h ∧ h.read 0x441 = (0, h) := by
  intro h
  obtain ⟨written, -, -, -, -⟩ := accesses_confined h 0x419
  obtain ⟨-, kept, -, -, -⟩ := accesses_confined h 0x41c
  obtain ⟨-, -, -, pure, zero⟩ := accesses_confined h 0x441
  refine ⟨⟨by decide +kernel, written 1 (.status ⟨4, by decide⟩) ?_⟩, kept 1 ?_, pure ?_, zero ?_⟩
  · simp only [HostCell.WrittenAt]
    decide
  · decide
  · decide
  · unfold Mapped
    decide

end HostInterface

end WlanCard
