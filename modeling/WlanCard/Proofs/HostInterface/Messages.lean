import Mathlib.Algebra.GroupWithZero.Nat
import Mathlib.Data.List.Induction
import WlanCard.Proofs.HostInterface.Aggregation
import WlanCard.Proofs.HostInterface.Credits

/-!
# Messages of the mailboxes

To a mailbox an operation is one of three things (`Operation.mark?`): a reset, a byte at some position of
its window, or nothing at all. What the mailbox counts and what it completes follows from these marks alone
(`written_run`, `completions_eq`), whatever else happens to the host interface and to the other mailboxes.

The rest is about lists of marks: how many bytes have come since the last message was complete
(`Mark.trailing`), that no byte gets lost between two resets (`Mark.sum_lengths_add`), and that a payload
which ends with the window is one message (`lengths_message`).
-/

namespace WlanCard.HostInterface

/-! ## What an operation is to a mailbox -/

/-- What a mailbox sees of an operation: a reset, or a byte at a position of its window. -/
inductive Mark where
  | reset
  | byte (offset : Fin 2048)
deriving DecidableEq, Repr

/-- The last position of a window. -/
def lastOffset : Fin 2048 := ⟨2047, by decide⟩

/-- The address at which the window of a mailbox starts. -/
def windowStart (m : MailboxNumber) : Nat :=
  0x800 + 2048 * m

/-- The position in the window of a mailbox at which an address lies. -/
def windowOffset? (m : MailboxNumber) (address : Nat) : Option (Fin 2048) :=
  if inside : windowStart m ≤ address ∧ address < windowStart m + 2048 then
    some ⟨address - windowStart m, by omega⟩
  else none

theorem windowOffset?_eq_some_iff {m : MailboxNumber} {address : Nat} {offset : Fin 2048} :
    windowOffset? m address = some offset ↔ address = (HostRegister.mailbox m offset).address := by
  have bound := offset.isLt
  have place : (HostRegister.mailbox m offset).address = windowStart m + offset := rfl
  rw [place]
  unfold windowOffset?
  split
  next inside =>
    rw [Option.some.injEq, Fin.ext_iff]
    dsimp only
    omega
  next outside =>
    refine ⟨nofun, fun here => ?_⟩
    omega

/-- What a mailbox sees of an operation, if anything. -/
def Operation.mark? (m : MailboxNumber) : Operation → Option Mark
  | .reset => some .reset
  | .write address _ => (windowOffset? m address.toNat).map .byte
  | _ => none

/-- What a mailbox sees of some operations, in order. -/
def marks (m : MailboxNumber) (ops : List Operation) : List Mark :=
  ops.filterMap (·.mark? m)

namespace Mark

/-- Whether a mark is a byte. -/
def isByte : Mark → Bool
  | .reset => false
  | .byte _ => true

/-- The byte that ends the window. -/
def last : Mark := .byte lastOffset

/-- The bytes that a mailbox counts after a mark, if it has counted `count` before. -/
def pending (count : Nat) : Mark → Nat
  | .reset => 0
  | .byte offset => if offset = lastOffset then 0 else count + 1

/-- The length of the message that a mark completes, if it does, after `count` bytes. -/
def length? (count : Nat) : Mark → Option Nat
  | .reset => none
  | .byte offset => if offset = lastOffset then some (count + 1) else none

/-- The lengths of the messages that marks complete, in order, after `count` bytes. -/
def lengths : (count : Nat) → List Mark → List Nat
  | _, [] => []
  | count, mark :: marks => (mark.length? count).toList ++ lengths (mark.pending count) marks

/-- A byte that leaves a message incomplete. -/
def isInner : Mark → Bool
  | .reset => false
  | .byte offset => offset ≠ lastOffset

/-- How many bytes the marks end with since the last message was complete, or since a reset. -/
def trailing (marks : List Mark) : Nat :=
  (marks.reverse.takeWhile isInner).length

theorem trailing_concat (marks : List Mark) (mark : Mark) :
    trailing (marks ++ [mark]) = mark.pending (trailing marks) := by
  unfold trailing
  rw [List.reverse_concat, List.takeWhile_cons]
  cases mark with
  | reset => rfl
  | byte offset =>
    unfold isInner pending
    by_cases ends : offset = lastOffset
    · simp only [ends, ne_eq, not_true_eq_false, decide_false, Bool.false_eq_true, ↓reduceIte,
        List.length_nil]
    · simp only [ends, ne_eq, not_false_eq_true, decide_true, ↓reduceIte, List.length_cons]

/-- A mailbox that starts with nothing counts just these. -/
theorem foldl_pending (marks : List Mark) : marks.foldl pending 0 = trailing marks := by
  induction marks using List.reverseRecOn with
  | nil => rfl
  | append_singleton marks mark ih =>
    rw [List.foldl_append, ih, trailing_concat]
    rfl

/-- **No byte gets lost**: without a reset, the messages completed and the bytes still counted add up to
the bytes that have come. -/
theorem sum_lengths_add {marks : List Mark} (noReset : .reset ∉ marks) (count : Nat) :
    (lengths count marks).sum + marks.foldl pending count = count + marks.length := by
  induction marks generalizing count with
  | nil => exact Nat.zero_add count
  | cons mark marks ih =>
    obtain ⟨first, noReset⟩ := not_or.mp (mt List.mem_cons.mpr noReset)
    have rest := ih noReset (mark.pending count)
    rw [lengths, List.sum_append, List.foldl_cons, Nat.add_assoc, rest, List.length_cons]
    cases mark with
    | reset => exact absurd rfl first
    | byte offset =>
      by_cases ends : offset = lastOffset
      · rw [length?, pending, if_pos ends, if_pos ends, Option.toList_some, List.sum_singleton]
        omega
      · rw [length?, pending, if_neg ends, if_neg ends, Option.toList_none, List.sum_nil]
        omega

end Mark

/-- Whether an operation writes a byte into the window of a mailbox. -/
def Operation.writesWindow (m : MailboxNumber) (op : Operation) : Bool :=
  (op.mark? m).any Mark.isByte

/-! ## What a mailbox counts -/

/-- What an operation reports to the target. -/
def event? (h : HostInterface) : Operation → Option HostEvent
  | .write address value => (h.write address value).1
  | _ => none

/-- The length of a message that is complete in a mailbox, if an event says so. -/
def completed? (m : MailboxNumber) : Option HostEvent → Option Nat
  | some (.messageComplete n length) => if n = m then some length else none
  | _ => none

/-- The lengths of the messages that operations complete in a mailbox, in order. -/
def completions (m : MailboxNumber) : (h : HostInterface) → List Operation → List Nat
  | _, [] => []
  | h, op :: ops => (completed? m (h.event? op)).toList ++ completions m (h.perform op) ops

variable (h : HostInterface) (m : MailboxNumber)

/-- The bytes written into the window of a mailbox since its last message was complete. -/
def written : Nat :=
  (h.mailbox m).written

theorem written_setMailbox {n : MailboxNumber} {b : Mailbox} (same : b.written = h.written n) :
    (h.setMailbox n b).written m = h.written m :=
  apply_setMailbox Mailbox.written same

theorem written_reset : h.reset.written m = 0 := by
  unfold written mailbox reset
  simp [Mailbox.reset]

theorem written_powerOn : powerOn.written m = 0 := by
  unfold written mailbox powerOn
  simp [Mailbox.empty]

/-- A byte of the window counts, and the last one completes a message. -/
theorem write_inside {address : UInt32} {offset : Fin 2048} (value : UInt8)
    (stands : address.toNat = (HostRegister.mailbox m offset).address) :
    completed? m (h.write address value).1 = (Mark.byte offset).length? (h.written m) ∧
      (h.write address value).2.written m = (Mark.byte offset).pending (h.written m) := by
  rw [write_at stands]
  unfold writeRegister writeMailbox Mark.length? Mark.pending
  dsimp only
  have position : offset.val = 2047 ↔ offset = lastOffset :=
    ⟨fun equal => Fin.ext equal, fun equal => congrArg Fin.val equal⟩
  by_cases ends : offset = lastOffset
  · rw [if_pos (position.mpr ends), if_pos ends, if_pos ends]
    refine ⟨if_pos rfl, ?_⟩
    unfold written
    rw [mailbox_setMailbox, if_pos rfl]
  · rw [if_neg (mt position.mp ends), if_neg ends, if_neg ends]
    refine ⟨rfl, ?_⟩
    unfold written
    rw [mailbox_setMailbox, if_pos rfl]

/-- A write elsewhere neither completes a message of the mailbox nor counts. -/
theorem write_outside {address : UInt32} (value : UInt8)
    (apart : ∀ offset, address.toNat ≠ (HostRegister.mailbox m offset).address) :
    completed? m (h.write address value).1 = none ∧
      (h.write address value).2.written m = h.written m := by
  rcases h.write_cases address value with ⟨r, stands, same⟩ | same
  · rw [same]
    cases r with
    | mailbox n offset =>
      have other : ¬ m = n := by
        rintro rfl
        exact apart offset stands
      unfold writeRegister writeMailbox
      dsimp only
      split
      · refine ⟨if_neg fun equal => other equal.symm, ?_⟩
        unfold written
        rw [mailbox_setMailbox, if_neg other]
      · refine ⟨rfl, ?_⟩
        unfold written
        rw [mailbox_setMailbox, if_neg other]
    | _ => exact ⟨rfl, rfl⟩
  · rw [same]
    exact ⟨rfl, rfl⟩

/-- **An operation is to a mailbox what its mark says**, in what it completes and in what it leaves. -/
theorem perform_mark (op : Operation) :
    completed? m (h.event? op) = (op.mark? m).bind (·.length? (h.written m)) ∧
      (h.perform op).written m = ((op.mark? m).map (·.pending (h.written m))).getD (h.written m) := by
  cases op with
  | reset => exact ⟨rfl, h.written_reset m⟩
  | write address value =>
    show completed? m (h.write address value).1 =
        ((windowOffset? m address.toNat).map Mark.byte).bind _ ∧
      (h.write address value).2.written m =
        (((windowOffset? m address.toNat).map Mark.byte).map _).getD _
    cases found : windowOffset? m address.toNat with
    | some offset => exact h.write_inside m value (windowOffset?_eq_some_iff.mp found)
    | none =>
      refine h.write_outside m value fun offset here => ?_
      rw [windowOffset?_eq_some_iff.mpr here] at found
      cases found
  | dropCredits n | grantCredits n => exact ⟨rfl, h.written_setMailbox m rfl⟩
  | deliver n payload => exact ⟨rfl, written_setMailbox (h := h) m rfl⟩
  | setWindow n w | setAvailable n count => exact ⟨rfl, h.written_setMailbox m rfl⟩
  | read address =>
    refine ⟨rfl, ?_⟩
    rcases h.read_cases address with ⟨r, -, same⟩ | ⟨-, same⟩
    · show (h.read address).2.written m = h.written m
      rw [same]
      cases r with
      | creditTake n => exact h.written_setMailbox m rfl
      | _ => rfl
    · show (h.read address).2.written m = h.written m
      rw [same]
  | raiseCpu bits | raiseError bits | updateCounter => exact ⟨rfl, rfl⟩

/-! ## Runs -/

theorem run_append (before after : List Operation) :
    h.run (before ++ after) = (h.run before).run after :=
  List.foldl_append

/-- **What a run leaves counted** follows from the marks. -/
theorem written_run (ops : List Operation) :
    (h.run ops).written m = (marks m ops).foldl Mark.pending (h.written m) := by
  induction ops generalizing h with
  | nil => rfl
  | cons op ops ih =>
    have rest := ih (h.perform op)
    rw [(h.perform_mark m op).2] at rest
    refine rest.trans ?_
    unfold marks
    rw [List.filterMap_cons]
    cases found : op.mark? m with
    | none => rfl
    | some mark => rfl

/-- **What a run completes** follows from the marks. -/
theorem completions_eq (ops : List Operation) :
    completions m h ops = Mark.lengths (h.written m) (marks m ops) := by
  induction ops generalizing h with
  | nil => rfl
  | cons op ops ih =>
    have rest := ih (h.perform op)
    obtain ⟨completed, left⟩ := h.perform_mark m op
    rw [left] at rest
    unfold completions
    rw [rest, completed]
    unfold marks
    rw [List.filterMap_cons]
    cases found : op.mark? m with
    | none => rfl
    | some mark => rfl

/-- What a run from power-on has counted are the bytes since the last message or reset. -/
theorem written_run_powerOn (ops : List Operation) :
    (powerOn.run ops).written m = Mark.trailing (marks m ops) := by
  rw [written_run, written_powerOn, Mark.foldl_pending]

/-! ## Payloads -/

/-- The operations that write a payload into a window, up to the last byte of the window. -/
def message (m : MailboxNumber) : (payload : List UInt8) → List Operation
  | [] => []
  | value :: rest =>
    .write (UInt32.ofNat (windowStart m + 2047 - rest.length)) value :: message m rest

/-- A payload that fits is written at the end of the window. -/
theorem marks_message_cons {value : UInt8} {rest : List UInt8} (fits : rest.length < 2048) :
    marks m (message m (value :: rest)) =
      .byte ⟨2047 - rest.length, by omega⟩ :: marks m (message m rest) := by
  have four := m.isLt
  have place : (UInt32.ofNat (windowStart m + 2047 - rest.length)).toNat =
      (HostRegister.mailbox m ⟨2047 - rest.length, by omega⟩).address := by
    have small : windowStart m + 2047 - rest.length < UInt32.size := by
      simp only [windowStart, UInt32.size]
      omega
    rw [UInt32.toNat_ofNat_of_lt' small]
    show _ = windowStart m + (2047 - rest.length)
    omega
  exact List.filterMap_cons_some (congrArg (Option.map Mark.byte) (windowOffset?_eq_some_iff.mpr place))

/-- **A payload that ends with the window** is one message, together with what was counted before. -/
theorem lengths_message {payload : List UInt8} (some : 1 ≤ payload.length)
    (fits : payload.length ≤ 2048) (count : Nat) :
    Mark.lengths count (marks m (message m payload)) = [count + payload.length] := by
  induction payload generalizing count with
  | nil => exact absurd some (by decide)
  | cons value rest ih =>
    rw [marks_message_cons m fits, Mark.lengths, Mark.length?, Mark.pending, List.length_cons]
    cases rest with
    | nil => rfl
    | cons next rest =>
      have inner : (⟨2047 - (next :: rest).length, by omega⟩ : Fin 2048) ≠ lastOffset := by
        intro ends
        have position : 2047 - (rest.length + 1) = 2047 := congrArg Fin.val ends
        omega
      have more := ih (Nat.succ_pos _) (Nat.le_of_succ_le fits) (count + 1)
      rw [if_neg inner, if_neg inner, more, Nat.add_right_comm, Nat.add_assoc]
      rfl

/-! ## Counted without loss -/

/-- Only a byte at the end of the window completes a message. -/
theorem completed?_eq_some_iff (op : Operation) (length : Nat) :
    completed? m (h.event? op) = some length ↔
      op.mark? m = some Mark.last ∧ length = h.written m + 1 := by
  rw [(h.perform_mark m op).1]
  cases op.mark? m with
  | none => exact iff_of_false nofun (by rintro ⟨⟨⟩, -⟩)
  | some mark =>
    rw [Option.bind_some, Option.some.injEq]
    cases mark with
    | reset => exact iff_of_false nofun (by rintro ⟨⟨⟩, -⟩)
    | byte offset =>
      rw [Mark.last, Mark.byte.injEq, Mark.length?]
      by_cases ends : offset = lastOffset
      · rw [if_pos ends, Option.some.injEq]
        exact ⟨fun same => ⟨ends, same.symm⟩, fun same => same.2.symm⟩
      · rw [if_neg ends]
        exact iff_of_false nofun fun same => ends same.1

/-- Only a reset is one to a mailbox. -/
theorem eq_reset_of_mark {op : Operation} (mark : op.mark? m = some .reset) : op = .reset := by
  cases op with
  | reset => rfl
  | write address value =>
    obtain ⟨offset, -, same⟩ := Option.map_eq_some_iff.mp mark
    cases same
  | _ => cases mark

theorem reset_notMem_marks {ops : List Operation} (noReset : .reset ∉ ops) :
    .reset ∉ marks m ops := by
  intro mem
  obtain ⟨op, among, mark⟩ := List.mem_filterMap.mp mem
  exact noReset (eq_reset_of_mark m mark ▸ among)

/-- Without a reset, all that a mailbox sees are bytes. -/
theorem length_marks {ops : List Operation} (noReset : .reset ∉ ops) :
    (marks m ops).length = ops.countP (·.writesWindow m) := by
  induction ops with
  | nil => rfl
  | cons op ops ih =>
    obtain ⟨first, noReset⟩ := not_or.mp (mt List.mem_cons.mpr noReset)
    have rest := ih noReset
    unfold marks at rest ⊢
    rw [List.filterMap_cons, List.countP_cons, ← rest]
    unfold Operation.writesWindow
    cases mark : op.mark? m with
    | none => rfl
    | some seen =>
      cases seen with
      | reset => exact absurd (eq_reset_of_mark m mark).symm first
      | byte offset => rfl

theorem mark?_eq_last_iff (op : Operation) :
    op.mark? m = some Mark.last ↔
      ∃ address value, op = .write address value ∧ address.toNat = 0x800 + 2048 * m.val + 2047 := by
  cases op with
  | write address value =>
    show (windowOffset? m address.toNat).map Mark.byte = some (.byte lastOffset) ↔ _
    rw [Option.map_eq_some_iff]
    simp only [Mark.byte.injEq, exists_eq_right, windowOffset?_eq_some_iff]
    exact ⟨fun here => ⟨address, value, rfl, here⟩, by rintro ⟨_, _, ⟨⟩, here⟩; exact here⟩
  | _ => exact iff_of_false nofun (by rintro ⟨_, _, ⟨⟩, -⟩)

/-- A message of a mailbox is what completes it. -/
theorem completed?_eq_iff (event : Option HostEvent) (length : Nat) :
    completed? m event = some length ↔ event = some (.messageComplete m length) := by
  unfold completed?
  split
  next n len =>
    rw [Option.some.injEq, HostEvent.messageComplete.injEq]
    by_cases here : n = m
    · rw [if_pos here, Option.some.injEq]
      exact ⟨fun same => ⟨here, same⟩, fun same => same.2⟩
    · rw [if_neg here]
      exact iff_of_false nofun fun same => here same.1
  next other =>
    refine iff_of_false nofun fun same => ?_
    subst same
    exact other m length rfl

/-- **Messages are counted without loss, and mailboxes keep apart**, whatever is done to the host
interface after power-on. For each mailbox:

* a message is reported complete exactly by a write to the last byte of its window, with the number of
  bytes that have been written into the window since the last such report, or since a reset;
* from power-on or from a reset on, up to the next one, the reported lengths and the bytes still counted
  add up to the writes into the window;
* the messages of a run follow from the resets and from the positions of its window that were written to;
* a payload of 1 to 2048 bytes that is written up to the last byte of the window while nothing is counted,
  amid any other operations that do not reset the host interface or write into the window, is one message
  of its length. -/
theorem messages_counted (m : MailboxNumber) :
    (∀ ops op length, (powerOn.run ops).event? op = some (.messageComplete m length) ↔
      (∃ address value, op = .write address value ∧
        address.toNat = 0x800 + 2048 * m.val + 2047) ∧
      length = Mark.trailing (marks m ops) + 1) ∧
    (∀ before stretch, before = [] ∨ (∃ earlier, before = earlier ++ [.reset]) → .reset ∉ stretch →
      (completions m (powerOn.run before) stretch).sum +
          ((powerOn.run (before ++ stretch)).mailbox m).written =
        stretch.countP (·.writesWindow m)) ∧
    (∀ ops others, marks m ops = marks m others →
      completions m powerOn ops = completions m powerOn others) ∧
    (∀ before stretch payload, Mark.trailing (marks m before) = 0 →
      1 ≤ payload.length → payload.length ≤ 2048 → marks m stretch = marks m (message m payload) →
      completions m (powerOn.run before) stretch = [payload.length]) := by
  refine ⟨fun ops op length => ?_, fun before stretch beginning noReset => ?_,
    fun ops others same => ?_, fun before stretch payload idle some fits same => ?_⟩
  · rw [← completed?_eq_iff, completed?_eq_some_iff, mark?_eq_last_iff, written_run_powerOn]
  · have counted : (powerOn.run before).written m = 0 := by
      rcases beginning with rfl | ⟨earlier, rfl⟩
      · exact written_powerOn m
      · rw [run_append]
        exact written_reset _ m
    have total := Mark.sum_lengths_add (reset_notMem_marks m noReset) ((powerOn.run before).written m)
    rw [← completions_eq, ← written_run, ← run_append, length_marks m noReset, counted,
      Nat.zero_add] at total
    exact total
  · rw [completions_eq, completions_eq, same]
  · rw [completions_eq, written_run_powerOn, idle, same, lengths_message m some fits, Nat.zero_add]

/-- A message of two bytes for low priority, with a byte for best effort, a frame and a read in between. -/
def interleaved : List Operation :=
  [.write 0x1ffe 0x11, .write 0x17ff 0x22, .deliver .lowPriority [0x33], .write 0x1fff 0x44, .read 0x1fff]

theorem messages_counted_interleaved :
    completions .lowPriority (powerOn.run [.write 0x1800 0x55, .reset]) interleaved = [2] ∧
      (completions .bestEffort (powerOn.run []) interleaved).sum +
        ((powerOn.run ([] ++ interleaved)).mailbox .bestEffort).written = 1 := by
  obtain ⟨-, -, -, whole⟩ := messages_counted .lowPriority
  obtain ⟨-, total, -, -⟩ := messages_counted .bestEffort
  refine ⟨whole _ _ [0x11, 0x44] ?_ ?_ ?_ ?_, ?_⟩
  · decide
  · decide
  · decide
  · decide
  · rw [total [] interleaved (.inl rfl) (by decide)]
    decide

end WlanCard.HostInterface
