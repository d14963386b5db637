import WlanCard.Proofs.Card.ReadTransfer
import WlanCard.Proofs.Card.WriteTransfer
import WlanCard.Proofs.Chip.Direct

/-!
# Accesses to the target, by transfers

A transfer to or from the target that runs to its end is the target's own run over the same addresses,
whatever the length of its blocks (`accessed_writeTransfer`, `accessed_readTransfer`).

`Writing` and `Reading` are the invariants, after some of the bytes: the target has seen the complete
blocks written so far, or every block that has been begun for reading.
-/

namespace WlanCard

namespace Attached

variable {σ : Type}

theorem prepare_area (number : UInt8) (command : Command) (a : Attached σ) :
    (a.prepare number command).card.area = a.card.area := by
  simp only [prepare, noteCommand]
  split <;> rfl

/-- An extended command touches a card no further than to select its function. -/
theorem command_extended_touched (fs : Functions σ) (argument : UInt32) {a : Attached σ}
    (idle : a.card.phase = .command) :
    a.card.Touched (a.command fs Card.extendedNumber argument).2.card := by
  refine ⟨command_keepsWiring .., ?_⟩
  let q := Command.extendedArgument argument
  let found := a.prepare Card.extendedNumber (.extended q)
  have selected := (Card.touched_openTransfer found.card q).rest
  rw [prepare_area] at selected
  unfold command
  rw [execute_extended fs argument idle]
  exact selected

end Attached

namespace Chip

variable {before chip : Chip} {q : ExtendedRequest} {length : Nat}

/-- The blocks of a request are `n` bytes in all. -/
def Covers (chip : Chip) (q : ExtendedRequest) (n : Nat) : Prop :=
  ∃ count, q.blocks = .finite count ∧ count * chip.card.blockLengthFor q = n

theorem Covers.exhausted_iff {n : Nat} (covers : chip.Covers q n) (k : Nat) :
    q.blocks.Exhausted (chip.card.blockLengthFor q) k ↔ n ≤ k := by
  obtain ⟨count, blocks, rfl⟩ := covers
  rw [blocks]
  exact Iff.rfl

theorem Covers.div_mul {n : Nat} (covers : chip.Covers q n) :
    n % chip.card.blockLengthFor q = 0 ∧
      n / chip.card.blockLengthFor q * chip.card.blockLengthFor q = n := by
  obtain ⟨count, -, rfl⟩ := covers
  refine ⟨Nat.mul_mod_left .., ?_⟩
  exact Nat.div_mul_cancel (Nat.dvd_mul_left ..)

/-- A request is for a transfer of `n` bytes of the target, from an address on. -/
structure Requests (chip : Chip) (q : ExtendedRequest) (direction : Direction) (how : Addressing)
    (address : UInt32) (n : Nat) : Prop where
  function : q.function = 1
  direction : q.direction = direction
  addressing : q.addressing = how
  address : q.address = address
  counts : q.count < 2 ^ 9
  opens : chip.card.Opens q
  covers : chip.Covers q n

/-! ## Opening -/

/-- The chip once an extended command has opened a transfer on the target. -/
structure Opened (before chip : Chip) (q : ExtendedRequest) (length : Nat) : Prop where
  target : chip.target = before.target
  synced : chip.Synced
  touched : before.card.Touched chip.card
  flows : chip.card.Flows (Card.transferFor q length)

theorem opened_command (idle : before.card.phase = .command) (fits : q.address < addressSpace)
    (counts : q.count < 2 ^ 9) (opens : before.card.Opens q) :
    before.Opened (before.command Card.extendedNumber q.argument).2 q
      (before.card.blockLengthFor q) := by
  have asks := Command.extendedArgument_argument fits counts
  let done := (before.attached.command Target.functions Card.extendedNumber q.argument).2
  have flows : done.card.Flows (Card.transferFor q (before.card.blockLengthFor q)) := by
    have opened := Attached.command_extended_opens Target.functions q.argument idle
    rw [asks] at opened
    exact opened opens
  exact {
    target := Attached.command_extended_device Target.functions q.argument idle
    synced := synced_syncIrq ⟨done⟩
    touched := (Attached.command_extended_touched Target.functions q.argument idle).trans
      (Card.touched_setFunctionIrq ..)
    flows := flows.of_keepsFlow (syncIrq_keepsFlow ⟨done⟩) flows.clean }

/-! ## Writing -/

/-- A transfer from the host after the bytes `sent`: the target has the complete blocks. -/
structure Writing (before chip : Chip) (q : ExtendedRequest) (length : Nat) (sent : List UInt8) :
    Prop where
  synced : chip.Synced
  touched : before.card.Touched chip.card
  progress : chip.card.Progress q length sent.length (HoldsTail length sent)
  target : chip.target = before.target.writeRun q.addressing.stride q.address
    (sent.take (sent.length / length * length))

theorem Opened.writing (opened : before.Opened chip q length) (pos : 0 < length) :
    before.Writing chip q length [] where
  synced := opened.synced
  touched := opened.touched
  progress := .inr ⟨q.not_exhausted_zero pos, _, opened.flows, Transfer.standsAt_new .., .nil⟩
  target := opened.target.trans (by rw [List.take_nil]; rfl)

/-- The target after the byte that completes a block is that after all bytes so far. -/
theorem writeRun_complete (stride address : UInt32) (sent : List UInt8) (value : UInt8)
    (t : Target) :
    t.writeRun stride address (sent ++ [value]) =
      (t.writeRun stride address (sent.take (sent.length / length * length))).writeRun stride
        (address + UInt32.ofNat (sent.length / length * length) * stride)
        (sent.drop (sent.length / length * length) ++ [value]) := by
  have short : (sent.take (sent.length / length * length)).length =
      sent.length / length * length :=
    List.length_take_of_le (Nat.div_mul_le_self ..)
  conv => lhs; rw [← List.take_append_drop (sent.length / length * length) sent]
  rw [List.append_assoc, Target.writeRun_append, short]

/-- A byte that completes a block brings the target to where it is after all bytes so far; any other
leaves it where it was. -/
theorem Writing.afterPut {sent : List UInt8} (writing : before.Writing chip q length sent)
    (pos : 0 < length) {t : Transfer} (stands : t.StandsAt q length sent.length)
    (holds : HoldsTail length sent t.staging) (value : UInt8) :
    Attached.afterPut Target.functions (t.put value) chip.target =
      before.target.writeRun q.addressing.stride q.address
        ((sent ++ [value]).take ((sent.length + 1) / length * length)) := by
  have count : (sent ++ [value]).length = sent.length + 1 := List.length_append
  refine (Attached.afterPut_put Target.functions chip.target pos stands holds value).trans ?_
  split
  next full =>
    obtain ⟨block, offset⟩ := Transfer.place_of_full full
    have all := Nat.div_add_mod' (sent.length + 1) length
    rw [offset, Nat.add_zero] at all
    rw [all, List.take_of_length_le (Nat.le_of_eq count), writeRun_complete, ← writing.target]
    rfl
  next more =>
    have place : sent.length % length < length := Nat.mod_lt _ pos
    have room := Nat.lt_of_le_of_ne (Nat.succ_le_of_lt place) more
    rw [(Transfer.place_of_room room).1, List.take_append_of_le_length (Nat.div_mul_le_self ..)]
    exact writing.target

theorem Writing.writeData {sent : List UInt8} (writing : before.Writing chip q length sent)
    (wired : chip.Wired) (aimed : q.function = 1) (direction : q.direction = .write) (pos : 0 < length)
    (left : ¬ q.blocks.Exhausted length sent.length) (value : UInt8) :
    before.Writing (chip.writeData value) q length (sent ++ [value]) := by
  have count : (sent ++ [value]).length = sent.length + 1 := List.length_append
  rcases writing.progress with ⟨spent, -⟩ | ⟨-, t, flows, stands, holds⟩
  · exact absurd spent left
  · have bound : chip.card.handlers.get q.function = .attached := by
      simpa only [aimed] using wired.attached
    have moved := Attached.writeData_flowing Target.functions value (a := chip.attached) flows
      (stands.direction.trans direction) (stands.bound bound)
    let done : Attached Target :=
      { card := chip.card.proceed (t.put value)
        device := Attached.afterPut Target.functions (t.put value) chip.target }
    have there : chip.writeData value = syncIrq ⟨done⟩ := congrArg (fun a => syncIrq ⟨a⟩) moved
    have size : (t.staging.setIfInBounds t.offset value).size = length := by
      rw [Array.size_setIfInBounds, stands.size]
    have progress : done.card.Progress q length (sent.length + 1)
        (HoldsTail length (sent ++ [value])) := by
      have put := holds.append pos stands.size value
      rw [← stands.offset] at put
      exact Card.progress_proceed flows stands pos left size put
    rw [there]
    refine ⟨synced_syncIrq _, ?_, ?_, ?_⟩
    · exact (writing.touched.trans (Card.touched_proceed ..)).trans (Card.touched_setFunctionIrq ..)
    · rw [count]
      exact progress.setFunctionIrq ..
    · rw [count]
      exact writing.afterPut pos stands holds value

/-- The host writes bytes by one transfer. -/
def writeTransfer (chip : Chip) (q : ExtendedRequest) (bytes : List UInt8) : Chip :=
  bytes.foldl Chip.writeData (chip.command Card.extendedNumber q.argument).2

theorem Writing.foldl {sent bytes : List UInt8} (writing : before.Writing chip q length sent)
    (wired : before.Wired) (aimed : q.function = 1) (direction : q.direction = .write)
    (pos : 0 < length)
    (left : ∀ k < sent.length + bytes.length, ¬ q.blocks.Exhausted length k) :
    before.Writing (bytes.foldl Chip.writeData chip) q length (sent ++ bytes) := by
  induction bytes generalizing chip sent with
  | nil => rwa [List.append_nil]
  | cons value rest ih =>
    rw [List.length_cons] at left
    have here := wired.of_keepsWiring writing.touched.toKeepsWiring
    have next := writing.writeData here aimed direction pos (left _ (by omega)) value
    have last := ih next fun k less => left k (by
      rw [List.length_append, List.length_singleton] at less
      omega)
    rwa [List.append_assoc] at last

/-- **A transfer from the host** is the target's own write of its bytes. -/
theorem accessed_writeTransfer (wired : before.Wired) (idle : before.card.phase = .command)
    {how : Addressing} {address : UInt32} {bytes : List UInt8}
    (requests : before.Requests q .write how address bytes.length) (fits : address < addressSpace) :
    before.Accessed (before.writeTransfer q bytes)
      (before.target.writeRun how.stride address bytes) := by
  obtain ⟨aimed, direction, rfl, rfl, counts, opens, covers⟩ := requests
  have pos : 0 < before.card.blockLengthFor q := opens.2.1
  have writing : before.Writing (before.writeTransfer q bytes) q (before.card.blockLengthFor q) bytes :=
    ((opened_command idle fits counts opens).writing pos).foldl wired aimed direction pos fun k less =>
      mt (covers.exhausted_iff k).mp (by rw [List.length_nil] at less; omega)
  have phase := writing.progress.phase
  have target := writing.target
  rw [covers.div_mul.2, List.take_length] at target
  rw [if_pos ((covers.exhausted_iff _).mpr (Nat.le_refl _))] at phase
  exact ⟨target, phase, writing.synced, writing.touched⟩

/-! ## Reading -/

/-- What the target answers to the reads of all blocks begun with the first `k` bytes. -/
def begunRun (chip : Chip) (q : ExtendedRequest) (length k : Nat) : List UInt8 × HostInterface :=
  HostInterface.readRun q.addressing.stride ((k + length - 1) / length * length) q.address
    chip.target.host

/-- A transfer to the host after the bytes `read`: the target has answered the blocks begun. -/
structure Reading (before chip : Chip) (q : ExtendedRequest) (length : Nat) (read : List UInt8) :
    Prop where
  synced : chip.Synced
  touched : before.card.Touched chip.card
  progress : chip.card.Progress q length read.length
    (HasLeft length read.length (before.begunRun q length read.length).1)
  target : chip.target =
    { before.target with host := (before.begunRun q length read.length).2 }
  bytes : (before.begunRun q length read.length).1.take read.length = read

theorem Opened.reading (opened : before.Opened chip q length) (pos : 0 < length) :
    before.Reading chip q length [] := by
  have none : before.begunRun q length 0 = ([], before.target.host) := by
    rw [begunRun, Nat.zero_add, Nat.div_eq_of_lt (Nat.sub_lt pos Nat.one_pos), Nat.zero_mul]
    rfl
  refine ⟨opened.synced, opened.touched, .inr ⟨q.not_exhausted_zero pos, _, opened.flows,
    Transfer.standsAt_new .., ?_⟩, ?_, ?_⟩
  · rw [List.length_nil, none]
    exact (if_pos (Nat.zero_mod length)).symm
  · exact opened.target.trans (by rw [List.length_nil, none])
  · rfl

/-- The first byte of a block has the target answer that block. -/
theorem begunRun_succ {k : Nat} {t : Transfer} (pos : 0 < length) (stands : t.StandsAt q length k)
    {s : Target} (host : s.host = (before.begunRun q length k).2) :
    (before.begunRun q length (k + 1)).1 =
        (before.begunRun q length k).1 ++ Attached.fetchedAnswer Target.functions t s ∧
      (Attached.beforeTake Target.functions t s).2 =
        { s with host := (before.begunRun q length (k + 1)).2 } := by
  obtain ⟨after, here⟩ := begun_succ pos k
  unfold Attached.fetchedAnswer Attached.beforeTake
  by_cases first : t.offset = 0
  · have begins : k % length = 0 := stands.offset.symm.trans first
    rw [if_pos begins] at here
    have run : before.begunRun q length (k + 1) =
        let answer := HostInterface.readRun q.addressing.stride length
          (q.blockAddress length (k / length)) (before.begunRun q length k).2
        ((before.begunRun q length k).1 ++ answer.1, answer.2) := by
      rw [begunRun, begunRun, after, here, Nat.succ_mul, HostInterface.readRun_append]
      rfl
    have answer : Target.functions.read t.function t.start t.blockLength t.addressing s =
        let answer := HostInterface.readRun q.addressing.stride length
          (q.blockAddress length (k / length)) s.host
        (answer.1, { s with host := answer.2 }) := by
      rw [stands.blockLength, stands.start, stands.addressing]
      rfl
    rw [if_pos first, if_pos first, run, answer, ← host]
    exact ⟨rfl, rfl⟩
  · have inside : k % length ≠ 0 := stands.offset ▸ first
    rw [if_neg inside] at here
    have run : before.begunRun q length (k + 1) = before.begunRun q length k := by
      rw [begunRun, begunRun, after, here]
    rw [if_neg first, if_neg first, run, ← host, List.append_nil]
    exact ⟨rfl, rfl⟩

theorem Reading.readData {read : List UInt8} (reading : before.Reading chip q length read)
    (wired : chip.Wired) (aimed : q.function = 1) (direction : q.direction = .read) (pos : 0 < length)
    (left : ¬ q.blocks.Exhausted length read.length) :
    before.Reading chip.readData.2 q length (read ++ [chip.readData.1]) := by
  have count : (read ++ [chip.readData.1]).length = read.length + 1 := List.length_append
  rcases reading.progress with ⟨spent, -⟩ | ⟨-, t, flows, stands, holds⟩
  · exact absurd spent left
  · have bound : chip.card.handlers.get q.function = .attached := by
      simpa only [aimed] using wired.attached
    have moved := Attached.readData_flowing Target.functions (a := chip.attached) flows
      (stands.direction.trans direction) (stands.bound bound)
    let taken := Attached.beforeTake Target.functions t chip.target
    let done : Attached Target :=
      { card := chip.card.proceed { t with offset := t.offset + 1, staging := taken.1 }
        device := taken.2 }
    have there : chip.readData = (taken.1.getD t.offset 0, syncIrq ⟨done⟩) :=
      congrArg (fun answer => (answer.1, syncIrq ⟨answer.2⟩)) moved
    have enough : read.length ≤ (before.begunRun q length read.length).1.length := by
      have short := congrArg List.length reading.bytes
      rw [List.length_take] at short
      omega
    obtain ⟨grown, host⟩ := begunRun_succ pos stands (congrArg Target.host reading.target)
    obtain ⟨byte, after, size⟩ :=
      Attached.hasLeft_read Target.functions chip.target pos stands enough holds
    rw [← grown] at byte after
    rw [there]
    refine ⟨synced_syncIrq _, ?_, ?_, ?_, ?_⟩
    · exact (reading.touched.trans (Card.touched_proceed ..)).trans (Card.touched_setFunctionIrq ..)
    · rw [List.length_append, List.length_singleton]
      exact (Card.progress_proceed flows stands pos left size after).setFunctionIrq ..
    · rw [List.length_append, List.length_singleton]
      exact host.trans (by rw [reading.target])
    · rw [List.length_append, List.length_singleton, byte, reading.bytes]

/-- The host reads bytes of the transfer that is open. -/
def readAll : (length : Nat) → Chip → List UInt8 × Chip
  | 0, chip => ([], chip)
  | length + 1, chip =>
    let first := chip.readData
    let rest := readAll length first.2
    (first.1 :: rest.1, rest.2)

/-- The host reads bytes by one transfer. -/
def readTransfer (chip : Chip) (q : ExtendedRequest) (length : Nat) : List UInt8 × Chip :=
  readAll length (chip.command Card.extendedNumber q.argument).2

theorem length_readAll (n : Nat) (chip : Chip) : (chip.readAll n).1.length = n := by
  induction n generalizing chip with
  | zero => rfl
  | succ n ih => exact congrArg (· + 1) (ih _)

theorem Reading.readAll {read : List UInt8} {n : Nat} (reading : before.Reading chip q length read)
    (wired : before.Wired) (aimed : q.function = 1) (direction : q.direction = .read) (pos : 0 < length)
    (left : ∀ k < read.length + n, ¬ q.blocks.Exhausted length k) :
    before.Reading (chip.readAll n).2 q length (read ++ (chip.readAll n).1) := by
  induction n generalizing chip read with
  | zero => exact (List.append_nil read).symm ▸ reading
  | succ n ih =>
    have here := wired.of_keepsWiring reading.touched.toKeepsWiring
    have next := reading.readData here aimed direction pos (left _ (by omega))
    have last := ih next fun k less => left k (by
      rw [List.length_append, List.length_singleton] at less
      omega)
    rwa [List.append_assoc] at last

/-- **A transfer to the host** is the target's own read of its bytes. -/
theorem accessed_readTransfer (wired : before.Wired) (idle : before.card.phase = .command)
    {how : Addressing} {address : UInt32} {n : Nat}
    (requests : before.Requests q .read how address n) (fits : address < addressSpace) :
    let read := HostInterface.readRun how.stride n address before.target.host
    (before.readTransfer q n).1 = read.1 ∧
      before.Accessed (before.readTransfer q n).2 { before.target with host := read.2 } := by
  obtain ⟨aimed, direction, rfl, rfl, counts, opens, covers⟩ := requests
  have pos : 0 < before.card.blockLengthFor q := opens.2.1
  have reading : before.Reading (before.readTransfer q n).2 q (before.card.blockLengthFor q)
      (before.readTransfer q n).1 :=
    ((opened_command idle fits counts opens).reading pos).readAll wired aimed direction pos
      fun k less => mt (covers.exhausted_iff k).mp (by rw [List.length_nil] at less; omega)
  have count : (before.readTransfer q n).1.length = n := length_readAll ..
  have run : before.begunRun q (before.card.blockLengthFor q) n =
      HostInterface.readRun q.addressing.stride n q.address before.target.host := by
    rw [begunRun, (begun_succ pos n).2, if_pos covers.div_mul.1, covers.div_mul.2]
  obtain ⟨synced, touched, progress, target, bytes⟩ := reading
  rw [count, run] at progress target bytes
  have phase := progress.phase
  rw [if_pos ((covers.exhausted_iff n).mpr (Nat.le_refl n))] at phase
  refine ⟨bytes.symm.trans (List.take_of_length_le ?_), target, phase, synced, touched⟩
  exact Nat.le_of_eq (HostInterface.length_readRun ..)

end Chip

end WlanCard
