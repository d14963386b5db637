import WlanCard.HostInterface.Basic
import WlanCard.Proofs.Word

/-!
# Bits of registers

The interrupt registers of the host interface are read and changed bit by bit. `bitSet` asks for one
bit of a byte; with it, setting and clearing bits of the host status concerns those bits alone
(`HostInterface.status_setStatus`), and what is raised or acknowledged is likewise.
-/

namespace WlanCard

/-- Whether bit `i` of a byte is set. -/
def bitSet (x : UInt8) (i : Nat) : Bool :=
  x.toBitVec.getLsbD i

variable (x y : UInt8) (i : Nat)

@[simp] theorem bitSet_zero : bitSet 0 i = false := by
  simp [bitSet]

/-- A byte has eight bits. -/
theorem bitSet_of_ge (outside : 8 ≤ i) : bitSet x i = false :=
  BitVec.getLsbD_of_ge _ i outside

@[simp] theorem bitSet_or : bitSet (x ||| y) i = (bitSet x i || bitSet y i) := by
  simp [bitSet]

theorem bitSet_and : bitSet (x &&& y) i = (bitSet x i && bitSet y i) := by
  simp [bitSet]

/-- What is cleared is not set, and nothing else changes. -/
@[simp] theorem bitSet_andNot : bitSet (x &&& ~~~y) i = (bitSet x i && !bitSet y i) :=
  Word.getLsbD_andNot ..

variable {x y} in
/-- Bytes with the same bits are the same. -/
theorem eq_of_bitSet (same : ∀ i, bitSet x i = bitSet y i) : x = y :=
  UInt8.toBitVec_inj.mp (BitVec.eq_of_getLsbD_eq fun i _ => same i)

variable {x} in
/-- A byte that is not zero has a bit that is set. -/
theorem ne_zero_iff_bitSet : x ≠ 0 ↔ ∃ i, bitSet x i = true := by
  constructor
  · intro nonzero
    refine Classical.not_forall_not.mp fun none => nonzero (eq_of_bitSet fun i => ?_)
    rw [bitSet_zero]
    exact Bool.eq_false_iff.mpr (none i)
  · rintro ⟨i, set⟩ rfl
    rw [bitSet_zero] at set
    cases set

/-- The bit of a mailbox, among four bits. -/
theorem bitSet_bit (m : MailboxNumber) {shift : Nat} (half : shift = 0 ∨ shift = 4) :
    bitSet (m.bit shift) i = decide (i = m.val + shift) := by
  by_cases inside : i < 8
  · have all : ∀ (m : MailboxNumber) (i : Fin 8),
        bitSet (m.bit 0) i = decide (i.val = m.val + 0) ∧
          bitSet (m.bit 4) i = decide (i.val = m.val + 4) := by decide
    rcases half with rfl | rfl
    · exact (all m ⟨i, inside⟩).1
    · exact (all m ⟨i, inside⟩).2
  · have four := m.isLt
    rw [bitSet_of_ge _ i (Nat.le_of_not_lt inside)]
    exact (decide_eq_false (by omega)).symm

theorem bitSet_bit_zero (m : MailboxNumber) : bitSet (m.bit 0) i = decide (i = m.val) :=
  bitSet_bit i m (.inl rfl)

/-- Bits of the host status are set or cleared, and its other bits stay. -/
@[simp] theorem HostInterface.status_setStatus (h : HostInterface) (bits : UInt8) (level : Bool) :
    bitSet (h.setStatus bits level).status i =
      if bitSet bits i then level else bitSet h.status i := by
  unfold setStatus
  cases level <;> cases here : bitSet bits i <;> simp [here]

namespace InterruptSource

/-- A source asks for an interrupt if something has happened that the host wants to hear of. -/
theorem isAsserted_iff {source : InterruptSource} :
    source.isAsserted = true ↔
      ∃ i, bitSet source.status i = true ∧ bitSet source.enable i = true := by
  unfold isAsserted
  rw [bne_iff_ne, ne_zero_iff_bitSet]
  simp only [bitSet_and, Bool.and_eq_true]

/-- A source that the host does not want to hear of asks for nothing. -/
theorem isAsserted_of_unwanted {source : InterruptSource} (unwanted : source.enable = 0) :
    source.isAsserted = false := by
  refine Bool.eq_false_iff.mpr fun asserted => ?_
  obtain ⟨i, -, wanted⟩ := isAsserted_iff.mp asserted
  rw [unwanted, bitSet_zero] at wanted
  cases wanted

@[simp] theorem status_raise (source : InterruptSource) (bits : UInt8) :
    bitSet (source.raise bits).status i = (bitSet source.status i || bitSet bits i) :=
  bitSet_or ..

/-- What has happened does not go away when more happens. -/
theorem isAsserted_raise {source : InterruptSource} (bits : UInt8)
    (asserted : source.isAsserted = true) : (source.raise bits).isAsserted = true := by
  obtain ⟨i, happened, wanted⟩ := isAsserted_iff.mp asserted
  exact isAsserted_iff.mpr ⟨i, by rw [status_raise, happened, Bool.true_or], wanted⟩

/-- A mailbox that is noted already is not news. -/
theorem raise_of_noted {source : InterruptSource} {m : MailboxNumber} {shift : Nat}
    (half : shift = 0 ∨ shift = 4) (noted : source.status &&& m.bit shift ≠ 0) :
    source.raise (m.bit shift) = source := by
  obtain ⟨i, set⟩ := ne_zero_iff_bitSet.mp noted
  rw [bitSet_and, bitSet_bit i m half, Bool.and_eq_true, decide_eq_true_eq] at set
  obtain ⟨set, rfl⟩ := set
  have same : source.status ||| m.bit shift = source.status := by
    refine eq_of_bitSet fun i => ?_
    rw [bitSet_or, bitSet_bit i m half]
    by_cases here : i = m.val + shift
    · rw [here, set, Bool.true_or]
    · rw [decide_eq_false here, Bool.or_false]
  unfold raise
  rw [same]

end InterruptSource

end WlanCard
