import WlanCard.Proofs.Bit
import WlanCard.Proofs.HostInterface.Access

/-!
# The host status and its sources

Three sources of interrupts show up as one bit each in the host status. That bit is kept beside the
source and not derived when it is read, so the two may drift apart. `Settles` is what keeps them in step,
and nearly every operation does: the exceptions are news of credits, which the bit shows only once it is
derived again, and the host clearing the bit itself (`settles_setCredits`, `settles_write`).

Whatever the order of operations, no bit is set without its reason (`explained_run`): a source that asks
for an interrupt, or a frame whose lookahead has not been read.
-/

namespace WlanCard

/-! ## Sources -/

/-- The sources of interrupts that show up as one bit of the host status. -/
inductive StatusSource where
  | counter
  | cpu
  | error
deriving DecidableEq, Repr

namespace StatusSource

/-- The number of the bit of the host status that shows a source. -/
def number : StatusSource → Nat
  | .counter => 4
  | .cpu => 6
  | .error => 7

/-- The bit of the host status that shows a source. -/
def bit : StatusSource → UInt8
  | .counter => HostInterface.counterBit
  | .cpu => HostInterface.cpuBit
  | .error => HostInterface.errorBit

theorem bitSet_bit (d s : StatusSource) : bitSet d.bit s.number = decide (s = d) := by
  cases d <;> cases s <;> decide

/-- No source shows up among the bits of the mailboxes, nor in the bit that is left. -/
theorem bitSet_bit_other (d : StatusSource) {i : Nat} (other : i < 4 ∨ i = 5) :
    bitSet d.bit i = false := by
  have small : i = 0 ∨ i = 1 ∨ i = 2 ∨ i = 3 ∨ i = 5 := by omega
  rcases small with rfl | rfl | rfl | rfl | rfl <;> cases d <;> decide

theorem number_ne (s : StatusSource) (m : MailboxNumber) : s.number ≠ m.val := by
  have four := m.isLt
  cases s <;> simp only [number] <;> omega

end StatusSource

namespace HostInterface

/-- A source of interrupts. -/
def source (h : HostInterface) : StatusSource → InterruptSource
  | .counter => h.counter
  | .cpu => h.cpu
  | .error => h.error

/-- The host status with the bit of one source derived again. -/
def derive (h : HostInterface) (d : StatusSource) : HostInterface :=
  h.setStatus d.bit (h.source d).isAsserted

/-- The host status shows a source as it is. -/
def Shows (h : HostInterface) (s : StatusSource) : Prop :=
  bitSet h.status s.number = (h.source s).isAsserted

theorem Shows.iff {h : HostInterface} {s : StatusSource} (shows : h.Shows s) :
    bitSet h.status s.number = true ↔ (h.source s).status &&& (h.source s).enable ≠ 0 := by
  rw [shows]
  exact bne_iff_ne

/-- An operation leaves a source and its bit of the host status in step: it has derived the bit, or has
changed neither of them. -/
inductive Settles (s : StatusSource) (before after : HostInterface) : Prop where
  | derived (shows : after.Shows s)
  | kept (bit : bitSet after.status s.number = bitSet before.status s.number)
    (source : after.source s = before.source s)

theorem Settles.shows {s : StatusSource} {before after : HostInterface}
    (settles : Settles s before after) (shows : before.Shows s) : after.Shows s := by
  cases settles with
  | derived shows => exact shows
  | kept bit source =>
    unfold Shows at shows ⊢
    rw [bit, source, shows]

theorem shows_derive (h : HostInterface) (d : StatusSource) : (h.derive d).Shows d := by
  unfold Shows derive
  rw [status_setStatus, StatusSource.bitSet_bit, decide_eq_true rfl]
  rfl

/-- The bit of the source that has changed is derived. -/
theorem settles_derive {before h : HostInterface} (d s : StatusSource)
    (status : h.status = before.status) (others : ∀ s ≠ d, h.source s = before.source s) :
    Settles s before (h.derive d) := by
  by_cases same : s = d
  · subst same
    exact .derived (h.shows_derive s)
  · refine .kept ?_ (others s same)
    unfold derive
    rw [status_setStatus, StatusSource.bitSet_bit, decide_eq_false same, status]
    rfl

/-! ## Operations -/

variable (h : HostInterface) (s : StatusSource)

/-- A source that the host does not want to hear of does not show. -/
theorem shows_of_blank (blank : h.status = 0) (unwanted : (h.source s).enable = 0) : h.Shows s := by
  unfold Shows
  rw [blank, InterruptSource.isAsserted_of_unwanted unwanted]
  exact bitSet_zero _

theorem shows_reset : h.reset.Shows s :=
  shows_of_blank h.reset s rfl (by cases s <;> rfl)

theorem settles_raiseCpu (bits : UInt8) : Settles s h (h.raiseCpu bits) :=
  settles_derive .cpu s rfl fun s other => by cases s <;> first | rfl | exact absurd rfl other

theorem settles_raiseError (bits : UInt8) : Settles s h (h.raiseError bits) :=
  settles_derive .error s rfl fun s other => by cases s <;> first | rfl | exact absurd rfl other

theorem settles_updateCounter : Settles s h h.updateCounter :=
  settles_derive .counter s rfl fun _ _ => rfl

theorem settles_deliver (m : MailboxNumber) (payload : List UInt8) :
    Settles s h (h.deliver m payload) := by
  refine .kept ?_ rfl
  show bitSet (h.status ||| m.bit 0) s.number = _
  rw [bitSet_or, bitSet_bit_zero, decide_eq_false (s.number_ne m), Bool.or_false]

/-- Credits that are no news leave the counters as they are; news are not shown before the bit is derived
again. -/
theorem settles_setCredits (m : MailboxNumber) (credits : UInt8) {shift : Nat}
    (half : shift = 0 ∨ shift = 4) (known : s = .counter → (h.setCredits m credits shift).1 = false) :
    Settles s h (h.setCredits m credits shift).2 := by
  cases s with
  | cpu | error => exact .kept rfl rfl
  | counter =>
    have noted : h.counter.status &&& m.bit shift ≠ 0 :=
      bne_iff_ne.mp (by simpa [setCredits] using known rfl)
    exact .kept rfl (InterruptSource.raise_of_noted half noted)

/-- Writing a register other than the host status, or clearing other bits there. -/
theorem settles_write {address : UInt32} {value : UInt8}
    (spared : address.toNat = HostRegister.hostStatus.address → bitSet value s.number = false) :
    Settles s h (h.write address value).2 := by
  rcases h.write_cases address value with ⟨r, stands, same⟩ | same
  · rw [same]
    cases r with
    | hostStatus =>
      refine .kept ?_ rfl
      show bitSet (h.setStatus value false).status s.number = _
      rw [status_setStatus, spared stands]
      rfl
    | cpuStatus | cpuEnable =>
      exact settles_derive .cpu s rfl fun s other => by
        cases s <;> first | rfl | exact absurd rfl other
    | errorStatus | errorEnable =>
      exact settles_derive .error s rfl fun s other => by
        cases s <;> first | rfl | exact absurd rfl other
    | counterStatus | counterEnable =>
      exact settles_derive .counter s rfl fun s other => by
        cases s <;> first | rfl | exact absurd rfl other
    | mailbox m offset =>
      unfold writeRegister writeMailbox
      dsimp only
      split <;> exact .kept rfl rfl
    | _ => exact .kept rfl rfl
  · rw [same]
    exact .kept rfl rfl

theorem settles_read (address : UInt32) : Settles s h (h.read address).2 := by
  rcases h.read_cases address with ⟨r, -, same⟩ | ⟨-, same⟩
  · rw [same]
    cases r with
    | lookahead m i =>
      refine .kept ?_ rfl
      show bitSet (h.status &&& ~~~m.bit 0) s.number = _
      rw [bitSet_andNot, bitSet_bit_zero, decide_eq_false (s.number_ne m)]
      exact Bool.and_true _
    | creditReset m =>
      exact settles_derive .counter s rfl fun s other => by
        cases s <;> first | rfl | exact absurd rfl other
    | _ => exact .kept rfl rfl
  · rw [same]
    exact .kept rfl rfl

/-! ## Runs -/

/-- What can be done to the host interface. -/
inductive Operation where
  | reset
  | raiseCpu (bits : UInt8)
  | raiseError (bits : UInt8)
  | updateCounter
  | dropCredits (m : MailboxNumber)
  | grantCredits (m : MailboxNumber)
  | deliver (m : MailboxNumber) (payload : List UInt8)
  | setWindow (m : MailboxNumber) (w : Window)
  | setAvailable (m : MailboxNumber) (count : UInt8)
  | write (address : UInt32) (value : UInt8)
  | read (address : UInt32)
deriving DecidableEq, Repr

/-- Performs one operation. -/
def perform (h : HostInterface) : Operation → HostInterface
  | .reset => h.reset
  | .raiseCpu bits => h.raiseCpu bits
  | .raiseError bits => h.raiseError bits
  | .updateCounter => h.updateCounter
  | .dropCredits m => (h.dropCredits m).2
  | .grantCredits m => (h.grantCredits m).2
  | .deliver m payload => h.deliver m payload
  | .setWindow m w => h.setWindow m w
  | .setAvailable m count => h.setAvailable m count
  | .write address value => (h.write address value).2
  | .read address => (h.read address).2

/-- Performs operations one after the other. -/
def run (h : HostInterface) (ops : List Operation) : HostInterface :=
  ops.foldl perform h

/-! ## Every bit has its reason -/

/-- No bit of the host status is set without a reason, and one of them never is. -/
structure Explained (h : HostInterface) : Prop where
  source : ∀ s : StatusSource, bitSet h.status s.number = true → (h.source s).isAsserted = true
  frame : ∀ m : MailboxNumber, bitSet h.status m = true → bitSet h.lookaheadValid m = true
  unused : bitSet h.status 5 = false

/-- What an operation without frames keeps: it sets no bit but those of sources. -/
structure KeepsFrames (before after : HostInterface) : Prop where
  fewer : ∀ i, i < 4 ∨ i = 5 → bitSet after.status i = true → bitSet before.status i = true
  valid : after.lookaheadValid = before.lookaheadValid

variable {h s}

theorem KeepsFrames.refl (h : HostInterface) : h.KeepsFrames h := ⟨fun _ _ set => set, rfl⟩

theorem keepsFrames_derive {before h : HostInterface} (d : StatusSource)
    (status : h.status = before.status) (valid : h.lookaheadValid = before.lookaheadValid) :
    before.KeepsFrames (h.derive d) where
  fewer i other set := by
    unfold derive at set
    rwa [status_setStatus, d.bitSet_bit_other other, status] at set
  valid := valid

theorem keepsFrames_write (h : HostInterface) (address : UInt32) (value : UInt8) :
    h.KeepsFrames (h.write address value).2 := by
  rcases h.write_cases address value with ⟨r, -, same⟩ | same
  · rw [same]
    cases r with
    | hostStatus =>
      refine ⟨fun i _ set => ?_, rfl⟩
      have set : bitSet (h.setStatus value false).status i = true := set
      rw [status_setStatus] at set
      split at set
      · cases set
      · exact set
    | cpuStatus | cpuEnable => exact keepsFrames_derive .cpu rfl rfl
    | errorStatus | errorEnable => exact keepsFrames_derive .error rfl rfl
    | counterStatus | counterEnable => exact keepsFrames_derive .counter rfl rfl
    | mailbox m offset =>
      unfold writeRegister writeMailbox
      dsimp only
      split <;> exact ⟨fun _ _ set => set, rfl⟩
    | _ => exact ⟨fun _ _ set => set, rfl⟩
  · rw [same]
    exact .refl h

theorem Explained.of_keeps {after : HostInterface} (explained : h.Explained)
    (frames : h.KeepsFrames after)
    (source : ∀ s : StatusSource, bitSet after.status s.number = true →
      (after.source s).isAsserted = true) : after.Explained where
  source := source
  frame m set := by
    rw [frames.valid]
    exact explained.frame m (frames.fewer m (.inl m.isLt) set)
  unused := by
    refine Bool.eq_false_iff.mpr fun set => ?_
    have unused := explained.unused
    rw [frames.fewer 5 (.inr rfl) set] at unused
    cases unused

/-- A bit that has its source keeps it. -/
theorem Settles.explained {before after : HostInterface} (settles : Settles s before after)
    (source : bitSet before.status s.number = true → (before.source s).isAsserted = true)
    (set : bitSet after.status s.number = true) : (after.source s).isAsserted = true := by
  cases settles with
  | derived shows =>
    rw [← shows]
    exact set
  | kept bit same =>
    rw [same]
    rw [bit] at set
    exact source set

theorem explained_of_blank (blank : h.status = 0) : h.Explained where
  source s set := by
    rw [blank, bitSet_zero] at set
    cases set
  frame m set := by
    rw [blank, bitSet_zero] at set
    cases set
  unused := blank ▸ bitSet_zero 5

theorem Explained.setCredits (explained : h.Explained) (m : MailboxNumber) (credits : UInt8)
    (shift : Nat) : (h.setCredits m credits shift).2.Explained := by
  refine explained.of_keeps ⟨fun _ _ set => set, rfl⟩ fun s set => ?_
  have asserted := explained.source s set
  cases s with
  | counter => exact InterruptSource.isAsserted_raise _ asserted
  | cpu | error => exact asserted

/-- A frame is told of with its lookahead. -/
theorem Explained.deliver (explained : h.Explained) (m : MailboxNumber) (payload : List UInt8) :
    (h.deliver m payload).Explained where
  source s := (h.settles_deliver s m payload).explained (explained.source s)
  frame n set := by
    have set : bitSet (h.status ||| m.bit 0) n = true := set
    show bitSet (h.lookaheadValid ||| m.bit 0) n = true
    rw [bitSet_or, Bool.or_eq_true] at set ⊢
    exact set.imp (explained.frame n) id
  unused := by
    have far : decide (5 = m.val) = false := decide_eq_false (by have := m.isLt; omega)
    show bitSet (h.status ||| m.bit 0) 5 = false
    rw [bitSet_or, explained.unused, bitSet_bit_zero, far]
    rfl

theorem Explained.write (explained : h.Explained) (address : UInt32) (value : UInt8) :
    (h.write address value).2.Explained := by
  refine explained.of_keeps (h.keepsFrames_write address value) fun s => ?_
  by_cases spared : address.toNat = HostRegister.hostStatus.address → bitSet value s.number = false
  · exact (h.settles_write s spared).explained (explained.source s)
  · obtain ⟨stands, hit⟩ := Classical.not_imp.mp spared
    intro set
    rw [write_at stands] at set
    have set : bitSet (h.setStatus value false).status s.number = true := set
    rw [status_setStatus, if_pos (Bool.not_eq_false _ ▸ hit)] at set
    cases set

/-- Reading a lookahead takes back the bit that told of the frame. -/
theorem Explained.read (explained : h.Explained) (address : UInt32) :
    (h.read address).2.Explained := by
  have source := fun s => (h.settles_read s address).explained (explained.source s)
  rcases h.read_cases address with ⟨r, -, same⟩ | ⟨-, same⟩
  · rw [same] at source ⊢
    cases r with
    | lookahead m i =>
      refine ⟨source, fun n set => ?_, ?_⟩
      · have set : bitSet (h.status &&& ~~~m.bit 0) n = true := set
        show bitSet (h.lookaheadValid &&& ~~~m.bit 0) n = true
        rw [bitSet_andNot, Bool.and_eq_true] at set ⊢
        exact ⟨explained.frame n set.1, set.2⟩
      · show bitSet (h.status &&& ~~~m.bit 0) 5 = false
        rw [bitSet_andNot, explained.unused, Bool.false_and]
    | creditReset m => exact explained.of_keeps (keepsFrames_derive .counter rfl rfl) source
    | _ => exact explained.of_keeps ⟨fun _ _ set => set, rfl⟩ source
  · rw [same]
    exact explained

theorem Explained.perform (explained : h.Explained) (op : Operation) : (h.perform op).Explained := by
  cases op with
  | reset => exact explained_of_blank rfl
  | raiseCpu bits =>
    exact explained.of_keeps (keepsFrames_derive .cpu rfl rfl) fun s =>
      (h.settles_raiseCpu s bits).explained (explained.source s)
  | raiseError bits =>
    exact explained.of_keeps (keepsFrames_derive .error rfl rfl) fun s =>
      (h.settles_raiseError s bits).explained (explained.source s)
  | updateCounter =>
    exact explained.of_keeps (keepsFrames_derive .counter rfl rfl) fun s =>
      (h.settles_updateCounter s).explained (explained.source s)
  | dropCredits m | grantCredits m => exact explained.setCredits ..
  | deliver m payload => exact explained.deliver m payload
  | setWindow m w | setAvailable m count =>
    exact explained.of_keeps ⟨fun _ _ set => set, rfl⟩ explained.source
  | write address value => exact explained.write address value
  | read address => exact explained.read address

/-- **No bit without its reason**, whatever is done to the host interface. -/
theorem explained_run (ops : List Operation) : (powerOn.run ops).Explained := by
  have all : ∀ (ops : List Operation) (h : HostInterface), h.Explained → (h.run ops).Explained := by
    intro ops
    induction ops with
    | nil => exact fun h explained => explained
    | cons op ops ih => exact fun h explained => ih (h.perform op) (explained.perform op)
  exact all ops powerOn (explained_of_blank rfl)

end HostInterface

end WlanCard
