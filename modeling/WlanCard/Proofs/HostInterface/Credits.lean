import WlanCard.Proofs.Bit
import WlanCard.Proofs.HostInterface.Access

/-!
# Credits of the mailboxes

Of all that the host interface does, dropping and granting credits replace the credits of a mailbox
(`setCredits`), and so does reading the register that takes one (`credits_read`). A read that finds none
left takes one all the same: the register wraps. Everything else leaves the credits alone.
-/

namespace WlanCard.HostInterface

variable {h : HostInterface} {m n : MailboxNumber}

/-- How many messages the host may still send to a mailbox. -/
def credits (h : HostInterface) (m : MailboxNumber) : UInt8 :=
  (h.mailbox m).credits

theorem mailbox_setMailbox (h : HostInterface) (m n : MailboxNumber) (b : Mailbox) :
    (h.setMailbox m b).mailbox n = if n = m then b else h.mailbox n := by
  unfold mailbox setMailbox
  by_cases here : n = m
  · subst here
    simp
  · rw [if_neg here]
    exact Vector.getElem_set_ne m.isLt n.isLt (fun same => here (Fin.ext same.symm))

/-- Replacing a mailbox by one that agrees with it in something leaves every mailbox so. -/
theorem apply_setMailbox {α : Type} (p : Mailbox → α) {b : Mailbox} (same : p b = p (h.mailbox m)) :
    p ((h.setMailbox m b).mailbox n) = p (h.mailbox n) := by
  rw [mailbox_setMailbox]
  split
  next here =>
    subst here
    exact same
  · rfl

theorem credits_setMailbox {b : Mailbox} (same : b.credits = h.credits m) :
    (h.setMailbox m b).credits n = h.credits n :=
  apply_setMailbox Mailbox.credits same

/-! ## Operations of the target -/

theorem credits_reset (h : HostInterface) (m : MailboxNumber) :
    h.reset.credits m = Mailbox.fullCredits := by
  unfold credits mailbox reset
  simp [Mailbox.reset]

theorem credits_setCredits (h : HostInterface) (m n : MailboxNumber) (credits : UInt8) (shift : Nat) :
    (h.setCredits m credits shift).2.credits n = if n = m then credits else h.credits n := by
  show ((h.setMailbox m _).mailbox n).credits = _
  rw [mailbox_setMailbox]
  split <;> rfl

theorem credits_setWindow (h : HostInterface) (m n : MailboxNumber) (w : Window) :
    (h.setWindow m w).credits n = h.credits n :=
  credits_setMailbox rfl

theorem credits_setAvailable (h : HostInterface) (m n : MailboxNumber) (count : UInt8) :
    (h.setAvailable m count).credits n = h.credits n :=
  credits_setMailbox rfl

theorem credits_deliver (h : HostInterface) (m n : MailboxNumber) (payload : List UInt8) :
    (h.deliver m payload).credits n = h.credits n :=
  credits_setMailbox (h := h) rfl

/-! ## Register accesses -/

theorem credits_write (h : HostInterface) (address : UInt32) (value : UInt8) (n : MailboxNumber) :
    (h.write address value).2.credits n = h.credits n := by
  rcases h.write_cases address value with ⟨r, -, same⟩ | same
  · rw [same]
    cases r with
    | mailbox m offset =>
      unfold writeRegister writeMailbox
      dsimp only
      split <;> exact credits_setMailbox rfl
    | _ => rfl
  · rw [same]

/-- **Taking credits**: a read of the register for it, and no other, takes one credit of a mailbox. -/
theorem credits_read (h : HostInterface) (address : UInt32) (n : MailboxNumber) :
    (h.read address).2.credits n =
      if address.toNat = (HostRegister.creditTake n).address then h.credits n - 1
      else h.credits n := by
  rcases h.read_cases address with ⟨r, stands, same⟩ | ⟨nowhere, same⟩
  · rw [same]
    simp only [stands, HostRegister.address_inj]
    cases r with
    | creditTake m =>
      show ((h.setMailbox m _).mailbox n).credits = _
      rw [mailbox_setMailbox]
      by_cases taken : n = m
      · subst taken
        simp [credits]
      · have other : HostRegister.creditTake m ≠ .creditTake n := by
          intro alike
          cases alike
          exact taken rfl
        rw [if_neg taken, if_neg other]
        rfl
    | _ => exact (if_neg (by nofun)).symm
  · rw [same, if_neg (nowhere _)]

end WlanCard.HostInterface
