import WlanCard.HostInterface.Access
import WlanCard.Proofs.HostInterface.Register

/-!
# What a register access leads to

An access to an address is one to the register that stands there. Only two kinds of write lead to
anything for the target to act on: that of the last byte of a mailbox completes a message
(`write_completes_iff`), and that of the firmware interrupt register is one (`write_interrupts_iff`).
-/

namespace WlanCard.HostInterface

variable {h : HostInterface} {address : UInt32} {value : UInt8} {r : HostRegister}

theorem write_at (stands : address.toNat = r.address) :
    h.write address value = h.writeRegister value r := by
  unfold write
  rw [(HostRegister.ofAddress?_eq_some_iff _ r).mpr stands.symm]

theorem read_at (stands : address.toNat = r.address) : h.read address = h.readRegister r := by
  unfold read
  rw [(HostRegister.ofAddress?_eq_some_iff _ r).mpr stands.symm]

/-- An access has an effect only at an address where a register stands. -/
theorem write_cases (h : HostInterface) (address : UInt32) (value : UInt8) :
    (∃ r : HostRegister, address.toNat = r.address ∧
      h.write address value = h.writeRegister value r) ∨
      h.write address value = (none, h) := by
  unfold write
  cases found : HostRegister.ofAddress? address.toNat with
  | none => exact .inr rfl
  | some r => exact .inl ⟨r, ((HostRegister.ofAddress?_eq_some_iff _ r).mp found).symm, rfl⟩

theorem read_cases (h : HostInterface) (address : UInt32) :
    (∃ r : HostRegister, address.toNat = r.address ∧ h.read address = h.readRegister r) ∨
      (∀ r : HostRegister, address.toNat ≠ r.address) ∧ h.read address = (0, h) := by
  unfold read
  cases found : HostRegister.ofAddress? address.toNat with
  | none =>
    refine .inr ⟨fun r stands => ?_, rfl⟩
    rw [stands, HostRegister.ofAddress?_address] at found
    cases found
  | some r => exact .inl ⟨r, ((HostRegister.ofAddress?_eq_some_iff _ r).mp found).symm, rfl⟩

/-- **A message is complete** when the last byte of its mailbox is written. -/
theorem write_completes_iff (h : HostInterface) (address : UInt32) (value : UInt8)
    {m : MailboxNumber} :
    (∃ length, (h.write address value).1 = some (.messageComplete m length)) ↔
      address.toNat = (HostRegister.mailbox m 2047).address := by
  constructor
  · rintro ⟨length, completes⟩
    rcases write_cases h address value with ⟨r, stands, same⟩ | none
    · rw [same] at completes
      cases r with
      | mailbox n offset =>
        simp only [writeRegister, writeMailbox] at completes
        split at completes
        next last =>
          obtain rfl : n = m := by
            cases completes
            rfl
          obtain rfl : offset = 2047 := Fin.ext last
          exact stands
        · cases completes
      | _ => cases completes
    · rw [none] at completes
      cases completes
  · intro stands
    rw [write_at stands]
    exact ⟨_, rfl⟩

/-- **A firmware interrupt** is a write to its register. -/
theorem write_interrupts_iff (h : HostInterface) (address : UInt32) (value : UInt8)
    {written : UInt8} :
    (h.write address value).1 = some (.wlanInterrupt written) ↔
      written = value ∧ address.toNat = HostRegister.wlanInterrupt.address := by
  constructor
  · intro interrupts
    rcases write_cases h address value with ⟨r, stands, same⟩ | none
    · rw [same] at interrupts
      cases r with
      | wlanInterrupt =>
        cases interrupts
        exact ⟨rfl, stands⟩
      | mailbox n offset =>
        simp only [writeRegister, writeMailbox] at interrupts
        split at interrupts <;> cases interrupts
      | _ => cases interrupts
    · rw [none] at interrupts
      cases interrupts
  · rintro ⟨rfl, stands⟩
    rw [write_at stands]
    rfl

end WlanCard.HostInterface
