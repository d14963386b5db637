import WlanCard.HostInterface.Register

/-!
# Registers and their addresses

Each register of the host interface is found at its own address and nowhere else
(`ofAddress?_eq_some_iff`), so no two registers share one.
-/

namespace WlanCard.HostRegister

/-- A register without neighbours of its kind stands at the address it is found at. -/
theorem address_of_ofSingleAddress? {a : Nat} {r : HostRegister}
    (found : ofSingleAddress? a = some r) : r.address = a := by
  unfold ofSingleAddress? at found
  split at found <;> cases found <;> rfl

theorem address_of_ofAddress? {a : Nat} {r : HostRegister} (found : ofAddress? a = some r) :
    r.address = a := by
  unfold ofAddress? at found
  split at found
  next window =>
    cases found
    show 0x800 + 2048 * ((a - 0x800) / 2048) + (a - 0x800) % 2048 = a
    omega
  split at found
  next lookahead =>
    cases found
    show 0x408 + 4 * ((a - 0x408) / 4) + a % 4 = a
    omega
  split at found
  next available =>
    cases found
    show 0x420 + 4 + (a - 0x424) = a
    omega
  split at found
  next creditReset =>
    cases found
    show 0x440 + 4 * ((a - 0x440) / 4) = a
    omega
  split at found
  next creditTake =>
    cases found
    show 0x450 + 4 * ((a - 0x450) / 4) = a
    omega
  split at found
  next scratch =>
    cases found
    show 0x460 + (a - 0x460) = a
    omega
  split at found
  next tuple =>
    cases found
    show 0x600 + (a - 0x600) = a
    omega
  · exact address_of_ofSingleAddress? found

/-- Every register is found at its address. -/
theorem ofAddress?_address (r : HostRegister) : ofAddress? r.address = some r := by
  cases r with
  | lookahead m i =>
    revert m i
    decide
  | available m | creditReset m | creditTake m | scratch m =>
    revert m
    decide
  | tuple offset =>
    have low := offset.isLt
    show ofAddress? (0x600 + offset) = _
    unfold ofAddress?
    iterate 6 rw [dif_neg (by omega)]
    rw [dif_pos (by omega)]
    simp only [Nat.add_sub_cancel_left]
  | mailbox m offset =>
    have low := offset.isLt
    have four := m.isLt
    show ofAddress? (0x800 + 2048 * m + offset) = _
    unfold ofAddress?
    rw [dif_pos (by omega)]
    have number : (0x800 + 2048 * m.val + offset.val - 0x800) / 2048 = m.val := by omega
    have within : (0x800 + 2048 * m.val + offset.val - 0x800) % 2048 = offset.val := by omega
    simp only [number, within]
  | _ => rfl

/-- **A register is found at its address**, and nowhere else. -/
theorem ofAddress?_eq_some_iff (a : Nat) (r : HostRegister) :
    ofAddress? a = some r ↔ r.address = a := by
  constructor
  · exact address_of_ofAddress?
  · rintro rfl
    exact ofAddress?_address r

/-- No two registers share an address. -/
theorem address_inj {r s : HostRegister} : r.address = s.address ↔ r = s := by
  constructor
  · intro same
    have found := ofAddress?_address r
    rw [same, ofAddress?_address s] at found
    exact (Option.some.inj found).symm
  · exact congrArg address

end WlanCard.HostRegister
