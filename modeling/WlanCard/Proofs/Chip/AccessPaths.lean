import WlanCard.Proofs.Chip.Transfer

/-!
# The ways to the target agree

The host can reach the bytes of function 1 by direct commands, by a transfer that counts bytes, and by
one that counts blocks. All of them bring the target to the same state, give the same bytes, and leave
the card in the command phase with the same registers and the same interrupt line
(`access_paths_agree`); only the selected function, which direct commands leave alone, may differ.
-/

namespace WlanCard.Chip

/-- The transfer of `n` bytes that counts bytes; no count at all stands for 512 of them. -/
def byteRequest (direction : Direction) (how : Addressing) (address : UInt32) (n : Nat) :
    ExtendedRequest :=
  { function := 1, direction, addressing := how, address, blockMode := false, count := n % 512 }

/-- The transfer of `count` blocks. -/
def blockRequest (direction : Direction) (how : Addressing) (address : UInt32) (count : Nat) :
    ExtendedRequest :=
  { function := 1, direction, addressing := how, address, blockMode := true, count }

variable {chip : Chip}

theorem requests_byteRequest (wired : chip.Wired) (direction : Direction) (how : Addressing)
    (address : UInt32) {n : Nat} (some : 0 < n) (few : n ≤ 512) :
    chip.Requests (byteRequest direction how address n) direction how address n where
  function := rfl
  direction := rfl
  addressing := rfl
  address := rfl
  counts := Nat.mod_lt n (by decide)
  opens := ⟨wired.present, Nat.le_refl 1, (by decide : 1 ≤ 2048)⟩
  covers := by
    refine ⟨n, ?_, Nat.mul_one n⟩
    unfold ExtendedRequest.blocks byteRequest
    dsimp only
    by_cases full : n = 512
    · rw [full]
      rfl
    · have small : n % 512 = n := Nat.mod_eq_of_lt (by omega)
      rw [small, if_neg (Nat.ne_of_gt some)]

theorem requests_blockRequest (wired : chip.Wired) (direction : Direction) (how : Addressing)
    (address : UInt32) {n count : Nat} (some : 1 ≤ count) (few : count ≤ 511)
    (usable : 1 ≤ chip.card.area.blockLength 1 ∧ chip.card.area.blockLength 1 ≤ 2048)
    (whole : chip.card.area.blockLength 1 * count = n) :
    chip.Requests (blockRequest direction how address count) direction how address n where
  function := rfl
  direction := rfl
  addressing := rfl
  address := rfl
  counts := Nat.lt_succ_of_le few
  opens := ⟨wired.present, usable⟩
  covers := by
    refine ⟨count, ?_, (Nat.mul_comm ..).trans whole⟩
    unfold ExtendedRequest.blocks blockRequest
    exact if_neg (Nat.ne_of_gt some)

/-- **The ways to the target agree.** From any reachable chip in the command phase, `n` bytes from an
address of function 1 on are written and read alike by direct commands, by a transfer of `n` bytes if
there are no more than 512, and by a transfer of `count` blocks if these are `n` bytes in all. -/
theorem access_paths_agree (reached : chip.Reachable) (idle : chip.card.phase = .command)
    (how : Addressing) {address : UInt32} {n : Nat} (some : 0 < n)
    (last : address.toNat + how.stride.toNat * (n - 1) ≤ 0x1ffff) :
    (n ≤ 512 →
      (∀ bytes : List UInt8, bytes.length = n →
        (chip.writeDirect how address bytes).Agree
          (chip.writeTransfer (byteRequest .write how address n) bytes)) ∧
      (chip.readDirect how address n).1 =
        (chip.readTransfer (byteRequest .read how address n) n).1 ∧
      (chip.readDirect how address n).2.Agree
        (chip.readTransfer (byteRequest .read how address n) n).2) ∧
    (∀ count, 1 ≤ count → count ≤ 511 → 1 ≤ chip.card.area.blockLength 1 →
      chip.card.area.blockLength 1 ≤ 2048 → chip.card.area.blockLength 1 * count = n →
      (∀ bytes : List UInt8, bytes.length = n →
        (chip.writeDirect how address bytes).Agree
          (chip.writeTransfer (blockRequest .write how address count) bytes)) ∧
      (chip.readDirect how address n).1 =
        (chip.readTransfer (blockRequest .read how address count) n).1 ∧
      (chip.readDirect how address n).2.Agree
        (chip.readTransfer (blockRequest .read how address count) n).2) := by
  have wired := reached.wired
  have within := inSpace_of_last last
  have fits : address < addressSpace := by
    have first := within 0 some
    rwa [Nat.zero_mul, Nat.add_zero] at first
  have written : ∀ q, chip.Requests q .write how address n → ∀ bytes : List UInt8,
      bytes.length = n → (chip.writeDirect how address bytes).Agree (chip.writeTransfer q bytes) := by
    rintro q requests bytes rfl
    have direct := accessed_writeDirect wired idle (List.ne_nil_of_length_pos some) within
    exact .of_accessed direct (accessed_writeTransfer wired idle requests fits)
  have read : ∀ q, chip.Requests q .read how address n →
      (chip.readDirect how address n).1 = (chip.readTransfer q n).1 ∧
        (chip.readDirect how address n).2.Agree (chip.readTransfer q n).2 := by
    intro q requests
    obtain ⟨direct, left⟩ := accessed_readDirect wired idle some within
    obtain ⟨transfer, right⟩ := accessed_readTransfer wired idle requests fits
    exact ⟨direct.trans transfer.symm, .of_accessed left right⟩
  refine ⟨fun few => ?_, fun count more few usable maximum whole => ?_⟩
  · exact ⟨written _ (requests_byteRequest wired _ _ _ some few),
      read _ (requests_byteRequest wired _ _ _ some few)⟩
  · have requests := fun direction => requests_blockRequest wired direction how address more few
      ⟨usable, maximum⟩ whole
    exact ⟨written _ (requests .write), read _ (requests .read)⟩

/-- A chip that the host has selected, with blocks of two bytes for function 1. -/
def selected : Chip :=
  [Operation.command 5 0x10fe0000, .command 3 0, .command 7 0x45670000,
    .command 52 0x80022002].foldl (fun chip op => (chip.perform op).2) (assemble {}).reset

theorem reachable_selected : selected.Reachable := by
  have attached : attach {} = .ok (assemble {}).reset := rfl
  exact .perform _ (.perform _ (.perform _ (.perform _ (.attach attached))))

theorem access_paths_agree_two_blocks :
    (selected.writeDirect .incrementing 0x460 [1, 2, 3, 4]).Agree
        (selected.writeTransfer (byteRequest .write .incrementing 0x460 4) [1, 2, 3, 4]) ∧
      (selected.writeDirect .incrementing 0x460 [1, 2, 3, 4]).Agree
        (selected.writeTransfer (blockRequest .write .incrementing 0x460 2) [1, 2, 3, 4]) ∧
      (selected.readDirect .incrementing 0x460 4).1 =
        (selected.readTransfer (blockRequest .read .incrementing 0x460 2) 4).1 := by
  have idle : selected.card.phase = .command := by decide +kernel
  have length : selected.card.area.blockLength 1 = 2 := by decide +kernel
  have last : (0x460 : UInt32).toNat + Addressing.incrementing.stride.toNat * (4 - 1) ≤ 0x1ffff := by
    decide
  obtain ⟨bytes, blocks⟩ := access_paths_agree reachable_selected idle .incrementing (by decide) last
  obtain ⟨written, read, -⟩ := blocks 2 (by decide) (by decide) (by rw [length]; decide)
    (by rw [length]; decide) (by rw [length])
  exact ⟨(bytes (by decide)).1 _ rfl, written _ rfl, read⟩

end WlanCard.Chip
