import WlanCard.Proofs.Card.Command

/-!
# Operations that write the card's own registers

A block written to the card's own registers is a list of bytes, each with an address of its own
(`CommonArea.placed`), and is written byte by byte (`writeCommon_eq_writePlaced`). The addresses never
go back (`le_of_mem_placed`).

`Card.WritesOwn` tells the operations that do so and the bytes they write. There are two of them: a
direct command, and the data byte that completes a block (`perform_direct_own`, `perform_block_own`).
-/

namespace WlanCard

namespace CommonArea

/-- The bytes of a block, each with the address it goes to, up to the first address behind the
registers. -/
def placed (how : Addressing) : (address : UInt32) → (bytes : List UInt8) → List (UInt32 × UInt8)
  | _, [] => []
  | address, value :: rest =>
    if registersEnd ≤ address.toNat then []
    else (address, value) :: placed how (address + how.stride) rest

/-- Among the registers, the next address is no lower. -/
theorem le_next (how : Addressing) {address : UInt32} (inside : ¬ registersEnd ≤ address.toNat) :
    address.toNat ≤ (address + how.stride).toNat := by
  have stride : how.stride.toNat ≤ 1 := by cases how <;> decide
  have low : address.toNat < 0x800 := Nat.lt_of_not_le inside
  rw [UInt32.toNat_add]
  omega

/-- **The addresses of a block** never go back behind its first. -/
theorem le_of_mem_placed {how : Addressing} {address : UInt32} {bytes : List UInt8}
    {byte : UInt32 × UInt8} (mem : byte ∈ placed how address bytes) :
    address.toNat ≤ byte.1.toNat := by
  induction bytes generalizing address with
  | nil => cases mem
  | cons value rest ih =>
    unfold placed at mem
    split at mem
    · cases mem
    next inside =>
      rcases List.mem_cons.mp mem with rfl | mem
      · exact Nat.le_refl _
      · exact Nat.le_trans (le_next how inside) (ih mem)

theorem placed_ascending (how : Addressing) (address : UInt32) (bytes : List UInt8) :
    (placed how address bytes).Pairwise fun earlier later => earlier.1.toNat ≤ later.1.toNat := by
  induction bytes generalizing address with
  | nil => exact .nil
  | cons value rest ih =>
    unfold placed
    split
    · exact .nil
    next inside =>
      refine .cons (fun byte mem => ?_) (ih _)
      exact Nat.le_trans (le_next how inside) (le_of_mem_placed mem)

end CommonArea

/-- An operation writes these bytes to the card's own registers. -/
inductive Card.WritesOwn (c : Card) : Operation → List (UInt32 × UInt8) → Prop where
  /-- A direct command writes one byte. -/
  | direct {argument : UInt32} {q : DirectRequest} (asks : Command.directArgument argument = q)
      (reached : c.phase = .command ∨ c.phase = .transfer) (writes : q.isWrite)
      (present : q.function ≤ c.functionCount) (own : c.handlers.get q.function = .common) :
    WritesOwn c (.command Card.directNumber argument)
      (CommonArea.placed .incrementing q.address [q.value])
  /-- The byte that completes a block writes the block. -/
  | block {value : UInt8} {t : Transfer} (flowing : c.openDataPath? = some t)
      (writes : t.direction = .write) (full : (t.put value).blockDone)
      (own : c.handlers.get t.function = .common) :
    WritesOwn c (.writeData value)
      (CommonArea.placed t.addressing t.start (t.put value).staging.toList)

/-- What follows a byte goes to no lower address. -/
theorem Card.WritesOwn.le_of_mem {c : Card} {op : Operation} {before rest : List (UInt32 × UInt8)}
    {byte later : UInt32 × UInt8} (writes : c.WritesOwn op (before ++ byte :: rest))
    (mem : later ∈ rest) : byte.1.toNat ≤ later.1.toNat := by
  have ascending : (before ++ byte :: rest).Pairwise fun earlier later =>
      earlier.1.toNat ≤ later.1.toNat := by
    generalize before ++ byte :: rest = bytes at writes
    cases writes with
    | direct | block => exact CommonArea.placed_ascending ..
  exact (List.pairwise_cons.mp (List.pairwise_append.mp ascending).2.1).1 later mem

namespace Attached

variable {σ : Type}

/-- Writes bytes to the card's own registers, each to its own address. -/
def writePlaced (fs : Functions σ) (bytes : List (UInt32 × UInt8)) (a : Attached σ) : Attached σ :=
  bytes.foldl (fun a byte => a.writeCommonByte fs byte.1 byte.2) a

theorem writePlaced_cons (fs : Functions σ) (byte : UInt32 × UInt8) (bytes : List (UInt32 × UInt8))
    (a : Attached σ) :
    a.writePlaced fs (byte :: bytes) = (a.writeCommonByte fs byte.1 byte.2).writePlaced fs bytes := rfl

theorem writePlaced_append (fs : Functions σ) (first second : List (UInt32 × UInt8))
    (a : Attached σ) :
    a.writePlaced fs (first ++ second) = (a.writePlaced fs first).writePlaced fs second :=
  List.foldl_append

/-- A block is written byte by byte. -/
theorem writeCommon_eq_writePlaced (fs : Functions σ) (how : Addressing) (address : UInt32)
    (bytes : List UInt8) (a : Attached σ) :
    a.writeCommon fs how address bytes = a.writePlaced fs (CommonArea.placed how address bytes) := by
  induction bytes generalizing address a with
  | nil => rfl
  | cons value rest ih =>
    unfold writeCommon CommonArea.placed
    split
    · rfl
    · exact ih ..

theorem write_own (fs : Functions σ) {f : FunctionNumber} {a : Attached σ}
    (own : a.card.handlers.get f = .common) (address : UInt32) (bytes : List UInt8)
    (how : Addressing) :
    a.write fs f address bytes how = a.writePlaced fs (CommonArea.placed how address bytes) := by
  unfold write
  rw [own]
  exact writeCommon_eq_writePlaced ..

/-! ## Single bytes -/

theorem writeCommonByte_interruptEnable (fs : Functions σ) {address : UInt32}
    (here : address.toNat = CommonRegister.interruptEnable.offset) (value : UInt8) (a : Attached σ) :
    (a.writeCommonByte fs address value).card =
      { a.card with area.interruptEnable := value }.updateIrq := by
  unfold writeCommonByte
  rw [here]
  rfl

theorem writeCommonByte_reset (fs : Functions σ) {address : UInt32}
    (here : address.toNat = CommonRegister.ioAbort.offset) {value : UInt8}
    (set : value &&& CommonArea.resetBit ≠ 0) (a : Attached σ) :
    a.writeCommonByte fs address value = a.reset fs := by
  have asked : a.card.area.writeCommon CommonRegister.ioAbort.offset value = (.reset, a.card.area) := by
    unfold CommonArea.writeCommon
    rw [CommonRegister.ofOffset?_offset]
    exact if_pos (bne_iff_ne.mpr set)
  have written : a.card.area.writeByte fs CommonRegister.ioAbort.offset value a.device =
      (.reset, a.card.area, a.device) := by
    show (_, _, _) = _
    rw [asked]
  unfold writeCommonByte
  rw [here, written]
  rfl

/-! ## Whole operations -/

/-- The card as a direct command finds it, with the response byte that the command brings. -/
def asked (q : DirectRequest) (a : Attached σ) : Attached σ :=
  { a.prepare Card.directNumber (.direct q) with
    card.directData := q.value }

theorem asked_card (q : DirectRequest) (a : Attached σ) :
    ∃ status activeCommand,
      (a.asked q).card = { a.card with status, activeCommand, directData := q.value } := by
  unfold asked prepare noteCommand
  dsimp only
  split
  · exact ⟨_, _, rfl⟩
  · exact ⟨_, _, rfl⟩

/-- A direct write to the card's own registers, in its steps. -/
theorem perform_direct_own (fs : Functions σ) {argument : UInt32} {q : DirectRequest}
    (asks : Command.directArgument argument = q) {a : Attached σ}
    (reached : a.card.phase = .command ∨ a.card.phase = .transfer) (writes : q.isWrite)
    (present : q.function ≤ a.card.functionCount) (own : a.card.handlers.get q.function = .common) :
    (a.perform fs (.command Card.directNumber argument)).2 =
      let written := (a.asked q).writePlaced fs (CommonArea.placed .incrementing q.address [q.value])
      let answered := written.directRead fs q
      { answered with card := answered.card.reported } := by
  subst asks
  let q := Command.directArgument argument
  obtain ⟨status, activeCommand, same⟩ := a.asked_card q
  have reaches : ¬ (a.asked q).card.functionCount < q.function := by
    rw [same]
    exact Fin.not_lt.mpr present
  have own' : (a.asked q).card.handlers.get q.function = .common := by
    rw [same]
    exact own
  have steps : a.directDone fs argument = ((a.asked q).write fs q.function q.address [q.value]
      .incrementing).directRead fs q := by
    show (if (a.asked q).card.functionCount < q.function then _
      else ((a.asked q).directWrite fs q).directRead fs q) = _
    rw [if_neg reaches, directWrite, if_pos writes]
  show (a.command fs Card.directNumber argument).2 = _
  rw [command_direct fs argument reached, steps, write_own fs own']

/-- A block written to the card's own registers, in its steps. -/
theorem perform_block_own (fs : Functions σ) {value : UInt8} {t : Transfer} {a : Attached σ}
    (flowing : a.card.openDataPath? = some t) (writes : t.direction = .write)
    (full : (t.put value).blockDone) (own : a.card.handlers.get t.function = .common) :
    (a.perform fs (.writeData value)).2 =
      let written :=
        a.writePlaced fs (CommonArea.placed t.addressing t.start (t.put value).staging.toList)
      let finished := (t.put value).finishBlock
      if written.card.phase = .transfer then
        if finished.1 then { written with card := written.card.endTransfer }
        else written.setTransfer finished.2
      else written := by
  show a.writeData fs value = _
  unfold writeData flush
  rw [flowing]
  simp only [writes, full, ↓reduceIte]
  rw [← write_own fs own]
  rfl

end Attached

end WlanCard
