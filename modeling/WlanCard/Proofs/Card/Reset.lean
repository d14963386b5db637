import WlanCard.Proofs.Card.InterruptLine

/-!
# What is left of a card that a write resets

A byte written to the abort register resets the card at once. The card is then at the beginning of
enumeration again (`Card.Fresh`), and so it is when the whole access is over (`perform_of_reset`): the
bytes that follow in the same block go to no lower address, so they reach neither the enables in front
of the abort register nor the enumeration. They do reach the registers behind it, which then do not
have the values of power-on; a block that ends with the abort register, or stays at it, leaves all of
them so.
-/

namespace WlanCard

namespace Card

/-- A card is at the beginning of enumeration: nothing is enabled and no interrupt is shown. -/
structure Fresh (c : Card) : Prop where
  phase : c.phase = .initialization
  address : c.address = 0
  ready : c.ready = false
  transfer : c.transfer = none
  irq : c.irq = false
  ioEnable : c.area.ioEnable = 0
  interruptEnable : c.area.interruptEnable = 0

variable {c : Card}

/-- Where nothing is enabled the interrupt line is derived to be low. -/
theorem updateIrq_low (disabled : c.area.interruptEnable = 0) : c.updateIrq.irq = false := by
  have quiet : ¬ c.asksInterrupt = true := Bool.eq_false_iff.mp (asksInterrupt_of_disabled disabled)
  exact Bool.eq_false_iff.mpr fun high => quiet (asksInterrupt_of_interruptLevel high)

theorem Fresh.updateIrq (fresh : c.Fresh) : c.updateIrq.Fresh :=
  { fresh with irq := updateIrq_low fresh.interruptEnable }

theorem fresh_reset (c : Card) : c.reset.updateIrq.Fresh where
  phase := rfl
  address := rfl
  ready := rfl
  transfer := rfl
  irq := updateIrq_low rfl
  ioEnable := rfl
  interruptEnable := rfl

/-- No transfer is there to abort. -/
theorem Fresh.abort (fresh : c.Fresh) (f : FunctionNumber) : c.abort f = c :=
  abort_of_ne fun running => by rw [fresh.phase] at running; cases running

end Card

namespace Attached

open Card

variable {σ : Type} {a : Attached σ}

/-! ## Bytes after a reset -/

/-- From the abort register on, no byte takes a card away from the beginning of enumeration. -/
theorem fresh_writeCommonByte (fs : Functions σ) {address : UInt32} (value : UInt8)
    (fresh : a.card.Fresh) (behind : CommonRegister.ioAbort.offset ≤ address.toNat) :
    (a.writeCommonByte fs address value).card.Fresh := by
  have other : address.toNat ≠ CommonRegister.ioEnable.offset :=
    Nat.ne_of_gt (Nat.lt_of_lt_of_le (by decide) behind)
  have ioEnable := (CommonArea.writeByte_ioEnable fs value a.card.area a.device other).trans
    fresh.ioEnable
  have written := CommonArea.writeByte_written fs address.toNat value a.card.area a.device
  unfold writeCommonByte
  dsimp only
  generalize a.card.area.writeByte fs address.toNat value a.device = answer at written ioEnable ⊢
  obtain ⟨effect, after, s⟩ := answer
  cases written with
  | stored kept =>
    exact { fresh with ioEnable, interruptEnable := kept.interruptEnable.trans fresh.interruptEnable }
  | enables here => exact absurd (here ▸ behind) (by decide)
  | controls here value =>
    have stored : { a.card with area.busControl := value }.Fresh := { fresh with }
    dsimp only [apply]
    split
    · exact stored.updateIrq
    · exact stored
  | resets here => exact fresh_reset a.card
  | aborts here f =>
    show (a.card.abort f).Fresh
    rw [fresh.abort]
    exact fresh

theorem fresh_writePlaced (fs : Functions σ) {bytes : List (UInt32 × UInt8)} (fresh : a.card.Fresh)
    (behind : ∀ byte ∈ bytes, CommonRegister.ioAbort.offset ≤ byte.1.toNat) :
    (a.writePlaced fs bytes).card.Fresh := by
  induction bytes generalizing a with
  | nil => exact fresh
  | cons byte bytes ih =>
    have first := fresh_writeCommonByte fs byte.2 fresh (behind byte List.mem_cons_self)
    exact ih first fun later mem => behind later (List.mem_cons_of_mem byte mem)

/-- At the abort register, no byte changes the registers of a card that has just been reset. -/
theorem writeCommonByte_ioAbort_area (fs : Functions σ) {address : UInt32} (value : UInt8)
    {area : CommonArea} (fresh : a.card.Fresh)
    (here : address.toNat = CommonRegister.ioAbort.offset)
    (registers : a.card.area = area.reset a.card.functionCount) :
    (a.writeCommonByte fs address value).card.area = area.reset a.card.functionCount := by
  have written := CommonArea.writeByte_written fs address.toNat value a.card.area a.device
  have stays := CommonArea.writeByte_ioAbort_area fs value a.card.area a.device
  rw [← here] at stays
  unfold writeCommonByte
  dsimp only
  generalize a.card.area.writeByte fs address.toNat value a.device = answer at written stays ⊢
  obtain ⟨effect, after, s⟩ := answer
  cases written with
  | stored kept => exact stays.trans registers
  | enables other | controls other => exact absurd (here.symm.trans other) (by decide)
  | resets other =>
    show a.card.area.reset a.card.functionCount = _
    rw [registers]
    rfl
  | aborts other f =>
    show (a.card.abort f).area = _
    rw [fresh.abort]
    exact registers

theorem writePlaced_ioAbort_area (fs : Functions σ) {bytes : List (UInt32 × UInt8)}
    {area : CommonArea} (fresh : a.card.Fresh)
    (here : ∀ byte ∈ bytes, byte.1.toNat = CommonRegister.ioAbort.offset)
    (registers : a.card.area = area.reset a.card.functionCount) :
    (a.writePlaced fs bytes).card.area = area.reset a.card.functionCount := by
  induction bytes generalizing a with
  | nil => exact registers
  | cons byte bytes ih =>
    have there := here byte List.mem_cons_self
    have first := fresh_writeCommonByte fs byte.2 fresh (Nat.le_of_eq there.symm)
    have count := (writeCommonByte_keepsWiring fs byte.1 byte.2 a).functionCount
    have stays := writeCommonByte_ioAbort_area fs byte.2 fresh there registers
    rw [← count] at stays ⊢
    exact ih first (fun later mem => here later (List.mem_cons_of_mem byte mem)) stays

/-! ## What a reset goes back to -/

/-- What registers a card goes back to with a reset is fixed but for the selected function, which no
write changes. -/
theorem reset_writeCommonByte (fs : Functions σ) (address : UInt32) (value : UInt8)
    (a : Attached σ) :
    (a.writeCommonByte fs address value).card.area.reset
        (a.writeCommonByte fs address value).card.functionCount =
      a.card.area.reset a.card.functionCount := by
  rw [(writeCommonByte_keepsWiring fs address value a).functionCount]
  have kept := CommonArea.writeByte_keeps fs address.toNat value a.card.area a.device
  have stored : (a.card.area.writeByte fs address.toNat value a.device).2.1.reset
      a.card.functionCount = a.card.area.reset a.card.functionCount := by
    unfold CommonArea.reset
    rw [kept.layout, kept.functionSelect]
  unfold writeCommonByte
  dsimp only
  generalize a.card.area.writeByte fs address.toNat value a.device = answer at stored ⊢
  obtain ⟨effect, after, s⟩ := answer
  rw [← stored]
  cases effect with
  | nothing | interrupts | reset => rfl
  | busControl => dsimp only [apply]; split <;> rfl
  | abort f =>
    show (Card.abort _ f).area.reset _ = _
    unfold Card.abort Card.endTransfer
    split
    · split <;> rfl
    · rfl

theorem reset_writePlaced (fs : Functions σ) (bytes : List (UInt32 × UInt8)) (a : Attached σ) :
    (a.writePlaced fs bytes).card.area.reset (a.writePlaced fs bytes).card.functionCount =
      a.card.area.reset a.card.functionCount := by
  induction bytes generalizing a with
  | nil => rfl
  | cons byte bytes ih => exact (ih _).trans (reset_writeCommonByte fs byte.1 byte.2 a)

/-! ## Whole operations -/

/-- Reading a common control register changes nothing of the card. -/
theorem read_card_of_common (fs : Functions σ) (f : FunctionNumber) {address : UInt32}
    (low : address.toNat < CommonArea.commonEnd) (how : Addressing) (a : Attached σ) :
    (a.read fs f address 1 how).2.card = a.card := by
  unfold read
  split
  · have inside : address.toNat < CommonArea.registersEnd := Nat.lt_of_lt_of_le low (by decide)
    have first := CommonArea.readByte_common fs low a.card.area a.device
    unfold CommonArea.read
    rw [if_pos inside]
    show { a.card with area := (a.card.area.readByte fs address.toNat a.device).2.1 } = a.card
    rw [first]
  · rfl
  · rfl

theorem directRead_card_of_common (fs : Functions σ) {q : DirectRequest}
    (low : q.address.toNat < CommonArea.commonEnd) (a : Attached σ) :
    ∃ directData, (a.directRead fs q).card = { a.card with directData } := by
  unfold directRead
  split
  · let answer := a.read fs q.function q.address 1 .incrementing
    have same : answer.2.card = a.card := read_card_of_common fs q.function low ..
    refine ⟨answer.1.headD 0, ?_⟩
    show { answer.2.card with directData := answer.1.headD 0 } = _
    rw [same]
  · exact ⟨_, rfl⟩

/-- An operation that resets the card: what it writes before, the reset, and what it writes after
it. -/
theorem perform_resets (fs : Functions σ) {op : Operation} {before rest : List (UInt32 × UInt8)}
    {address : UInt32} {value : UInt8}
    (writes : a.card.WritesOwn op (before ++ (address, value) :: rest))
    (here : address.toNat = CommonRegister.ioAbort.offset) (set : value &&& CommonArea.resetBit ≠ 0) :
    ∃ status directData, (a.perform fs op).2.card =
      { (((a.writePlaced fs before).reset fs).writePlaced fs rest).card with status, directData } := by
  have split : ∀ b : Attached σ, b.writePlaced fs (before ++ (address, value) :: rest) =
      ((b.writePlaced fs before).reset fs).writePlaced fs rest := by
    intro b
    rw [writePlaced_append, writePlaced_cons, writeCommonByte_reset fs here set]
  have behind : ∀ byte ∈ rest, CommonRegister.ioAbort.offset ≤ byte.1.toNat := fun byte mem =>
    here ▸ writes.le_of_mem mem
  generalize bytes : before ++ (address, value) :: rest = placed at writes split
  cases writes with
  | @direct argument q asks reached isWrite present own =>
    -- one byte only: nothing before it, and nothing after
    have single : before = [] ∧ rest = [] ∧ q.address = address := by
      unfold CommonArea.placed at bytes
      split at bytes
      · cases List.append_ne_nil_of_right_ne_nil before (List.cons_ne_nil _ _) bytes
      · rcases List.append_eq_singleton_iff.mp bytes with ⟨none, same⟩ | ⟨-, none⟩
        · cases same
          exact ⟨none, rfl, rfl⟩
        · cases none
    obtain ⟨rfl, rfl, at_⟩ := single
    have low : q.address.toNat < CommonArea.commonEnd := by
      rw [at_, here]
      decide
    obtain ⟨_, _, asked⟩ := a.asked_card q
    have same : ((a.asked q).reset fs).card = (a.reset fs).card := by
      show (a.asked q).card.reset.updateIrq = a.card.reset.updateIrq
      rw [asked]
      rfl
    rw [perform_direct_own fs asks reached isWrite present own, split]
    obtain ⟨directData, answered⟩ := directRead_card_of_common fs low ((a.asked q).reset fs)
    refine ⟨(a.reset fs).card.status.clear Response.directClearMask, directData, ?_⟩
    show (((a.asked q).reset fs).directRead fs q).card.reported = _
    rw [answered, same]
    rfl
  | @block value' t flowing isWrite full own =>
    have fresh : (((a.writePlaced fs before).reset fs).writePlaced fs rest).card.Fresh :=
      fresh_writePlaced fs (fresh_reset _) behind
    rw [perform_block_own fs flowing isWrite full own, split]
    dsimp only
    rw [if_neg fun running => by rw [fresh.phase] at running; cases running]
    exact ⟨_, _, rfl⟩

/-- **A reset that a write asks for**: when the access is over, the card is at the beginning of
enumeration, with nothing enabled. The registers are those that the bytes behind the reset have been
written to; if all of these go to the abort register too, they have their values of power-on. -/
theorem perform_of_reset (fs : Functions σ) {op : Operation} {before rest : List (UInt32 × UInt8)}
    {address : UInt32} {value : UInt8}
    (writes : a.card.WritesOwn op (before ++ (address, value) :: rest))
    (here : address.toNat = CommonRegister.ioAbort.offset) (set : value &&& CommonArea.resetBit ≠ 0) :
    let after := (a.perform fs op).2.card
    after.Fresh ∧
      after.area = (((a.writePlaced fs before).reset fs).writePlaced fs rest).card.area ∧
      ((∀ byte ∈ rest, byte.1.toNat = CommonRegister.ioAbort.offset) →
        after.area = { CommonArea.powerOn a.card.area.layout a.card.functionCount with
          functionSelect := a.card.area.functionSelect }) := by
  intro after
  obtain ⟨status, directData, done⟩ := perform_resets fs writes here set
  have behind : ∀ byte ∈ rest, CommonRegister.ioAbort.offset ≤ byte.1.toNat := fun byte mem =>
    here ▸ writes.le_of_mem mem
  let reset := (a.writePlaced fs before).reset fs
  have fresh : (reset.writePlaced fs rest).card.Fresh :=
    fresh_writePlaced fs (fresh_reset _) behind
  have area : after.area = (reset.writePlaced fs rest).card.area := by
    show (a.perform fs op).2.card.area = _
    rw [done]
  refine ⟨?_, area, fun stays => ?_⟩
  · show (a.perform fs op).2.card.Fresh
    rw [done]
    exact { fresh with }
  · have powerOn : (reset.writePlaced fs rest).card.area =
        (a.writePlaced fs before).card.area.reset (a.writePlaced fs before).card.functionCount :=
      writePlaced_ioAbort_area fs (fresh_reset _) stays rfl
    rw [area, powerOn]
    exact reset_writePlaced fs before a

/-- A card to which the host is writing a block of two bytes at the abort register, with the first
byte sent: a reset. -/
def resettingBlock : Attached Unit :=
  numbered.run .numbered [.command 52 0x80002002, .command 53 0x8c000c01, .writeData 0x08]

theorem writesOwn_resettingBlock :
    resettingBlock.card.WritesOwn (.writeData 0x02) ([] ++ (0x06, 0x08) :: [(0x07, 0x02)]) := by
  let t : Transfer :=
    { function := 0, direction := .write, addressing := .incrementing, blockLength := 2,
      blocks := .finite 1, start := 6, offset := 1, staging := #[0x08, 0x00] }
  have flowing : resettingBlock.card.openDataPath? = some t := by decide +kernel
  have own : resettingBlock.card.handlers.get t.function = .common := by decide +kernel
  have block : resettingBlock.card.WritesOwn (.writeData 0x02)
      (CommonArea.placed t.addressing t.start (t.put 0x02).staging.toList) :=
    .block flowing rfl rfl own
  exact block

theorem perform_of_reset_block :
    resettingBlock.card.WritesOwn (.writeData 0x02) ([] ++ (0x06, 0x08) :: [(0x07, 0x02)]) ∧
      (resettingBlock.perform .numbered (.writeData 0x02)).2.card.Fresh ∧
      (resettingBlock.perform .numbered (.writeData 0x02)).2.card.area =
        ((resettingBlock.reset .numbered).writePlaced .numbered [(0x07, 0x02)]).card.area := by
  obtain ⟨fresh, area, -⟩ := perform_of_reset .numbered writesOwn_resettingBlock rfl (by decide)
  exact ⟨writesOwn_resettingBlock, fresh, area⟩

/-- The byte behind such a reset sets the bus control, which is zero at power-on. -/
theorem resettingBlock_sets_busControl :
    resettingBlock.card.WritesOwn (.writeData 0x02) ([] ++ (0x06, 0x08) :: [(0x07, 0x02)]) ∧
      (resettingBlock.perform .numbered (.writeData 0x02)).2.card.area.busControl = 0x42 ∧
      (CommonArea.powerOn resettingBlock.card.area.layout
        resettingBlock.card.functionCount).busControl = 0 :=
  ⟨writesOwn_resettingBlock, by decide +kernel, rfl⟩

end Attached

end WlanCard
