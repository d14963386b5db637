import WlanCard.CommonArea.Basic

/-!
# What accesses to function 0 leave alone and ask for

A register access changes registers, never what is fixed about the card, the selected function or the
interrupt lines (`writeByte_keeps`, `read_keeps`). A written byte asks the card for a reset or for
the end of a transfer only through the abort register (`writeByte_reset_iff`,
`writeByte_abort_iff`), and it reaches what the interrupt line depends on through that register, the
interrupt enable and the bus control only (`writeByte_written`).
-/

namespace WlanCard

namespace CommonArea

variable {σ : Type}

/-- What of a common area no register access changes. -/
structure Keeps (before after : CommonArea) : Prop where
  layout : after.layout = before.layout
  functionCount : after.functionCount = before.functionCount
  functionSelect : after.functionSelect = before.functionSelect
  interruptPending : after.interruptPending = before.interruptPending

theorem Keeps.refl (area : CommonArea) : area.Keeps area := ⟨rfl, rfl, rfl, rfl⟩

/-! ## Writes -/

theorem writeCommon_keeps (area : CommonArea) (offset : Nat) (value : UInt8) :
    area.Keeps (area.writeCommon offset value).2 := by
  unfold writeCommon
  split
  case h_3 =>
    -- the abort register asks for something and changes nothing
    split
    · exact .refl area
    · split <;> exact .refl area
  all_goals exact ⟨rfl, rfl, rfl, rfl⟩

theorem writeFunctionRegister_keeps (area : CommonArea) (i : Fin 7) (offset : Nat) (value : UInt8) :
    area.Keeps (area.writeFunctionRegister i offset value) := by
  unfold writeFunctionRegister
  split <;> exact ⟨rfl, rfl, rfl, rfl⟩

/-- A written byte changes registers only. -/
theorem writeByte_keeps (fs : Functions σ) (address : Nat) (value : UInt8) (area : CommonArea)
    (s : σ) : area.Keeps (area.writeByte fs address value s).2.1 := by
  unfold writeByte
  split
  · exact writeCommon_keeps ..
  · unfold writeFunction
    split
    · exact ⟨rfl, rfl, rfl, rfl⟩
    · exact writeFunctionRegister_keeps ..
  · exact .refl area

/-! ## Reads -/

theorem readByte_area (fs : Functions σ) (address : Nat) (area : CommonArea) (s : σ) :
    ∃ functions, (area.readByte fs address s).2.1 = { area with functions } := by
  unfold readByte
  split
  · exact ⟨_, rfl⟩
  · unfold readFunction
    split <;> exact ⟨_, rfl⟩
  · exact ⟨_, rfl⟩

/-- A read of any length changes storage pointers only. -/
theorem read_area (fs : Functions σ) (how : Addressing) (address length : Nat) (area : CommonArea)
    (s : σ) : ∃ functions, (read fs how address length area s).2.1 = { area with functions } := by
  induction length generalizing address area s with
  | zero => exact ⟨_, rfl⟩
  | succ length ih =>
    unfold read
    split
    · obtain ⟨_, first⟩ := readByte_area fs address area s
      obtain ⟨functions, rest⟩ := ih (address + how.stride.toNat)
        (area.readByte fs address s).2.1 (area.readByte fs address s).2.2
      exact ⟨functions, rest.trans (by rw [first])⟩
    · exact ⟨_, rfl⟩

theorem read_keeps (fs : Functions σ) (how : Addressing) (address length : Nat) (area : CommonArea)
    (s : σ) : area.Keeps (read fs how address length area s).2.1 := by
  obtain ⟨_, same⟩ := read_area fs how address length area s
  rw [same]
  exact ⟨rfl, rfl, rfl, rfl⟩

/-- A common control register is read without any change. -/
theorem readByte_common (fs : Functions σ) {address : Nat} (low : address < commonEnd)
    (area : CommonArea) (s : σ) : (area.readByte fs address s).2 = (area, s) := by
  unfold readByte Region.ofAddress
  rw [if_pos low]

/-! ## Registers and their offsets -/

/-- A register is found at its offset only. -/
theorem ofOffset?_eq_some_iff (offset : Nat) (r : CommonRegister) :
    CommonRegister.ofOffset? offset = some r ↔ offset = r.offset := by
  constructor
  · intro found
    unfold CommonRegister.ofOffset? at found
    split at found <;> cases found <;> rfl
  · rintro rfl
    exact CommonRegister.ofOffset?_offset r

/-- An address of the common control registers is an offset among them. -/
theorem offset_of_region {address offset : Nat} (region : Region.ofAddress address = .common offset) :
    offset = address := by
  unfold Region.ofAddress at region
  split at region
  · cases region; rfl
  · split at region <;> cases region

/-! ## What a written byte does to the interrupts -/

/-- What of a common area its interrupts depend on. -/
structure KeepsInterrupts (before after : CommonArea) : Prop where
  interruptEnable : after.interruptEnable = before.interruptEnable
  interruptPending : after.interruptPending = before.interruptPending
  busControl : after.busControl = before.busControl

theorem KeepsInterrupts.refl (area : CommonArea) : area.KeepsInterrupts area := ⟨rfl, rfl, rfl⟩

/-- What a byte written to an address asks the card for, with the area after it, as far as interrupts
are concerned. -/
inductive Written (area : CommonArea) (address : Nat) : Effect → CommonArea → Prop where
  | stored {after : CommonArea} (kept : area.KeepsInterrupts after) : Written area address .nothing after
  | enables (here : address = CommonRegister.interruptEnable.offset) (value : UInt8) :
    Written area address .interrupts { area with interruptEnable := value }
  | controls (here : address = CommonRegister.busControl.offset) (value : UInt8) :
    Written area address .busControl { area with busControl := value }
  | resets (here : address = CommonRegister.ioAbort.offset) : Written area address .reset area
  | aborts (here : address = CommonRegister.ioAbort.offset) (f : FunctionNumber) :
    Written area address (.abort f) area

theorem writeCommon_written (area : CommonArea) (offset : Nat) (value : UInt8) :
    area.Written offset (area.writeCommon offset value).1 (area.writeCommon offset value).2 := by
  unfold writeCommon
  split
  next found => exact .stored ⟨rfl, rfl, rfl⟩
  next found => exact .enables ((ofOffset?_eq_some_iff ..).mp found) value
  next found =>
    have here := (ofOffset?_eq_some_iff ..).mp found
    split
    · exact .resets here
    · split
      · exact .aborts here _
      · exact .stored (.refl area)
  next found => exact .controls ((ofOffset?_eq_some_iff ..).mp found) _
  all_goals exact .stored ⟨rfl, rfl, rfl⟩

theorem writeFunctionRegister_keepsInterrupts (area : CommonArea) (i : Fin 7) (offset : Nat)
    (value : UInt8) : area.KeepsInterrupts (area.writeFunctionRegister i offset value) := by
  unfold writeFunctionRegister
  split <;> exact ⟨rfl, rfl, rfl⟩

/-- **A written byte** reaches the interrupts through three registers only: the interrupt enable, the
abort register and the bus control. -/
theorem writeByte_written (fs : Functions σ) (address : Nat) (value : UInt8) (area : CommonArea)
    (s : σ) :
    area.Written address (area.writeByte fs address value s).1
      (area.writeByte fs address value s).2.1 := by
  unfold writeByte
  split
  next offset region =>
    obtain rfl := offset_of_region region
    exact writeCommon_written area offset value
  · unfold writeFunction
    split
    · exact .stored ⟨rfl, rfl, rfl⟩
    · exact .stored (writeFunctionRegister_keepsInterrupts ..)
  · exact .stored (.refl area)

theorem read_keepsInterrupts (fs : Functions σ) (how : Addressing) (address length : Nat)
    (area : CommonArea) (s : σ) : area.KeepsInterrupts (read fs how address length area s).2.1 := by
  obtain ⟨_, same⟩ := read_area fs how address length area s
  rw [same]
  exact ⟨rfl, rfl, rfl⟩

/-- Functions are enabled through their own register only. -/
theorem writeByte_ioEnable (fs : Functions σ) {address : Nat} (value : UInt8) (area : CommonArea)
    (s : σ) (other : address ≠ CommonRegister.ioEnable.offset) :
    (area.writeByte fs address value s).2.1.ioEnable = area.ioEnable := by
  unfold writeByte
  split
  next offset region =>
    obtain rfl := offset_of_region region
    unfold writeCommon
    split
    case h_1 found => exact absurd ((ofOffset?_eq_some_iff ..).mp found) other
    case h_3 =>
      split
      · rfl
      · split <;> rfl
    all_goals rfl
  · unfold writeFunction writeFunctionRegister
    split
    · rfl
    · split <;> rfl
  · rfl

/-! ## What a written byte asks for -/

/-- The byte of the abort register asks for a reset, or for the end of a function's transfer. -/
theorem writeByte_ioAbort (fs : Functions σ) (value : UInt8) (area : CommonArea) (s : σ) :
    (area.writeByte fs CommonRegister.ioAbort.offset value s).1 =
      if value &&& resetBit != 0 then .reset
      else if value &&& abortMask != 0 then .abort (.ofBits value)
      else .nothing := by
  change (area.writeCommon CommonRegister.ioAbort.offset value).1 = _
  unfold writeCommon
  rw [CommonRegister.ofOffset?_offset]
  dsimp only
  split
  · rfl
  · split <;> rfl

/-- The abort register holds nothing itself. -/
theorem writeByte_ioAbort_area (fs : Functions σ) (value : UInt8) (area : CommonArea) (s : σ) :
    (area.writeByte fs CommonRegister.ioAbort.offset value s).2.1 = area := by
  change (area.writeCommon CommonRegister.ioAbort.offset value).2 = _
  unfold writeCommon
  rw [CommonRegister.ofOffset?_offset]
  dsimp only
  split
  · rfl
  · split <;> rfl

/-- No other register asks for either. -/
theorem writeByte_other (fs : Functions σ) {address : Nat} (value : UInt8) (area : CommonArea)
    (s : σ) (other : address ≠ CommonRegister.ioAbort.offset) :
    (area.writeByte fs address value s).1 ≠ .reset ∧
      ∀ f, (area.writeByte fs address value s).1 ≠ .abort f := by
  have written := writeByte_written fs address value area s
  generalize area.writeByte fs address value s = answer at written ⊢
  obtain ⟨effect, after, _⟩ := answer
  cases written with
  | stored | enables | controls => exact ⟨nofun, nofun⟩
  | resets here => exact absurd here other
  | aborts here => exact absurd here other

/-- A written byte asks for a reset exactly if it sets the reset bit of the abort register. -/
theorem writeByte_reset_iff (fs : Functions σ) (address : Nat) (value : UInt8) (area : CommonArea)
    (s : σ) :
    (area.writeByte fs address value s).1 = .reset ↔
      address = CommonRegister.ioAbort.offset ∧ value &&& resetBit ≠ 0 := by
  by_cases here : address = CommonRegister.ioAbort.offset
  · subst here
    rw [writeByte_ioAbort]
    split
    next set => simpa using set
    next clear => split <;> simpa using clear
  · simp only [here, false_and, iff_false]
    exact (writeByte_other fs value area s here).1

/-- A written byte asks for the end of a function's transfer exactly if it names that function in the
abort register and asks for no reset. -/
theorem writeByte_abort_iff (fs : Functions σ) (address : Nat) (value : UInt8) (area : CommonArea)
    (s : σ) (f : FunctionNumber) :
    (area.writeByte fs address value s).1 = .abort f ↔
      address = CommonRegister.ioAbort.offset ∧ value &&& resetBit = 0 ∧ value &&& abortMask ≠ 0 ∧
        FunctionNumber.ofBits value = f := by
  by_cases here : address = CommonRegister.ioAbort.offset
  · subst here
    rw [writeByte_ioAbort]
    split
    next set => simp_all
    next clear => split <;> simp_all
  · simp only [here, false_and, iff_false]
    exact (writeByte_other fs value area s here).2 f

/-! ## Interrupt lines -/

private theorem set_cleared (lines bit : UInt8) : lines &&& ~~~bit ||| bit = lines ||| bit := by
  apply UInt8.toBitVec_inj.mp
  rw [UInt8.toBitVec_or, UInt8.toBitVec_and, UInt8.toBitVec_not, UInt8.toBitVec_or]
  ext i below
  simp only [BitVec.getElem_or, BitVec.getElem_and, BitVec.getElem_not]
  cases bit.toBitVec[i] <;> simp

private theorem clear_set (lines bit : UInt8) : (lines ||| bit) &&& ~~~bit = lines &&& ~~~bit := by
  apply UInt8.toBitVec_inj.mp
  rw [UInt8.toBitVec_and, UInt8.toBitVec_or, UInt8.toBitVec_not, UInt8.toBitVec_and,
    UInt8.toBitVec_not]
  ext i below
  simp only [BitVec.getElem_or, BitVec.getElem_and, BitVec.getElem_not]
  cases bit.toBitVec[i] <;> simp

/-- The last level that a line is driven to is the one that counts. -/
theorem setInterruptPending_twice (area : CommonArea) (line : Fin 8) (first last : Bool) :
    (area.setInterruptPending line first).setInterruptPending line last =
      area.setInterruptPending line last := by
  cases first <;> cases last <;>
    simp only [setInterruptPending, Bool.false_eq_true, ↓reduceIte, set_cleared, clear_set,
      UInt8.and_assoc, UInt8.and_self, UInt8.or_assoc, UInt8.or_self]

end CommonArea

end WlanCard
