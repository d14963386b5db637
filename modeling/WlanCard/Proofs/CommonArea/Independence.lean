import WlanCard.Proofs.Bit
import WlanCard.Proofs.CommonArea.ByteReads

/-!
# The registers of function 0 do not overlap

Every register has an address of its own, and what a byte written to one of them changes is that
register, with few exceptions: the enabled functions are shown twice, the power control is shared by all
functions, and an access through a storage window moves the pointer beside it. `Register.Reaches` lists
these, and `Register.readBack` what each register shows after a byte has been written to it;
`registers_independent` says that nothing else is changed by a write, and nothing at all by a read but
the pointers of the windows that are read.

Registers are taken by name (`Register`), so that what is shown and what is stored are case analyses
over them (`shows_stored`, `shows_stored_self`); `readByte_at` and `writeByte_at` lead there from
addresses.
-/

namespace WlanCard

theorem CommonRegister.offset_lt (r : CommonRegister) : r.offset < CommonArea.commonEnd := by
  cases r <;> simp only [offset, CommonArea.commonEnd] <;> omega

theorem FunctionRegister.offset_lt (r : FunctionRegister) : r.offset < CommonArea.commonEnd := by
  cases r <;> simp only [offset, CommonArea.commonEnd] <;> omega

namespace CommonArea

/-- A register of function 0: a common one, or a basic one of function `i + 1`. -/
inductive Register where
  | common (r : CommonRegister)
  | function (i : Fin 7) (r : FunctionRegister)
deriving DecidableEq, Repr

namespace Register

/-! ## The register map -/

/-- The address of a register. -/
def address : Register → Nat
  | .common r => r.offset
  | .function i r => commonEnd * (i + 1) + r.offset

/-- The register at an address. -/
def ofAddress? (address : Nat) : Option Register :=
  match Region.ofAddress address with
  | .common offset => (CommonRegister.ofOffset? offset).map .common
  | .function i offset => (FunctionRegister.ofOffset? offset).map (.function i)
  | .memory => none

/-- The region that the address of a register leads to. -/
def region : Register → Region
  | .common r => .common r.offset
  | .function i r => .function i r.offset

theorem ofAddress_address (r : Register) : Region.ofAddress r.address = r.region := by
  cases r with
  | common r => exact if_pos r.offset_lt
  | function i r =>
    have below := r.offset_lt
    have page := i.isLt
    have high : ¬ (function i r).address < commonEnd := by
      simp only [address, commonEnd] at *
      omega
    have inside : (function i r).address < registersEnd := by
      simp only [address, commonEnd, registersEnd] at *
      omega
    have quotient : (function i r).address / commonEnd = i + 1 := by
      simp only [address, commonEnd] at *
      omega
    have rest : (function i r).address % commonEnd = r.offset := by
      simp only [address, commonEnd] at *
      omega
    unfold Region.ofAddress region
    rw [if_neg high, dif_pos inside]
    simp only [quotient, rest, Nat.add_sub_cancel]

theorem ofAddress?_address (r : Register) : ofAddress? r.address = some r := by
  unfold ofAddress?
  rw [ofAddress_address]
  cases r with
  | common r => exact congrArg (Option.map common) r.ofOffset?_offset
  | function i r => exact congrArg (Option.map (function i)) r.ofOffset?_offset

theorem address_of_ofAddress? {a : Nat} {r : Register} (found : ofAddress? a = some r) :
    r.address = a := by
  unfold ofAddress? at found
  split at found
  next offset region =>
    obtain ⟨r, at_, rfl⟩ := Option.map_eq_some_iff.mp found
    exact ((ofOffset?_eq_some_iff ..).mp at_).symm.trans (offset_of_region region)
  next i offset region =>
    obtain ⟨r, at_, rfl⟩ := Option.map_eq_some_iff.mp found
    have place := offset_of_functionRegister at_
    unfold Region.ofAddress at region
    split at region
    · cases region
    next high =>
      split at region
      · cases region
        simp only [address, ← place, commonEnd] at *
        omega
      · cases region
  · cases found

/-- **No two registers share an address.** -/
theorem address_inj {r q : Register} : r.address = q.address ↔ r = q := by
  constructor
  · intro same
    have found := r.ofAddress?_address
    rw [same, ofAddress?_address] at found
    exact (Option.some.inj found).symm
  · exact congrArg address

/-! ## What registers do -/

/-- The storage windows: reading or writing one is an access to storage. -/
def isWindow : Register → Bool
  | .function _ .storageWindow => true
  | _ => false

theorem isWindow_iff {r : Register} : r.isWindow = true ↔ ∃ i, r = .function i .storageWindow := by
  constructor
  · intro window
    unfold isWindow at window
    split at window
    next i => exact ⟨i, rfl⟩
    next => cases window
  · rintro ⟨i, rfl⟩
    rfl

/-- The registers that show something else after a write to them. -/
def isWritable : Register → Bool
  | .common .ioEnable | .common .interruptEnable | .common .busControl | .common .capability
  | .common (.blockLength _) | .common .powerControl | .common .highSpeed
  | .function _ .interfaceCode | .function _ (.storagePointer _)
  | .function _ (.blockLength _) => true
  | _ => false

/-- The registers that a write to one of them may change: itself, the second register that shows the
enabled functions, the shared power control, and the pointer beside a storage window. -/
inductive Reaches : Register → Register → Prop where
  | self {r : Register} (writable : r.isWritable = true) : Reaches r r
  | ready : Reaches (.common .ioEnable) (.common .ioReady)
  | power (i : Fin 7) : Reaches (.function i .powerSelection) (.common .powerControl)
  | pointer (i : Fin 7) (j : Fin 3) :
    Reaches (.function i .storageWindow) (.function i (.storagePointer j))

/-- What a register shows after `value` has been written to it, if it has shown `old` before, on a card
with `count` functions besides function 0. Only functions that there are can be enabled; what power
control and high speed have enabled stays so; storage is opened only where there is any. -/
def readBack (count : Fin 8) (old value : UInt8) : Register → UInt8
  | .common .ioEnable => value &&& UInt8.ofNat (2 ^ (count.val + 1) - 2)
  | .common .interruptEnable => value
  | .common .busControl => value &&& 0xe3 ||| 0x40
  | .common .capability => 0x13 ||| value &&& 0x20
  | .common (.blockLength _) => value
  | .common .powerControl | .common .highSpeed => old ||| value &&& 0x02
  | .function _ .interfaceCode =>
    if old &&& 0x40 = 0 then old &&& 0x7f else old &&& 0x7f ||| value &&& 0x80
  | .function _ (.storagePointer _) => value
  | .function _ (.blockLength _) => value
  | _ => old

end Register

/-- What a register shows when nothing happens on the read. -/
def shows (area : CommonArea) : Register → UInt8
  | .common r => area.readCommon r.offset
  | .function i r => area.functionByte i r.offset

/-- The registers after a byte has been written to one of them. -/
def stored (area : CommonArea) (value : UInt8) : Register → CommonArea
  | .common r => (area.writeCommon r.offset value).2
  | .function i r =>
    if area.opensWindow i r.offset then area.setFunction i (area.functions.get i).stepStorage
    else area.writeFunctionRegister i r.offset value

/-- Only the storage window opens anything. -/
theorem eq_storageWindow_of_opens {area : CommonArea} {i : Fin 7} {r : FunctionRegister}
    (window : area.opensWindow i r.offset = true) : r = .storageWindow := by
  have found := ((opensWindow_iff ..).mp window).1
  rw [r.ofOffset?_offset] at found
  exact Option.some.inj found

theorem not_opensWindow_of_none (area : CommonArea) (i : Fin 7) {offset : Nat}
    (none : FunctionRegister.ofOffset? offset = none) : ¬ area.opensWindow i offset = true := by
  intro window
  rw [((opensWindow_iff ..).mp window).1] at none
  cases none

theorem not_opensWindow_of_plain (area : CommonArea) (i : Fin 7) {r : FunctionRegister}
    (plain : (Register.function i r).isWindow = false) : ¬ area.opensWindow i r.offset = true := by
  intro window
  obtain rfl := eq_storageWindow_of_opens window
  cases plain

variable {σ : Type}

/-! ## From addresses to registers -/

theorem readByte_at (fs : Functions σ) (area : CommonArea) (s : σ) {r : Register}
    (plain : r.isWindow = false) : area.readByte fs r.address s = (area.shows r, area, s) := by
  unfold readByte
  rw [r.ofAddress_address]
  cases r with
  | common r => rfl
  | function i r => exact if_neg (not_opensWindow_of_plain area i plain)

/-- Where there is no register, function 0 shows memory; in between registers it is zero. -/
theorem readByte_of_none (fs : Functions σ) (area : CommonArea) (s : σ) {address : Nat}
    (none : Register.ofAddress? address = none) :
    area.readByte fs address s = (area.layout.memoryByte address, area, s) := by
  have gap (page : Region.ofAddress address ≠ .memory) : area.layout.memoryByte address = 0 := by
    have low : address < registersEnd :=
      Nat.lt_of_not_le fun behind => page (Region.ofAddress_behind behind)
    exact if_pos (Nat.lt_trans low (by decide))
  unfold Register.ofAddress? at none
  unfold readByte
  cases region : Region.ofAddress address with
  | memory => rfl
  | common offset =>
    rw [region] at none
    have zero : area.readCommon offset = 0 := by
      unfold readCommon
      rw [Option.map_eq_none_iff.mp none]
    rw [gap (by rw [region]; exact Region.noConfusion)]
    exact congrArg (·, area, s) zero
  | function i offset =>
    rw [region] at none
    have nothing := Option.map_eq_none_iff.mp none
    have zero : area.functionByte i offset = 0 := by
      unfold functionByte
      rw [nothing]
    rw [gap (by rw [region]; exact Region.noConfusion)]
    unfold readFunction
    dsimp only
    rw [if_neg (not_opensWindow_of_none area i nothing), zero]

theorem writeByte_at (fs : Functions σ) (area : CommonArea) (s : σ) (value : UInt8) (r : Register) :
    (area.writeByte fs r.address value s).2.1 = area.stored value r := by
  unfold writeByte
  rw [r.ofAddress_address]
  cases r with
  | common r => rfl
  | function i r =>
    unfold stored
    dsimp only [Register.region]
    unfold writeFunction
    split <;> rfl

/-- Where there is no register, a write is ignored. -/
theorem writeByte_of_none (fs : Functions σ) (area : CommonArea) (s : σ) (value : UInt8) {address : Nat}
    (none : Register.ofAddress? address = none) :
    area.writeByte fs address value s = (.nothing, area, s) := by
  unfold Register.ofAddress? at none
  unfold writeByte
  cases region : Region.ofAddress address with
  | memory => rfl
  | common offset =>
    rw [region] at none
    have nothing := Option.map_eq_none_iff.mp none
    have ignored : area.writeCommon offset value = (.nothing, area) := by
      unfold writeCommon
      rw [nothing]
    dsimp only
    rw [ignored]
  | function i offset =>
    rw [region] at none
    have nothing := Option.map_eq_none_iff.mp none
    have ignored : area.writeFunctionRegister i offset value = area := by
      unfold writeFunctionRegister
      rw [nothing]
    dsimp only
    unfold writeFunction
    rw [if_neg (not_opensWindow_of_none area i nothing), ignored]

/-! ## What a write leaves alone -/

/-- A byte of a block length is changed alone. -/
theorem byte_setBlockLengthByte (area : CommonArea) (f g : FunctionNumber) (i j : Fin 2)
    (value : UInt8) :
    Word.byte ((area.setBlockLengthByte f i value).blockLengths.get g) j =
      if g = f ∧ j = i then value else Word.byte (area.blockLengths.get g) j := by
  show Word.byte (area.setBlockLengthByte f i value).blockLengths[g] j =
    if g = f ∧ j = i then value else Word.byte area.blockLengths[g] j
  unfold setBlockLengthByte
  by_cases same : g = f
  · subst same
    have stored : (area.blockLengths.set g (Word.setByte area.blockLengths[g] i value) g.isLt)[g] =
        Word.setByte area.blockLengths[g] i value := Vector.getElem_set_self ..
    dsimp only
    rw [stored, Word.byte_setByte _ _ _ _ (by omega)]
    simp only [Fin.val_inj, true_and]
  · have kept : (area.blockLengths.set f (Word.setByte area.blockLengths[f] i value) f.isLt)[g] =
        area.blockLengths[g] :=
      Vector.getElem_set_ne f.isLt g.isLt fun equal => same (Fin.ext equal.symm)
    dsimp only
    rw [kept, if_neg (same ·.1)]

/-- The state of a function is changed alone. -/
theorem functions_setFunction (area : CommonArea) (i j : Fin 7) (f : FunctionState) :
    (area.setFunction i f).functions.get j = if j = i then f else area.functions.get j := by
  by_cases same : j = i
  · subst same
    rw [if_pos rfl]
    exact Vector.getElem_set_self ..
  · rw [if_neg same]
    exact Vector.getElem_set_ne i.isLt j.isLt fun equal => same (Fin.ext equal.symm)

theorem writeCommon_ioAbort (area : CommonArea) (value : UInt8) :
    (area.writeCommon CommonRegister.ioAbort.offset value).2 = area := by
  unfold writeCommon
  rw [CommonRegister.ofOffset?_offset]
  dsimp only
  split
  · rfl
  · split <;> rfl

theorem readCommon_writeCommon {r q : CommonRegister} (apart : ¬ Register.Reaches (.common r) (.common q))
    (area : CommonArea) (value : UInt8) :
    (area.writeCommon r.offset value).2.readCommon q.offset = area.readCommon q.offset := by
  by_cases abort : r = .ioAbort
  · rw [abort, writeCommon_ioAbort]
  unfold readCommon writeCommon
  rw [q.ofOffset?_offset, r.ofOffset?_offset]
  cases r with
  | ioAbort => exact absurd rfl abort
  | ioEnable =>
    cases q with
    | ioEnable => exact absurd (.self rfl) apart
    | ioReady => exact absurd .ready apart
    | _ => rfl
  | interruptEnable =>
    cases q with
    | interruptEnable => exact absurd (.self rfl) apart
    | _ => rfl
  | busControl =>
    cases q with
    | busControl => exact absurd (.self rfl) apart
    | _ => rfl
  | capability =>
    cases q with
    | capability => exact absurd (.self rfl) apart
    | _ => rfl
  | blockLength i =>
    cases q with
    | blockLength j =>
      refine (byte_setBlockLengthByte area 0 0 i j value).trans (if_neg ?_)
      rintro ⟨-, rfl⟩
      exact apart (.self rfl)
    | _ => rfl
  | powerControl =>
    cases q with
    | powerControl => exact absurd (.self rfl) apart
    | _ => rfl
  | highSpeed =>
    cases q with
    | highSpeed => exact absurd (.self rfl) apart
    | _ => rfl
  | _ => rfl

/-- What the basic registers of a function show depends on its state and its block length. -/
theorem functionByte_congr (before after : CommonArea) {i : Fin 7}
    (layout : after.layout = before.layout)
    (state : after.functions.get i = before.functions.get i)
    (length : ∀ j : Fin 2,
      Word.byte (after.blockLengths.get i.succ) j = Word.byte (before.blockLengths.get i.succ) j)
    (offset : Nat) : after.functionByte i offset = before.functionByte i offset := by
  replace state : after.functions[i] = before.functions[i] := state
  replace length : ∀ j : Fin 2,
    Word.byte after.blockLengths[i.succ] j = Word.byte before.blockLengths[i.succ] j := length
  unfold functionByte
  simp only [layout, state, length]

theorem functionByte_writeCommon (area : CommonArea) (r : CommonRegister) (value : UInt8) (i : Fin 7)
    (offset : Nat) :
    (area.writeCommon r.offset value).2.functionByte i offset = area.functionByte i offset := by
  by_cases abort : r = .ioAbort
  · rw [abort, writeCommon_ioAbort]
  unfold writeCommon
  rw [r.ofOffset?_offset]
  cases r with
  | ioAbort => exact absurd rfl abort
  | blockLength j =>
    have kept : ∀ k : Fin 2,
        Word.byte ((area.setBlockLengthByte 0 j value).blockLengths.get i.succ) k =
          Word.byte (area.blockLengths.get i.succ) k := by
      intro k
      rw [byte_setBlockLengthByte, if_neg fun same => Fin.succ_ne_zero i same.1]
    exact functionByte_congr area (area.setBlockLengthByte 0 j value) rfl rfl kept offset
  | _ => exact functionByte_congr area _ rfl rfl (fun _ => rfl) offset

theorem readCommon_writeFunctionRegister {i : Fin 7} {r : FunctionRegister} {q : CommonRegister}
    (apart : ¬ Register.Reaches (.function i r) (.common q)) (area : CommonArea) (value : UInt8) :
    (area.writeFunctionRegister i r.offset value).readCommon q.offset =
      area.readCommon q.offset := by
  unfold readCommon writeFunctionRegister
  rw [q.ofOffset?_offset, r.ofOffset?_offset]
  cases r with
  | powerSelection =>
    cases q with
    | powerControl => exact absurd (.power i) apart
    | _ => rfl
  | blockLength j =>
    cases q with
    | blockLength k =>
      exact (byte_setBlockLengthByte area i.succ 0 j k value).trans
        (if_neg fun same => Fin.succ_ne_zero i same.1.symm)
    | _ => rfl
  | _ => rfl

/-- A new state of a function keeps what the registers of the others show. -/
theorem functionByte_setFunction_of_ne {i j : Fin 7} (other : j ≠ i) (area : CommonArea)
    (f : FunctionState) (offset : Nat) :
    (area.setFunction i f).functionByte j offset = area.functionByte j offset := by
  have kept : (area.setFunction i f).functions.get j = area.functions.get j := by
    rw [functions_setFunction, if_neg other]
  exact functionByte_congr area (area.setFunction i f) rfl kept (fun _ => rfl) offset

theorem functionByte_storagePointer (area : CommonArea) (i : Fin 7) (j : Fin 3) :
    area.functionByte i (FunctionRegister.storagePointer j).offset =
      Word.byte (area.functions.get i).storagePointer j := by
  unfold functionByte
  rw [FunctionRegister.ofOffset?_offset]
  rfl

theorem functionByte_blockLength (area : CommonArea) (i : Fin 7) (j : Fin 2) :
    area.functionByte i (FunctionRegister.blockLength j).offset =
      Word.byte (area.blockLengths.get i.succ) j := by
  unfold functionByte
  rw [FunctionRegister.ofOffset?_offset]
  rfl

/-- A new state of a function is shown by its interface codes and its storage pointer. -/
theorem functionByte_setFunction (area : CommonArea) (i : Fin 7) (f : FunctionState)
    (q : FunctionRegister) :
    (area.setFunction i f).functionByte i q.offset =
      match q with
      | .interfaceCode => f.interfaceCode
      | .extendedInterfaceCode => f.extendedInterfaceCode
      | .storagePointer j => Word.byte f.storagePointer j
      | _ => area.functionByte i q.offset := by
  have stored : (area.setFunction i f).functions[i] = f :=
    (functions_setFunction area i i f).trans (if_pos rfl)
  unfold functionByte
  rw [q.ofOffset?_offset, stored]
  cases q <;> rfl

/-- Opening or closing its storage leaves everything else of a function as it is. -/
theorem setStorageOpen_keeps (f : FunctionState) (wanted : Bool) :
    (f.setStorageOpen wanted).extendedInterfaceCode = f.extendedInterfaceCode ∧
      (f.setStorageOpen wanted).storagePointer = f.storagePointer := by
  unfold FunctionState.setStorageOpen
  split <;> exact ⟨rfl, rfl⟩

/-- A write through the storage window is shown by the storage pointer only. -/
theorem functionByte_stepStorage {i j : Fin 7} {q : FunctionRegister}
    (apart : ¬ Register.Reaches (.function i .storageWindow) (.function j q)) (area : CommonArea) :
    (area.setFunction i (area.functions.get i).stepStorage).functionByte j q.offset =
      area.functionByte j q.offset := by
  by_cases same : j = i
  · subst same
    rw [functionByte_setFunction]
    cases q with
    | storagePointer k => exact absurd (.pointer j k) apart
    | _ => rfl
  · exact functionByte_setFunction_of_ne same ..

theorem functionByte_writeFunctionRegister {i j : Fin 7} {r q : FunctionRegister}
    (apart : ¬ Register.Reaches (.function i r) (.function j q)) (area : CommonArea)
    (value : UInt8) :
    (area.writeFunctionRegister i r.offset value).functionByte j q.offset =
      area.functionByte j q.offset := by
  unfold writeFunctionRegister
  rw [r.ofOffset?_offset]
  cases r with
  | interfaceCode =>
    by_cases same : j = i
    · subst same
      have kept := setStorageOpen_keeps (area.functions.get j) (value &&& storageEnabled != 0)
      dsimp only
      rw [functionByte_setFunction]
      cases q with
      | interfaceCode => exact absurd (.self rfl) apart
      | extendedInterfaceCode => exact kept.1
      | storagePointer k =>
        rw [functionByte_storagePointer]
        exact congrArg (Word.byte · k) kept.2
      | _ => rfl
    · exact functionByte_setFunction_of_ne same ..
  | storagePointer k =>
    by_cases same : j = i
    · subst same
      dsimp only
      rw [functionByte_setFunction]
      cases q with
      | storagePointer l =>
        have other : ¬ l.val = k.val := by
          intro same
          obtain rfl := Fin.ext same
          exact apart (.self rfl)
        dsimp only
        rw [functionByte_storagePointer, Word.byte_setByte _ _ _ _ (by omega), if_neg other]
        rfl
      | _ => rfl
    · exact functionByte_setFunction_of_ne same ..
  | blockLength k =>
    cases q with
    | blockLength l =>
      dsimp only
      rw [functionByte_blockLength, functionByte_blockLength, byte_setBlockLengthByte, if_neg]
      rintro ⟨same, rfl⟩
      obtain rfl := Fin.succ_inj.mp same
      exact apart (.self rfl)
    | tuplePointer | storagePointer =>
      unfold functionByte
      rw [FunctionRegister.ofOffset?_offset]
      rfl
    | _ => rfl
  | _ => exact functionByte_congr area _ rfl rfl (fun _ => rfl) _

/-- **A write leaves alone** every register that the written one does not reach. -/
theorem shows_stored {r q : Register} (apart : ¬ r.Reaches q) (area : CommonArea) (value : UInt8) :
    (area.stored value r).shows q = area.shows q := by
  cases r with
  | common r =>
    cases q with
    | common q => exact readCommon_writeCommon apart area value
    | function j q => exact functionByte_writeCommon area r value j q.offset
  | function i r =>
    unfold stored
    dsimp only
    split
    next window =>
      obtain rfl := eq_storageWindow_of_opens window
      cases q with
      | common q => rfl
      | function j q => exact functionByte_stepStorage apart area
    next =>
      cases q with
      | common q => exact readCommon_writeFunctionRegister apart area value
      | function j q => exact functionByte_writeFunctionRegister apart area value

/-! ## What a written register shows -/

/-- A byte has one bit or it has not. -/
theorem and_bit {bit : UInt8} {i : Nat} (single : bit.toBitVec = BitVec.twoPow 8 i)
    (value : UInt8) : value &&& bit = 0 ∨ value &&& bit = bit := by
  have masked := BitVec.and_twoPow value.toBitVec i
  rw [← single] at masked
  split at masked
  · exact .inr (UInt8.toBitVec_inj.mp masked)
  · exact .inl (UInt8.toBitVec_inj.mp masked)

theorem implementedMask_eq (area : CommonArea) :
    area.implementedMask = UInt8.ofNat (2 ^ (area.functionCount.val + 1) - 2) := by
  have all : ∀ count : Fin 8,
      UInt8.ofNat ((1 <<< count.val - 1) * 2) = UInt8.ofNat (2 ^ (count.val + 1) - 2) := by decide
  exact all area.functionCount

/-- What a switch has enabled stays enabled. -/
theorem switchRegister_or (enabled : Bool) (value : UInt8) :
    switchRegister (enabled || value &&& enabledBit != 0) =
      switchRegister enabled ||| value &&& 0x02 := by
  have bit : value &&& 0x02 = 0 ∨ value &&& 0x02 = 0x02 := and_bit (i := 1) rfl value
  unfold enabledBit
  rcases bit with clear | set
  · rw [clear]
    cases enabled <;> rfl
  · rw [set]
    cases enabled <;> rfl

theorem capability_eq (value : UInt8) :
    (if value &&& multiBlockInterruptBit != 0 then fixedCapability ||| multiBlockInterruptBit
      else fixedCapability) = 0x13 ||| value &&& 0x20 := by
  have bit : value &&& 0x20 = 0 ∨ value &&& 0x20 = 0x20 := and_bit (i := 5) rfl value
  unfold multiBlockInterruptBit
  rcases bit with clear | set
  · rw [clear]
    rfl
  · rw [set]
    rfl

/-- Storage is opened as the host asks, if there is any. -/
theorem interfaceCode_setStorageOpen (f : FunctionState) (value : UInt8) :
    (f.setStorageOpen (value &&& storageEnabled != 0)).interfaceCode =
      if f.interfaceCode &&& 0x40 = 0 then f.interfaceCode &&& 0x7f
      else f.interfaceCode &&& 0x7f ||| value &&& 0x80 := by
  have bit : value &&& 0x80 = 0 ∨ value &&& 0x80 = 0x80 := and_bit (i := 7) rfl value
  have opened : f.interfaceCode ||| 0x80 = f.interfaceCode &&& 0x7f ||| 0x80 := by
    refine eq_of_bitSet fun i => ?_
    show _ = bitSet (f.interfaceCode &&& ~~~0x80 ||| 0x80) i
    rw [bitSet_or, bitSet_or, bitSet_andNot]
    cases bitSet 0x80 i <;> simp
  unfold FunctionState.setStorageOpen storageEnabled storageSupported
  by_cases supported : f.interfaceCode &&& 0x40 = 0
  · rw [supported, if_pos rfl, if_neg (by simp)]
    rfl
  · rw [if_neg supported]
    rcases bit with clear | set
    · rw [clear, if_neg (by simp), UInt8.or_zero]
      rfl
    · rw [set, if_pos (by simpa using supported)]
      exact opened

theorem Register.reaches_self_iff (r : Register) : r.Reaches r ↔ r.isWritable = true := by
  constructor
  · intro reaches
    cases reaches with
    | self writable => exact writable
  · exact .self

theorem Register.readBack_of_not_writable {r : Register} (fixed : ¬ r.isWritable = true)
    (count : Fin 8) (old value : UInt8) : r.readBack count old value = old := by
  unfold readBack
  split
  case h_11 => rfl
  all_goals exact absurd rfl fixed

/-- **A written register reads back** what it keeps of the byte. -/
theorem shows_stored_self {r : Register} (plain : r.isWindow = false) (area : CommonArea)
    (value : UInt8) :
    (area.stored value r).shows r = r.readBack area.functionCount (area.shows r) value := by
  by_cases writable : r.isWritable = true
  · cases r with
    | common r =>
      show (area.writeCommon r.offset value).2.readCommon r.offset = _
      unfold readCommon writeCommon
      rw [r.ofOffset?_offset]
      cases r with
      | ioEnable => exact congrArg (value &&& ·) area.implementedMask_eq
      | interruptEnable => rfl
      | busControl => rfl
      | capability => exact capability_eq value
      | blockLength i =>
        exact (byte_setBlockLengthByte area 0 0 i i value).trans (if_pos ⟨rfl, rfl⟩)
      | powerControl => exact switchRegister_or area.powerControl value
      | highSpeed => exact switchRegister_or area.highSpeed value
      | _ => cases writable
    | function i r =>
      show (if area.opensWindow i r.offset then area.setFunction i (area.functions.get i).stepStorage
        else area.writeFunctionRegister i r.offset value).functionByte i r.offset = _
      rw [if_neg (not_opensWindow_of_plain area i plain)]
      unfold writeFunctionRegister
      rw [r.ofOffset?_offset]
      cases r with
      | interfaceCode =>
        dsimp only
        rw [functionByte_setFunction]
        exact interfaceCode_setStorageOpen (area.functions.get i) value
      | storagePointer j =>
        dsimp only
        rw [functionByte_setFunction]
        exact (Word.byte_setByte _ _ _ _ (by omega)).trans (if_pos rfl)
      | blockLength j =>
        dsimp only
        rw [functionByte_blockLength]
        exact (byte_setBlockLengthByte area i.succ i.succ j j value).trans (if_pos ⟨rfl, rfl⟩)
      | _ => cases writable
  · rw [shows_stored (mt r.reaches_self_iff.mp writable), Register.readBack_of_not_writable writable]

end CommonArea

/-! ## What a read leaves alone -/

/-- A function after reads of its storage window: if that is open, the pointer has moved on by as
many. -/
def FunctionState.afterReads (f : FunctionState) (count : Nat) : FunctionState :=
  if f.storageOpen then { f with storagePointer := f.storagePointer + BitVec.ofNat 24 count } else f

theorem FunctionState.afterReads_zero (f : FunctionState) : f.afterReads 0 = f := by
  unfold afterReads
  split
  · rw [BitVec.add_zero]
  · rfl

theorem FunctionState.afterReads_one (f : FunctionState) :
    f.afterReads 1 = if f.storageOpen then f.stepStorage else f := rfl

theorem FunctionState.afterReads_add (f : FunctionState) (first rest : Nat) :
    (f.afterReads first).afterReads rest = f.afterReads (first + rest) := by
  by_cases isOpen : f.storageOpen = true
  · unfold afterReads
    rw [if_pos isOpen, if_pos isOpen, BitVec.ofNat_add, ← BitVec.add_assoc]
    exact if_pos isOpen
  · unfold afterReads
    rw [if_neg isOpen, if_neg isOpen, if_neg isOpen]

namespace CommonArea

variable {σ : Type}

/-- The registers after as many reads of each storage window. -/
def afterReads (area : CommonArea) (count : Fin 7 → Nat) : CommonArea :=
  { area with functions := .ofFn fun i => (area.functions.get i).afterReads (count i) }

theorem functions_afterReads (area : CommonArea) (count : Fin 7 → Nat) (i : Fin 7) :
    (area.afterReads count).functions.get i = (area.functions.get i).afterReads (count i) :=
  Vector.getElem_ofFn ..

/-- Registers that differ in the states of functions at most are the same if those are. -/
theorem eq_of_functions {area : CommonArea} {functions others : Vector FunctionState 7}
    (same : ∀ i : Fin 7, functions.get i = others.get i) :
    ({ area with functions := functions } : CommonArea) = { area with functions := others } := by
  have equal : functions = others := Vector.ext fun i below => same ⟨i, below⟩
  rw [equal]

theorem afterReads_zero (area : CommonArea) : area.afterReads (fun _ => 0) = area := by
  refine eq_of_functions fun i => ?_
  exact (functions_afterReads area _ i).trans (FunctionState.afterReads_zero _)

theorem afterReads_add (area : CommonArea) (first rest : Fin 7 → Nat) :
    (area.afterReads first).afterReads rest = area.afterReads fun i => first i + rest i := by
  refine eq_of_functions fun i => ?_
  have once := functions_afterReads area first i
  have twice := functions_afterReads (area.afterReads first) rest i
  rw [once, FunctionState.afterReads_add] at twice
  exact twice.trans (functions_afterReads area (fun i => first i + rest i) i).symm

/-- How many bytes of a read come through the storage window of function `i + 1`. -/
def windowReads (how : Addressing) (address length : Nat) (i : Fin 7) : Nat :=
  (List.range length).countP fun k =>
    address + k * how.stride.toNat = (Register.function i .storageWindow).address

theorem windowReads_succ (how : Addressing) (address length : Nat) (i : Fin 7) :
    windowReads how address (length + 1) i =
      windowReads how address 1 i + windowReads how (address + how.stride.toNat) length i := by
  unfold windowReads
  rw [Nat.add_comm length 1, List.range_add, List.countP_append, List.countP_map]
  refine congrArg _ (List.countP_congr fun k _ => ?_)
  simp only [Function.comp, Nat.add_mul, Nat.one_mul, Nat.add_assoc]

theorem windowReads_one (how : Addressing) (address : Nat) (i : Fin 7) :
    windowReads how address 1 i =
      if address = (Register.function i .storageWindow).address then 1 else 0 := by
  unfold windowReads
  rw [List.range_one, List.countP_singleton, Nat.zero_mul, Nat.add_zero]
  simp only [decide_eq_true_eq]

/-- A read through a storage window moves the pointer beside it, if the window is open. -/
theorem readByte_window (fs : Functions σ) (area : CommonArea) (s : σ) (i : Fin 7) :
    (area.readByte fs (Register.function i .storageWindow).address s).2.1 =
      area.setFunction i ((area.functions.get i).afterReads 1) := by
  unfold readByte
  rw [Register.ofAddress_address, FunctionState.afterReads_one]
  dsimp only [Register.region]
  unfold readFunction
  by_cases isOpen : (area.functions.get i).storageOpen = true
  · have window : area.opensWindow i FunctionRegister.storageWindow.offset = true :=
      (opensWindow_iff ..).mpr ⟨rfl, isOpen⟩
    rw [if_pos window, if_pos isOpen]
    rfl
  · have closed : ¬ area.opensWindow i FunctionRegister.storageWindow.offset = true :=
      fun window => isOpen ((opensWindow_iff ..).mp window).2
    rw [if_neg closed, if_neg isOpen]
    refine eq_of_functions fun j => ?_
    refine .trans ?_ (functions_setFunction area i j (area.functions.get i)).symm
    split
    next same => rw [same]
    next => rfl

/-- One byte read moves the pointer of the window that it is read through, if any. -/
theorem readByte_afterReads (fs : Functions σ) (how : Addressing) (area : CommonArea) (s : σ)
    (address : Nat) :
    (area.readByte fs address s).2.1 = area.afterReads (windowReads how address 1) := by
  have unmoved (elsewhere : ∀ i, address ≠ (Register.function i .storageWindow).address) :
      area.afterReads (windowReads how address 1) = area := by
    have none : windowReads how address 1 = fun _ => 0 := by
      funext i
      rw [windowReads_one, if_neg (elsewhere i)]
    rw [none, afterReads_zero]
  cases found : Register.ofAddress? address with
  | none =>
    have elsewhere : ∀ i, address ≠ (Register.function i .storageWindow).address := by
      rintro i rfl
      rw [Register.ofAddress?_address] at found
      cases found
    rw [unmoved elsewhere, readByte_of_none fs area s found]
  | some r =>
    obtain rfl := Register.address_of_ofAddress? found
    by_cases window : r.isWindow = true
    · obtain ⟨i, rfl⟩ := Register.isWindow_iff.mp window
      rw [readByte_window]
      refine eq_of_functions fun j => ?_
      refine (functions_setFunction area i j _).trans ?_
      refine .trans ?_ (functions_afterReads area _ j).symm
      rw [windowReads_one]
      by_cases same : j = i
      · rw [if_pos same, if_pos (by rw [same]), same]
      · have elsewhere : (Register.function i .storageWindow).address ≠
            (Register.function j .storageWindow).address := by
          intro equal
          cases Register.address_inj.mp equal
          exact same rfl
        rw [if_neg same, if_neg elsewhere, FunctionState.afterReads_zero]
    · have plain := Bool.eq_false_iff.mpr window
      have elsewhere : ∀ i, r.address ≠ (Register.function i .storageWindow).address := by
        intro i same
        obtain rfl := Register.address_inj.mp same
        exact window rfl
      rw [unmoved elsewhere, readByte_at fs area s plain]

/-- **A read leaves everything alone** but the pointers of the open windows that it goes through. -/
theorem read_afterReads (fs : Functions σ) (how : Addressing) (address length : Nat)
    (area : CommonArea) (s : σ) :
    (read fs how address length area s).2.1 = area.afterReads (windowReads how address length) := by
  rw [read_eq_readEach]
  induction length generalizing address area s with
  | zero => exact area.afterReads_zero.symm
  | succ length ih =>
    unfold readEach
    dsimp only
    rw [ih, read_one]
    dsimp only
    rw [readByte_afterReads fs how, afterReads_add]
    exact congrArg area.afterReads (funext fun i => (windowReads_succ how address length i).symm)

/-! ## Writes and reads -/

theorem writeByte_behind (fs : Functions σ) (area : CommonArea) (s : σ) {address : Nat}
    (value : UInt8) (behind : registersEnd ≤ address) :
    area.writeByte fs address value s = (.nothing, area, s) := by
  refine writeByte_of_none fs area s value ?_
  unfold Register.ofAddress?
  rw [Region.ofAddress_behind behind]

/-- What an address shows after a write to one that does not reach it. -/
theorem readByte_writeByte (fs : Functions σ) (area : CommonArea) (s : σ) {address other : Nat}
    (value : UInt8) (plain : ∀ q : Register, q.address = other → q.isWindow = false)
    (apart : ∀ r q : Register, r.address = address → q.address = other → ¬ r.Reaches q) :
    let after := (area.writeByte fs address value s).2
    (after.1.readByte fs other after.2).1 = (area.readByte fs other s).1 := by
  intro after
  cases written : Register.ofAddress? address with
  | none =>
    have same : after = (area, s) := congrArg Prod.snd (writeByte_of_none fs area s value written)
    rw [same]
  | some r =>
    obtain rfl := Register.address_of_ofAddress? written
    cases shown : Register.ofAddress? other with
    | none =>
      have kept : after.1.layout = area.layout := (writeByte_keeps fs r.address value area s).layout
      rw [readByte_of_none fs _ _ shown, readByte_of_none fs _ _ shown, kept]
    | some q =>
      obtain rfl := Register.address_of_ofAddress? shown
      have stored : after.1 = area.stored value r := writeByte_at fs area s value r
      rw [readByte_at fs _ _ (plain q rfl), readByte_at fs _ _ (plain q rfl), stored]
      exact shows_stored (apart r q rfl rfl) area value

/-- What a register shows after a write to it. -/
theorem readByte_writeByte_self (fs : Functions σ) (area : CommonArea) (s : σ) {r : Register}
    (value : UInt8) (plain : r.isWindow = false) :
    let after := (area.writeByte fs r.address value s).2
    (after.1.readByte fs r.address after.2).1 =
      r.readBack area.functionCount (area.readByte fs r.address s).1 value := by
  intro after
  have stored : after.1 = area.stored value r := writeByte_at fs area s value r
  rw [readByte_at fs _ _ plain, readByte_at fs _ _ plain, stored]
  exact shows_stored_self plain area value

/-- **The registers of function 0 are independent.** After a byte has been written to an address, every
other shows the same as before, storage windows apart, unless the registers at the two are among the few
where one reaches the other; and the register written to shows what it keeps of the byte. Behind the
registers a write changes nothing. A read changes nothing either, but it moves the storage pointer of a
function on by as many bytes as come through its window, if that is open. -/
theorem registers_independent (fs : Functions σ) (area : CommonArea) (s : σ) (address : Nat)
    (value : UInt8) :
    let after := (area.writeByte fs address value s).2
    (∀ other, (∀ q : Register, q.address = other → q.isWindow = false) →
      (∀ r q : Register, r.address = address → q.address = other → ¬ r.Reaches q) →
      (after.1.readByte fs other after.2).1 = (area.readByte fs other s).1) ∧
    (∀ r : Register, r.address = address → r.isWindow = false →
      (after.1.readByte fs address after.2).1 =
        r.readBack area.functionCount (area.readByte fs address s).1 value) ∧
    (registersEnd ≤ address → area.writeByte fs address value s = (.nothing, area, s)) ∧
    ∀ how start length, (read fs how start length area s).2.1 =
      area.afterReads (windowReads how start length) := by
  intro after
  refine ⟨fun other plain apart => readByte_writeByte fs area s value plain apart, ?_,
    writeByte_behind fs area s value, fun how start length => read_afterReads ..⟩
  rintro r rfl plain
  exact readByte_writeByte_self fs area s value plain

theorem registers_independent_opened :
    let after := (opened.writeByte numbered 0x110 0xff ()).2
    (after.1.readByte numbered 0x10c after.2).1 = (opened.readByte numbered 0x10c ()).1 ∧
      (after.1.readByte numbered 0x110 after.2).1 = 0xff ∧
      opened.writeByte numbered 0x800 0xff () = (.nothing, opened, ()) ∧
      (read numbered .fixed 0x10f 3 opened ()).2.1 =
        opened.afterReads (windowReads .fixed 0x10f 3) := by
  obtain ⟨others, itself, -, reads⟩ := registers_independent numbered opened () 0x110 0xff
  obtain ⟨-, -, behind, -⟩ := registers_independent numbered opened () 0x800 0xff
  have written : (Register.function 0 (.blockLength 0)).address = 0x110 := rfl
  have pointer : (Register.function 0 (.storagePointer 0)).address = 0x10c := rfl
  refine ⟨others 0x10c ?_ ?_, itself _ written rfl, behind (Nat.le_refl _), reads .fixed 0x10f 3⟩
  · intro q here
    obtain rfl := Register.address_inj.mp (here.trans pointer.symm)
    rfl
  · rintro r q there here reaches
    obtain rfl := Register.address_inj.mp (there.trans written.symm)
    obtain rfl := Register.address_inj.mp (here.trans pointer.symm)
    cases reaches

end CommonArea

end WlanCard
