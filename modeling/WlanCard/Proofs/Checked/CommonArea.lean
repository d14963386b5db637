import WlanCard.Proofs.CommonArea.Access
import WlanCard.Proofs.Checked.Fault

/-!
# Function 0 in steps that can fault

Reads and writes of function 0 as they go by the numbers: pages and offsets cut out of an address,
bytes cut out of words, and a buffer that is filled from one position to the next. The outcome is
that of the total definitions (`checkedRead_eq`, `checkedWriteByte_eq`).

The functions behind the card are reached on the way, and may fault too. `CheckedFunctions.Agrees`
says what is asked of them: that they do not, as long as they can afford it.
-/

namespace WlanCard

variable {σ : Type}

/-- Register access to the functions that a card carries, in steps that can fault. What `Functions`
assumes of a read is assumed here too: only the length of the buffer is known to it. -/
structure CheckedFunctions (σ : Type) where
  reset : σ → Checked σ
  read (f : FunctionNumber) (address : UInt32) (length : Nat) (how : Addressing) (s : σ) :
    Checked (List UInt8 × σ)
  write (f : FunctionNumber) (address : UInt32) (bytes : List UInt8) (how : Addressing) (s : σ) :
    Checked σ
  readStorage : FunctionNumber → StorageAddress → σ → Checked (Option UInt8 × σ) :=
    fun _ _ s => .ok (none, s)
  writeStorage : FunctionNumber → StorageAddress → UInt8 → σ → Checked σ := fun _ _ _ s => .ok s

/-- Functions that do as the total ones do. Resets and written bytes use them up: `afford k` says of
their state that there is room for `k` more. -/
structure CheckedFunctions.Agrees (cf : CheckedFunctions σ) (fs : Functions σ)
    (afford : Nat → σ → Prop) : Prop where
  less {j k : Nat} {s : σ} (le : j ≤ k) (room : afford k s) : afford j s
  reset {k : Nat} {s : σ} (room : afford (k + 1) s) :
    cf.reset s = .ok (fs.reset s) ∧ afford k (fs.reset s)
  read {k : Nat} {s : σ} (f : FunctionNumber) (address : UInt32) (length : Nat) (how : Addressing)
    (room : afford k s) :
    cf.read f address length how s = .ok (fs.read f address length how s) ∧
      afford k (fs.read f address length how s).2
  write {k : Nat} {s : σ} (f : FunctionNumber) (address : UInt32) (bytes : List UInt8)
    (how : Addressing) (room : afford (k + bytes.length) s) :
    cf.write f address bytes how s = .ok (fs.write f address bytes how s) ∧
      afford k (fs.write f address bytes how s)
  readStorage {k : Nat} {s : σ} (f : FunctionNumber) (address : StorageAddress) (room : afford k s) :
    cf.readStorage f address s = .ok (fs.readStorage f address s) ∧
      afford k (fs.readStorage f address s).2
  writeStorage {k : Nat} {s : σ} (f : FunctionNumber) (address : StorageAddress) (value : UInt8)
    (room : afford k s) :
    cf.writeStorage f address value s = .ok (fs.writeStorage f address value s) ∧
      afford k (fs.writeStorage f address value s)

/-- A layout whose tuples have addresses. -/
def Layout.Addressable (layout : Layout) : Prop :=
  ∀ i : Fin 7, CommonArea.tuplesStart + (layout.functions.get i).tupleOffset.toNat < 2 ^ 32

namespace CommonArea

open Checked

/-! ## Registers -/

/-- The byte that a common control register shows. A pointer is cut into bytes; every other register
shows what it holds. -/
def checkedReadCommon (area : CommonArea) (offset : Nat) : Checked UInt8 :=
  match CommonRegister.ofOffset? offset with
  | some (.tuplePointer _) => byteAt tuplesStart 0x09 offset
  | _ => .ok (area.readCommon offset)

/-- The storage pointer after one access through its window. -/
def checkedStepStorage (f : FunctionState) : Checked FunctionState := do
  let next ← add 32 f.storagePointer.toNat 1
  return { f with storagePointer := BitVec.ofNat 24 next }

/-- Reads a basic register of the function whose page it is. -/
def checkedReadFunction (cf : CheckedFunctions σ) (page offset : Nat) (area : CommonArea) (s : σ) :
    Checked (UInt8 × CommonArea × σ) := do
  let below ← sub page 1
  let i ← index 7 below
  match FunctionRegister.ofOffset? offset with
  | some (.tuplePointer _) =>
    let pointer ← add 32 tuplesStart (area.layout.functions.get i).tupleOffset.toNat
    let byte ← byteAt pointer 0x09 offset
    return (byte, area, s)
  | some (.storagePointer _) =>
    let byte ← byteAt (area.functions.get i).storagePointer.toNat 0x0c offset
    return (byte, area, s)
  | some .storageWindow =>
    if (area.functions.get i).storageOpen then
      let number ← index 8 page
      let answer ← cf.readStorage number (area.functions.get i).storagePointer s
      let stepped ← checkedStepStorage (area.functions.get i)
      return (answer.1.getD 0, area.setFunction i stepped, answer.2)
    else return (0, area, s)
  | some (.blockLength j) =>
    let number ← index 8 page
    return (Word.byte (area.blockLengths.get number) j, area, s)
  | _ => return (area.functionByte i offset, area, s)

/-- The area after a write to a common control register, and what the card has to do then. The bits of
the implemented functions are made anew from their number. -/
def checkedWriteCommonRegister (area : CommonArea) (offset : Nat) (value : UInt8) :
    Checked (Effect × CommonArea) :=
  match CommonRegister.ofOffset? offset with
  | some .ioEnable => do
    let above ← shiftLeft 8 1 area.functionCount
    let ones ← sub above 1
    return (.nothing, { area with ioEnable := value &&& UInt8.ofNat (ones * 2) })
  | _ => .ok (area.writeCommon offset value)

/-- Writes a basic register of the function whose page it is. -/
def checkedWriteFunction (cf : CheckedFunctions σ) (page offset : Nat) (value : UInt8)
    (area : CommonArea) (s : σ) : Checked (CommonArea × σ) := do
  let below ← sub page 1
  let i ← index 7 below
  match FunctionRegister.ofOffset? offset with
  | some (.storagePointer _) =>
    let pointer ← storeByte (area.functions.get i).storagePointer 0x0c offset value
    return (area.setFunction i { area.functions.get i with storagePointer := pointer }, s)
  | some .storageWindow =>
    if (area.functions.get i).storageOpen then
      let number ← index 8 page
      let written ← cf.writeStorage number (area.functions.get i).storagePointer value s
      let stepped ← checkedStepStorage (area.functions.get i)
      return (area.setFunction i stepped, written)
    else return (area, s)
  | some (.blockLength j) =>
    let number ← index 8 page
    return (area.setBlockLengthByte number j value, s)
  | _ => return (area.writeFunctionRegister i offset value, s)

/-- Writes one byte of function 0. -/
def checkedWriteByte (cf : CheckedFunctions σ) (address : Nat) (value : UInt8) (area : CommonArea)
    (s : σ) : Checked (Effect × CommonArea × σ) :=
  if address < commonEnd then do
    let answer ← area.checkedWriteCommonRegister address value
    return (answer.1, answer.2, s)
  else if address < registersEnd then do
    let answer ← area.checkedWriteFunction cf (address >>> 8) (address % commonEnd) value s
    return (.nothing, answer)
  else .ok (.nothing, area, s)

/-! ## Reads of several bytes -/

/-- A read that has filled its buffer up to a position. -/
structure Reading (σ : Type) where
  buffer : List UInt8
  position : Nat
  address : UInt32
  area : CommonArea
  device : σ

/-- Reads registers one by one, at most `left` of them, while the address lies below an end. -/
def Reading.registers (one : UInt32 → CommonArea → σ → Checked (UInt8 × CommonArea × σ))
    (below : Nat) (stride : UInt32) : (left : Nat) → Reading σ → Checked (Reading σ)
  | 0, r => .ok r
  | left + 1, r =>
    if r.address.toNat < below then do
      let answer ← one r.address r.area r.device
      let buffer ← set r.buffer r.position answer.1
      let position ← add 64 r.position 1
      Reading.registers one below stride left
        ⟨buffer, position, r.address + stride, answer.2.1, answer.2.2⟩
    else .ok r

/-- How much of the gap in front of the tuples a read of `left` more bytes goes over. -/
def checkedGapLength (left address : Nat) : Addressing → Checked Nat
  | .fixed => .ok left
  | .incrementing => do
    let ahead ← sub tuplesStart address
    return min left ahead

/-- Fills a buffer from a position on with what is left of the gap in front of the tuples. -/
def checkedGap (how : Addressing) (buffer : List UInt8) (position address : Nat) :
    Checked (List UInt8 × Nat × Nat) :=
  if position < buffer.length ∧ address < tuplesStart then do
    let left ← sub buffer.length position
    let gap ← checkedGapLength left address how
    let stop ← add 64 position gap
    let buffer ← overwrite buffer position stop (List.replicate gap 0)
    return (buffer, stop, tuplesStart)
  else .ok (buffer, position, address)

/-- Fills a buffer from a position to its end with one byte. -/
def checkedFill (buffer : List UInt8) (position : Nat) (byte : UInt8) : Checked (List UInt8) := do
  let left ← sub buffer.length position
  overwrite buffer position buffer.length (List.replicate left byte)

/-- Fills a buffer from a position on with tuples, as far as there are any. -/
def checkedTuples (layout : Layout) (how : Addressing) (buffer : List UInt8)
    (position address : Nat) : Checked (List UInt8 × Nat) :=
  let tuples := layout.tuples.toList.drop (address - tuplesStart)
  if position < buffer.length ∧ tuplesStart ≤ address ∧ tuples ≠ [] then
    match how with
    | .fixed => do
      let byte ← get tuples 0
      let buffer ← checkedFill buffer position byte
      return (buffer, buffer.length)
    | .incrementing => do
      let left ← sub buffer.length position
      let stop ← add 64 position (min left tuples.length)
      let source ← slice tuples 0 (min left tuples.length)
      let buffer ← overwrite buffer position stop source
      return (buffer, stop)
  else .ok (buffer, position)

/-- Fills a buffer from a position on with memory: the gap, the tuples, and zeros behind them. -/
def checkedMemory (layout : Layout) (how : Addressing) (buffer : List UInt8)
    (position address : Nat) : Checked (List UInt8) := do
  let (buffer, position, address) ← checkedGap how buffer position address
  let (buffer, position) ← checkedTuples layout how buffer position address
  checkedFill buffer position 0

/-- Reads one common control register. -/
def checkedCommonByte (address : UInt32) (area : CommonArea) (s : σ) :
    Checked (UInt8 × CommonArea × σ) := do
  let byte ← area.checkedReadCommon address.toNat
  return (byte, area, s)

/-- Reads one basic register, the page and the offset of which are cut out of the address. -/
def checkedFunctionByte (cf : CheckedFunctions σ) (address : UInt32) (area : CommonArea) (s : σ) :
    Checked (UInt8 × CommonArea × σ) :=
  area.checkedReadFunction cf (address.toNat >>> 8) (address.toNat % commonEnd) s

/-- Fills a buffer with bytes of function 0: first common control registers, then basic registers of
functions, then memory. -/
def checkedRead (cf : CheckedFunctions σ) (how : Addressing) (address : UInt32)
    (buffer : List UInt8) (area : CommonArea) (s : σ) : Checked (List UInt8 × CommonArea × σ) := do
  let r : Reading σ ← Reading.registers checkedCommonByte commonEnd how.stride buffer.length
    ⟨buffer, 0, address, area, s⟩
  let left ← sub r.buffer.length r.position
  let r ← r.registers (checkedFunctionByte cf) registersEnd how.stride left
  let bytes ← checkedMemory r.area.layout how r.buffer r.position r.address.toNat
  return (bytes, r.area, r.device)

/-! ## Registers without a fault -/

section Agreement

variable {cf : CheckedFunctions σ} {fs : Functions σ} {afford : Nat → σ → Prop}

theorem offset_of_functionRegister {offset : Nat} {r : FunctionRegister}
    (found : FunctionRegister.ofOffset? offset = some r) : offset = r.offset := by
  unfold FunctionRegister.ofOffset? at found
  split at found <;> cases found <;> rfl

/-- A pointer to tuples that have an address is cut into bytes. -/
theorem byteAt_tuplePointer {start : UInt32} (fits : tuplesStart + start.toNat < 2 ^ 32) {offset : Nat}
    {i : Fin 3} (place : offset = 0x09 + i) :
    byteAt (tuplesStart + start.toNat) 0x09 offset = .ok (tuplePointerByte start i) := by
  have word : (UInt32.ofNat tuplesStart + start).toBitVec.toNat = tuplesStart + start.toNat := by
    rw [UInt32.toNat_toBitVec, UInt32.toNat_add]
    exact Nat.mod_eq_of_lt fits
  rw [← word]
  exact byteAt_eq _ place (by omega)

theorem checkedReadCommon_eq (area : CommonArea) (offset : Nat) :
    area.checkedReadCommon offset = .ok (area.readCommon offset) := by
  unfold checkedReadCommon
  split
  next i found =>
    have place := (ofOffset?_eq_some_iff ..).mp found
    have same : area.readCommon offset = tuplePointerByte 0 i := by
      unfold readCommon
      rw [found]
    rw [same]
    exact byteAt_tuplePointer (show tuplesStart + (0 : UInt32).toNat < 2 ^ 32 by decide) place
  · rfl

theorem checkedStepStorage_eq (f : FunctionState) : checkedStepStorage f = .ok f.stepStorage := by
  have bound := f.storagePointer.isLt
  refine ok_bind (add_eq (by omega)) ?_
  have next : BitVec.ofNat 24 (f.storagePointer.toNat + 1) = f.storagePointer + 1 := by
    apply BitVec.eq_of_toNat_eq
    rw [BitVec.toNat_ofNat, BitVec.toNat_add]
    rfl
  rw [next]
  rfl

/-- An open storage window: the register there is one, and the function has opened it. -/
theorem opensWindow_iff (area : CommonArea) (i : Fin 7) (offset : Nat) :
    area.opensWindow i offset = true ↔
      FunctionRegister.ofOffset? offset = some .storageWindow ∧
        (area.functions.get i).storageOpen = true := by
  simp only [opensWindow, Bool.and_eq_true, decide_eq_true_eq]
  rfl

theorem closed_of_not_opensWindow {area : CommonArea} {i : Fin 7} {offset : Nat}
    (found : FunctionRegister.ofOffset? offset = some .storageWindow)
    (window : ¬area.opensWindow i offset = true) :
    (area.functions.get i).storageOpen = false :=
  Bool.eq_false_iff.mpr fun isOpen => window ((opensWindow_iff ..).mpr ⟨found, isOpen⟩)

/-- A page has the state of its function one place below it, and its function's own number. -/
theorem page_indices (i : Fin 7) :
    sub (i.val + 1) 1 = .ok i.val ∧ index 7 i.val = .ok i ∧ index 8 (i.val + 1) = .ok i.succ :=
  ⟨sub_eq (by omega), index_eq rfl, index_eq rfl⟩

theorem checkedReadFunction_eq (agrees : cf.Agrees fs afford) {area : CommonArea}
    (fits : area.layout.Addressable) (i : Fin 7) (offset : Nat) {k : Nat} {s : σ}
    (room : afford k s) :
    area.checkedReadFunction cf (i + 1) offset s = .ok (area.readFunction fs i offset s) ∧
      afford k (area.readFunction fs i offset s).2.2 := by
  obtain ⟨below, table, number⟩ := page_indices i
  unfold readFunction
  split
  next window =>
    obtain ⟨found, isOpen⟩ := (opensWindow_iff ..).mp window
    obtain ⟨read, left⟩ := agrees.readStorage i.succ (area.functions.get i).storagePointer room
    refine ⟨ok_bind below (ok_bind table ?_), left⟩
    simp only [found, isOpen, ↓reduceIte]
    exact ok_bind number (ok_bind read (ok_bind (checkedStepStorage_eq _) rfl))
  next window =>
    refine ⟨ok_bind below (ok_bind table ?_), room⟩
    unfold functionByte
    split
    next j found =>
      rw [found]
      exact ok_bind (add_eq (fits i))
        (ok_bind (byteAt_tuplePointer (fits i) (offset_of_functionRegister found)) rfl)
    next j found =>
      rw [found]
      exact ok_bind (byteAt_eq _ (offset_of_functionRegister found) (by omega)) rfl
    next found =>
      rw [found]
      simp only [closed_of_not_opensWindow found window, Bool.false_eq_true, ↓reduceIte]
      rfl
    next j found =>
      rw [found]
      exact ok_bind number rfl
    · rfl

theorem checkedWriteCommonRegister_eq (area : CommonArea) (offset : Nat) (value : UInt8) :
    area.checkedWriteCommonRegister offset value = .ok (area.writeCommon offset value) := by
  unfold checkedWriteCommonRegister
  split
  next found =>
    have few := area.functionCount.isLt
    have above : 1 <<< area.functionCount.val < 2 ^ 8 := by
      rw [Nat.one_shiftLeft]
      exact Nat.pow_lt_pow_right (by decide) few
    refine ok_bind (shiftLeft_eq few) ?_
    rw [Nat.mod_eq_of_lt above]
    refine ok_bind (sub_eq ?_) ?_
    · rw [Nat.one_shiftLeft]
      exact Nat.one_le_two_pow
    · unfold writeCommon
      rw [found]
      rfl
  · rfl

theorem checkedWriteFunction_eq (agrees : cf.Agrees fs afford) (area : CommonArea) (i : Fin 7)
    (offset : Nat) (value : UInt8) {k : Nat} {s : σ} (room : afford k s) :
    area.checkedWriteFunction cf (i + 1) offset value s =
        .ok (area.writeFunction fs i offset value s) ∧
      afford k (area.writeFunction fs i offset value s).2 := by
  obtain ⟨below, table, number⟩ := page_indices i
  unfold writeFunction
  split
  next window =>
    obtain ⟨found, isOpen⟩ := (opensWindow_iff ..).mp window
    obtain ⟨written, left⟩ := agrees.writeStorage i.succ (area.functions.get i).storagePointer value room
    refine ⟨ok_bind below (ok_bind table ?_), left⟩
    simp only [found, isOpen, ↓reduceIte]
    exact ok_bind number (ok_bind written (ok_bind (checkedStepStorage_eq _) rfl))
  next window =>
    refine ⟨ok_bind below (ok_bind table ?_), room⟩
    unfold writeFunctionRegister
    split
    next j found =>
      rw [found]
      exact ok_bind (storeByte_eq _ (offset_of_functionRegister found) (by omega) value) rfl
    next found =>
      rw [found]
      simp only [closed_of_not_opensWindow found window, Bool.false_eq_true, ↓reduceIte]
      rfl
    next j found =>
      rw [found]
      exact ok_bind number rfl
    · rfl

/-- The page of an address among the basic registers is that of a function. -/
theorem page_eq {address : Nat} (above : commonEnd ≤ address) (below : address < registersEnd) :
    ∃ i : Fin 7, address >>> 8 = i + 1 ∧
      Region.ofAddress address = .function i (address % commonEnd) := by
  have page : address >>> 8 = address / 256 := Nat.shiftRight_eq_div_pow address 8
  unfold Region.ofAddress
  rw [if_neg (Nat.not_lt.mpr above), dif_pos below]
  refine ⟨_, ?_, rfl⟩
  simp only [commonEnd] at *
  omega

/-- **A byte is written** to function 0 as the total definition has it. -/
theorem checkedWriteByte_eq (agrees : cf.Agrees fs afford) (address : Nat) (value : UInt8)
    (area : CommonArea) {k : Nat} {s : σ} (room : afford k s) :
    area.checkedWriteByte cf address value s = .ok (area.writeByte fs address value s) ∧
      afford k (area.writeByte fs address value s).2.2 := by
  unfold checkedWriteByte
  split
  next low =>
    have region : Region.ofAddress address = .common address := if_pos low
    unfold writeByte
    rw [region]
    exact ⟨ok_bind (checkedWriteCommonRegister_eq ..) rfl, room⟩
  next high =>
    split
    next below =>
      obtain ⟨i, page, region⟩ := page_eq (Nat.not_lt.mp high) below
      obtain ⟨written, left⟩ := checkedWriteFunction_eq agrees area i (address % commonEnd) value room
      unfold writeByte
      rw [page, region]
      exact ⟨ok_bind written rfl, left⟩
    next above =>
      have region : Region.ofAddress address = .memory := by
        unfold Region.ofAddress
        rw [if_neg high, dif_neg above]
      unfold writeByte
      rw [region]
      exact ⟨rfl, room⟩

/-! ## Memory without a fault -/

theorem checkedFill_eq (done rest : List UInt8) (byte : UInt8) :
    checkedFill (done ++ rest) done.length byte =
      .ok (done ++ List.replicate rest.length byte) := by
  have total : (done ++ rest).length = done.length + rest.length := List.length_append
  refine ok_bind (sub_eq (by omega)) ?_
  rw [total, Nat.add_sub_cancel_left,
    overwrite_append rfl (by rw [List.length_replicate])
      (Nat.le_of_eq List.length_replicate)]
  rw [List.length_replicate, List.drop_length, List.append_nil]

/-- An incrementing read goes over the gap, as far as it reaches. -/
theorem checkedGap_incrementing {done rest : List UInt8} {address : Nat} (more : rest ≠ [])
    (short : (done ++ rest).length < 2 ^ 64) :
    let gap := min rest.length (tuplesStart - address)
    checkedGap .incrementing (done ++ rest) done.length address =
      .ok (done ++ List.replicate gap 0 ++ rest.drop gap, (done ++ List.replicate gap 0).length,
        max address tuplesStart) := by
  intro gap
  have total : (done ++ rest).length = done.length + rest.length := List.length_append
  have pos := List.length_pos_iff.mpr more
  have within : gap ≤ rest.length := Nat.min_le_left ..
  have size : (List.replicate gap (0 : UInt8)).length = gap := List.length_replicate
  rw [List.length_append, size]
  unfold checkedGap
  by_cases before : address < tuplesStart
  · rw [if_pos ⟨by omega, before⟩, Nat.max_eq_right (Nat.le_of_lt before)]
    refine ok_bind (sub_eq (by omega)) ?_
    rw [total, Nat.add_sub_cancel_left]
    refine ok_bind (ok_bind (sub_eq (Nat.le_of_lt before)) rfl) ?_
    refine ok_bind (add_eq (show done.length + gap < 2 ^ 64 by omega)) ?_
    refine ok_bind (overwrite_append rfl (by rw [size]) (by rw [size]; exact within)) ?_
    rw [size]
    rfl
  · have no : gap = 0 := by
      show min rest.length (tuplesStart - address) = 0
      omega
    rw [if_neg fun inside => before inside.2, Nat.max_eq_left (Nat.not_lt.mp before), no]
    simp only [List.replicate_zero, List.append_nil, List.drop_zero, Nat.add_zero]

/-- An incrementing read takes tuples, as far as there are any. -/
theorem checkedTuples_incrementing (layout : Layout) {done rest : List UInt8} {address : Nat}
    (above : tuplesStart ≤ address) (short : (done ++ rest).length < 2 ^ 64) :
    let tuples := (layout.tuples.toList.drop (address - tuplesStart)).take rest.length
    checkedTuples layout .incrementing (done ++ rest) done.length address =
      .ok (done ++ tuples ++ rest.drop tuples.length, (done ++ tuples).length) := by
  intro tuples
  have total : (done ++ rest).length = done.length + rest.length := List.length_append
  unfold checkedTuples
  dsimp only
  split
  next taken =>
    let ahead := layout.tuples.toList.drop (address - tuplesStart)
    have size : tuples.length = min rest.length ahead.length := List.length_take
    have source : ahead.extract 0 (min rest.length ahead.length) = tuples := by
      rw [List.extract_eq_take_drop, List.drop_zero, Nat.sub_zero]
      exact List.take_eq_take_iff.mpr (by omega)
    refine ok_bind (sub_eq (by omega)) ?_
    rw [total, Nat.add_sub_cancel_left]
    refine ok_bind (add_eq (show done.length + min rest.length ahead.length < 2 ^ 64 by omega)) ?_
    refine ok_bind (slice_eq (Nat.zero_le _) (Nat.min_le_right ..)) ?_
    refine ok_bind (overwrite_append rfl ?_ ?_) ?_
    · rw [source, size]
    · rw [source, size]
      exact Nat.min_le_left ..
    · rw [source, List.length_append, size]
      rfl
  next none =>
    have nothing : tuples = [] := by
      by_cases more : rest = []
      · show (layout.tuples.toList.drop _).take rest.length = []
        rw [more]
        rfl
      · have some := List.length_pos_iff.mpr more
        have none : layout.tuples.toList.drop (address - tuplesStart) = [] :=
          Decidable.not_not.mp fun there => none ⟨by omega, above, there⟩
        show (layout.tuples.toList.drop _).take rest.length = []
        rw [none, List.take_nil]
    rw [nothing]
    simp only [List.append_nil, List.length_nil, List.drop_zero]

/-! A full buffer is left alone. -/

theorem checkedTuples_full (layout : Layout) (how : Addressing) (done : List UInt8) (address : Nat) :
    checkedTuples layout how done done.length address = .ok (done, done.length) :=
  if_neg fun inside => Nat.lt_irrefl _ inside.1

theorem checkedFill_full (done : List UInt8) (byte : UInt8) :
    checkedFill done done.length byte = .ok done := by
  have filled := checkedFill_eq done [] byte
  rwa [List.append_nil, List.length_nil, List.replicate_zero, List.append_nil] at filled

theorem checkedMemory_full (layout : Layout) (how : Addressing) (done : List UInt8) (address : Nat) :
    checkedMemory layout how done done.length address = .ok done := by
  have gap : checkedGap how done done.length address = .ok (done, done.length, address) :=
    if_neg fun inside => Nat.lt_irrefl _ inside.1
  exact ok_bind gap (ok_bind (checkedTuples_full layout how done address) (checkedFill_full done 0))

theorem checkedMemory_incrementing (layout : Layout) {done rest : List UInt8} {address : Nat}
    (more : rest ≠ []) (short : (done ++ rest).length < 2 ^ 64) :
    checkedMemory layout .incrementing (done ++ rest) done.length address =
      .ok (done ++ layout.memoryRun address rest.length .incrementing) := by
  let gap := min rest.length (tuplesStart - address)
  let passed := done ++ List.replicate gap 0
  let tuples := (layout.tuples.toList.drop (max address tuplesStart - tuplesStart)).take
    (rest.drop gap).length
  have left : (rest.drop gap).length = rest.length - gap := List.length_drop
  have reached : (passed ++ rest.drop gap).length < 2 ^ 64 := by
    have total : (done ++ rest).length = done.length + rest.length := List.length_append
    have within : gap ≤ rest.length := Nat.min_le_left ..
    simp only [passed, List.length_append, List.length_replicate, List.length_drop]
    omega
  refine ok_bind (checkedGap_incrementing more short) ?_
  refine ok_bind (checkedTuples_incrementing layout (Nat.le_max_right ..) reached) ?_
  refine (checkedFill_eq (passed ++ tuples) ((rest.drop gap).drop tuples.length) 0).trans ?_
  let start := address + gap - tuplesStart
  have same : (layout.tuples.extract start (start + (rest.length - gap))).toList = tuples := by
    show _ = List.take (rest.drop gap).length _
    rw [Array.toList_extract, List.extract_eq_take_drop, Nat.add_sub_cancel_left, left]
    by_cases behind : rest.length ≤ tuplesStart - address
    · have all : gap = rest.length := Nat.min_eq_left behind
      rw [all, Nat.sub_self, List.take_zero, List.take_zero]
    · have whole : gap = tuplesStart - address := Nat.min_eq_right (Nat.le_of_not_le behind)
      have begins : start = max address tuplesStart - tuplesStart := by
        show address + gap - tuplesStart = _
        omega
      rw [begins]
  show _ = Except.ok (done ++ (List.replicate gap 0
    ++ (layout.tuples.extract start (start + (rest.length - gap))).toList
    ++ List.replicate (rest.length - gap
      - (layout.tuples.extract start (start + (rest.length - gap))).toList.length) 0))
  rw [same, List.length_drop, left]
  simp only [passed, List.append_assoc]

/-- A read of one address gives the byte there as often as it is asked for. -/
theorem checkedMemory_fixed (layout : Layout) {done rest : List UInt8} {address : Nat}
    (more : rest ≠ []) (short : (done ++ rest).length < 2 ^ 64) :
    checkedMemory layout .fixed (done ++ rest) done.length address =
      .ok (done ++ layout.memoryRun address rest.length .fixed) := by
  have total : (done ++ rest).length = done.length + rest.length := List.length_append
  have pos := List.length_pos_iff.mpr more
  let byte := layout.memoryByte address
  let full := done ++ List.replicate rest.length byte
  have size : full.length = done.length + rest.length := by
    rw [List.length_append, List.length_replicate]
  show _ = Except.ok full
  by_cases before : address < tuplesStart
  · have zero : byte = 0 := if_pos before
    have gap : checkedGap .fixed (done ++ rest) done.length address =
        .ok (full, full.length, tuplesStart) := by
      unfold checkedGap
      rw [if_pos ⟨by omega, before⟩]
      refine ok_bind (sub_eq (by omega)) ?_
      rw [total, Nat.add_sub_cancel_left]
      refine ok_bind (show checkedGapLength rest.length address .fixed = .ok rest.length from rfl) ?_
      refine ok_bind (add_eq (show done.length + rest.length < 2 ^ 64 by omega)) ?_
      refine ok_bind (overwrite_append rfl (by rw [List.length_replicate])
        (Nat.le_of_eq List.length_replicate)) ?_
      rw [List.length_replicate, List.drop_length, List.append_nil, ← zero, ← size]
      rfl
    exact ok_bind gap (ok_bind (checkedTuples_full layout .fixed full _) (checkedFill_full full 0))
  · have gap : checkedGap .fixed (done ++ rest) done.length address =
        .ok (done ++ rest, done.length, address) :=
      if_neg fun inside => before inside.2
    have shown : byte = layout.tuples.getD (address - tuplesStart) 0 := if_neg before
    refine ok_bind gap ?_
    by_cases there : layout.tuples.toList.drop (address - tuplesStart) = []
    · have tuples : checkedTuples layout .fixed (done ++ rest) done.length address =
          .ok (done ++ rest, done.length) :=
        if_neg fun inside => inside.2.2 there
      have zero : byte = 0 := by
        rw [List.drop_eq_nil_iff, Array.length_toList] at there
        rw [shown, Array.getD_eq_getD_getElem?, Array.getElem?_eq_none there]
        rfl
      refine ok_bind tuples ?_
      show _ = Except.ok (done ++ List.replicate rest.length byte)
      rw [zero]
      exact checkedFill_eq done rest 0
    · have tuples : checkedTuples layout .fixed (done ++ rest) done.length address =
          .ok (full, full.length) := by
        unfold checkedTuples
        dsimp only
        rw [if_pos ⟨by omega, Nat.not_lt.mp before, there⟩]
        have first : (layout.tuples.toList.drop (address - tuplesStart))[0]? = some byte := by
          have inside : address - tuplesStart < layout.tuples.size := by
            rw [List.drop_eq_nil_iff, Array.length_toList] at there
            omega
          rw [List.getElem?_drop, Nat.add_zero, Array.getElem?_toList, shown,
            Array.getD_eq_getD_getElem?, Array.getElem?_eq_getElem inside]
          rfl
        exact ok_bind (get_eq first) (ok_bind (checkedFill_eq done rest byte) rfl)
      exact ok_bind tuples (checkedFill_full full 0)

/-- **Memory is read** as the total definition has it. -/
theorem checkedMemory_eq (layout : Layout) (how : Addressing) {done rest : List UInt8} {address : Nat}
    (short : (done ++ rest).length < 2 ^ 64) :
    checkedMemory layout how (done ++ rest) done.length address =
      .ok (done ++ layout.memoryRun address rest.length how) := by
  by_cases more : rest = []
  · subst more
    have nothing : layout.memoryRun address 0 how = [] :=
      List.length_eq_zero_iff.mp (layout.length_memoryRun address 0 how)
    rw [List.length_nil, nothing, List.append_nil]
    exact checkedMemory_full ..
  · cases how with
    | fixed => exact checkedMemory_fixed layout more short
    | incrementing => exact checkedMemory_incrementing layout more short

/-! ## Reads without a fault -/

/-- A read that comes to an outcome if what is left of its buffer is read as the total definition has
it. -/
def Reading.Leads (r : Reading σ) (fs : Functions σ) (how : Addressing)
    (outcome : List UInt8 × CommonArea × σ) : Prop :=
  ∃ done rest, r.buffer = done ++ rest ∧ r.position = done.length ∧
    let left := CommonArea.read fs how r.address.toNat rest.length r.area r.device
    outcome = (done ++ left.1, left.2)

/-- What the bytes of a read keep: the outcome, what is left for the functions, and the layout. -/
structure Reading.Keeps (r : Reading σ) (fs : Functions σ) (how : Addressing)
    (outcome : List UInt8 × CommonArea × σ) (afford : Nat → σ → Prop) (k : Nat) : Prop where
  leads : r.Leads fs how outcome
  short : r.buffer.length < 2 ^ 64
  fits : r.area.layout.Addressable
  room : afford k r.device

/-- A register is read, and then the rest. -/
theorem read_register (fs : Functions σ) (how : Addressing) {address : Nat} (length : Nat)
    (area : CommonArea) (s : σ) (low : address < registersEnd) :
    read fs how address (length + 1) area s =
      let first := area.readByte fs address s
      let rest := read fs how (address + how.stride.toNat) length first.2.1 first.2.2
      (first.1 :: rest.1, rest.2) := by
  rw [read, if_pos low]

/-- Behind the registers, all that is left is memory. -/
theorem read_memory (fs : Functions σ) (how : Addressing) {address length : Nat} (area : CommonArea)
    (s : σ) (ended : length = 0 ∨ registersEnd ≤ address) :
    read fs how address length area s = (area.layout.memoryRun address length how, area, s) := by
  cases length with
  | zero => rw [read, List.length_eq_zero_iff.mp (area.layout.length_memoryRun address 0 how)]
  | succ length =>
    rw [read, if_neg (Nat.not_lt.mpr (ended.resolve_left (Nat.succ_ne_zero length)))]

theorem toNat_add_stride {address : UInt32} (low : address.toNat < registersEnd) (how : Addressing) :
    (address + how.stride).toNat = address.toNat + how.stride.toNat := by
  have step : how.stride.toNat ≤ 1 := by
    cases how <;> decide
  simp only [registersEnd] at low
  rw [UInt32.toNat_add]
  exact Nat.mod_eq_of_lt (by omega)

/-- **Registers are read** until the buffer is full or the address is at the end. -/
theorem Reading.registers_eq {one : UInt32 → CommonArea → σ → Checked (UInt8 × CommonArea × σ)}
    {start below k : Nat} (registers : below ≤ registersEnd)
    (single : ∀ (address : UInt32) (area : CommonArea) (s : σ), start ≤ address.toNat →
      address.toNat < below → area.layout.Addressable → afford k s →
      one address area s = .ok (area.readByte fs address.toNat s) ∧
        afford k (area.readByte fs address.toNat s).2.2)
    {how : Addressing} {outcome : List UInt8 × CommonArea × σ} {left : Nat} {r : Reading σ}
    (kept : r.Keeps fs how outcome afford k) (count : r.buffer.length = r.position + left)
    (begun : left = 0 ∨ start ≤ r.address.toNat) :
    ∃ r' : Reading σ, r.registers one below how.stride left = .ok r' ∧
      r'.Keeps fs how outcome afford k ∧
      (r'.position = r'.buffer.length ∨ below ≤ r'.address.toNat) := by
  induction left generalizing r with
  | zero => exact ⟨r, rfl, kept, .inl count.symm⟩
  | succ left ih =>
    unfold Reading.registers
    split
    next low =>
      obtain ⟨buffer, position, address, area, s⟩ := r
      obtain ⟨⟨done, rest, rfl, rfl, same⟩, short, fits, room⟩ := kept
      dsimp only at *
      rw [List.length_append] at count short
      obtain ⟨old, rest, rfl⟩ := List.exists_cons_of_length_pos (l := rest) (by omega)
      rw [List.length_cons] at count short
      have begun := begun.resolve_left (Nat.succ_ne_zero left)
      obtain ⟨ran, room⟩ := single address area s begun low fits room
      let answer := area.readByte fs address.toNat s
      let next : Reading σ :=
        ⟨done ++ [answer.1] ++ rest, done.length + 1, address + how.stride, answer.2.1, answer.2.2⟩
      have stored : (done ++ old :: rest).set done.length answer.1 = done ++ [answer.1] ++ rest := by
        rw [List.set_append_right _ _ (Nat.le_refl _), Nat.sub_self, List.set_cons_zero,
          List.append_assoc, List.singleton_append]
      have nextAddress : next.address.toNat = address.toNat + how.stride.toNat :=
        toNat_add_stride (Nat.lt_of_lt_of_le low registers) how
      have nextKept : next.Keeps fs how outcome afford k := {
        leads := by
          refine ⟨done ++ [answer.1], rest, rfl, ?_, ?_⟩
          · rw [List.length_append, List.length_singleton]
          · rw [same, nextAddress, List.length_cons,
              read_register fs how rest.length area s (Nat.lt_of_lt_of_le low registers)]
            simp only [List.append_assoc, List.singleton_append]
            rfl
        short := by
          show (done ++ [answer.1] ++ rest).length < 2 ^ 64
          rw [List.length_append, List.length_append, List.length_singleton]
          omega
        fits := by
          obtain ⟨functions, kept⟩ := readByte_area fs address.toNat area s
          show answer.2.1.layout.Addressable
          rw [kept]
          exact fits
        room }
      have nextCount : next.buffer.length = next.position + left := by
        show (done ++ [answer.1] ++ rest).length = done.length + 1 + left
        rw [List.length_append, List.length_append, List.length_singleton]
        omega
      obtain ⟨last, went, lastKept, ended⟩ := ih nextKept nextCount (.inr (by omega))
      refine ⟨last, ok_bind ran (ok_bind (set_eq ?_ answer.1) ?_), lastKept, ended⟩
      · rw [List.length_append, List.length_cons]
        omega
      · rw [stored]
        exact ok_bind (add_eq (by omega)) went
    next above => exact ⟨r, rfl, kept, .inr (Nat.not_lt.mp above)⟩

theorem checkedCommonByte_eq (fs : Functions σ) {address : UInt32} (low : address.toNat < commonEnd)
    (area : CommonArea) (s : σ) :
    checkedCommonByte address area s = .ok (area.readByte fs address.toNat s) := by
  have region : Region.ofAddress address.toNat = .common address.toNat := if_pos low
  unfold readByte
  rw [region]
  exact ok_bind (checkedReadCommon_eq ..) rfl

theorem checkedFunctionByte_eq (agrees : cf.Agrees fs afford) {address : UInt32} {area : CommonArea}
    {k : Nat} {s : σ} (above : commonEnd ≤ address.toNat) (below : address.toNat < registersEnd)
    (fits : area.layout.Addressable) (room : afford k s) :
    checkedFunctionByte cf address area s = .ok (area.readByte fs address.toNat s) ∧
      afford k (area.readByte fs address.toNat s).2.2 := by
  obtain ⟨i, page, region⟩ := page_eq above below
  unfold checkedFunctionByte readByte
  rw [page, region]
  exact checkedReadFunction_eq agrees fits i _ room

/-- **Function 0 is read** as the total definition has it, whatever stood in the buffer. -/
theorem checkedRead_eq (agrees : cf.Agrees fs afford) (how : Addressing) (address : UInt32)
    {buffer : List UInt8} (short : buffer.length < 2 ^ 64) {area : CommonArea}
    (fits : area.layout.Addressable) {k : Nat} {s : σ} (room : afford k s) :
    checkedRead cf how address buffer area s =
        .ok (read fs how address.toNat buffer.length area s) ∧
      afford k (read fs how address.toNat buffer.length area s).2.2 := by
  let outcome := read fs how address.toNat buffer.length area s
  have common : ∀ (address : UInt32) (area : CommonArea) (s : σ), 0 ≤ address.toNat →
      address.toNat < commonEnd → area.layout.Addressable → afford k s →
      checkedCommonByte address area s = .ok (area.readByte fs address.toNat s) ∧
        afford k (area.readByte fs address.toNat s).2.2 := by
    intro address area s _ low _ room
    refine ⟨checkedCommonByte_eq fs low area s, ?_⟩
    rw [readByte_common fs low]
    exact room
  have begun : (⟨buffer, 0, address, area, s⟩ : Reading σ).Keeps fs how outcome afford k :=
    ⟨⟨[], buffer, rfl, rfl, rfl⟩, short, fits, room⟩
  obtain ⟨first, ran, kept, ended⟩ := Reading.registers_eq (by decide) common begun
    (Nat.zero_add _).symm (.inr (Nat.zero_le _))
  have inside : first.position ≤ first.buffer.length := by
    obtain ⟨done, rest, buffer, position, -⟩ := kept.leads
    rw [buffer, position, List.length_append]
    exact Nat.le_add_right ..
  obtain ⟨last, went, ⟨⟨done, rest, filled, position, same⟩, short, -, room⟩, ended⟩ :=
    Reading.registers_eq (Nat.le_refl _)
      (fun _ _ _ above below fits room => checkedFunctionByte_eq agrees above below fits room) kept
      (Nat.add_sub_cancel' inside).symm (ended.imp_left fun full => by omega)
  have memory : rest.length = 0 ∨ registersEnd ≤ last.address.toNat := by
    refine ended.imp_left fun full => ?_
    rw [filled, position, List.length_append] at full
    omega
  rw [read_memory fs how last.area last.device memory] at same
  rw [filled] at short
  show _ = Except.ok outcome ∧ afford k outcome.2.2
  rw [same]
  refine ⟨ok_bind ran (ok_bind (sub_eq inside) (ok_bind went ?_)), room⟩
  rw [filled, position]
  exact ok_bind (checkedMemory_eq last.area.layout how short) rfl

end Agreement

end CommonArea

end WlanCard
