import WlanCard.Proofs.CommonArea.Run
import WlanCard.Proofs.Word

/-!
# Tuples behind their pointers

The card tells where its tuples start, and each function where its own do, in three registers that make
up a pointer. Two parts of function 0 have to agree on what it means: the registers add the place of all
tuples to an offset among them, and memory takes it away again. A host that puts the three bytes together
and reads on from there finds the tuples from that offset on, and zeros behind the last of them
(`tuples_behind_pointers`), whatever it has done to the registers before or does in between.

A pointer depends on the layout only (`read_tuplePointer`), and so does what memory answers from the
address in it (`read_tuples`). Reads into buffers come to the same, without a fault in the one sum that a
pointer takes (`checkedRead_tuplePointer`, `checkedRead_tuples`).
-/

namespace WlanCard

/-- Where the tuples of a function start among all tuples. Those of the card as a whole come first. -/
def Layout.tupleOffset (layout : Layout) : FunctionNumber → UInt32 :=
  Fin.cases 0 fun i => (layout.functions.get i).tupleOffset

/-- So many bytes of tuples from an offset on: what there is of them, and zeros behind that. -/
def Layout.tuplesFrom (layout : Layout) (offset length : Nat) : List UInt8 :=
  let tuples := (layout.tuples.toList.drop offset).take length
  tuples ++ List.replicate (length - tuples.length) 0

/-- A run of memory that begins among the tuples, or behind them, is the tuples from there on. -/
theorem Layout.memoryRun_tuples (layout : Layout) (offset length : Nat) :
    layout.memoryRun (CommonArea.tuplesStart + offset) length .incrementing =
      layout.tuplesFrom offset length := by
  have gap : min length (CommonArea.tuplesStart - (CommonArea.tuplesStart + offset)) = 0 := by omega
  unfold memoryRun tuplesFrom
  simp only [gap, List.replicate_zero, List.nil_append, Nat.add_zero, Nat.sub_zero,
    Nat.add_sub_cancel_left, Array.toList_extract, List.extract_eq_take_drop]

namespace CommonArea

open Checked

/-! ## Pointers -/

/-- The register that shows byte `j` of the pointer of a function. -/
def Register.tuplePointer (f : FunctionNumber) (j : Fin 3) : Register :=
  f.cases (.common (.tuplePointer j)) fun i => .function i (.tuplePointer j)

theorem Register.address_tuplePointer (f : FunctionNumber) (j : Fin 3) :
    (tuplePointer f j).address = 0x100 * f.val + 0x09 + j := by
  cases f using Fin.cases with
  | zero => rfl
  | succ i => exact (Nat.add_assoc ..).symm

theorem shows_tuplePointer (area : CommonArea) (f : FunctionNumber) (j : Fin 3) :
    area.shows (.tuplePointer f j) = tuplePointerByte (area.layout.tupleOffset f) j := by
  cases f using Fin.cases with
  | zero =>
    show area.readCommon (CommonRegister.tuplePointer j).offset = _
    unfold readCommon
    rw [CommonRegister.ofOffset?_offset]
    rfl
  | succ i =>
    show area.functionByte i (FunctionRegister.tuplePointer j).offset = _
    unfold functionByte
    rw [FunctionRegister.ofOffset?_offset]
    rfl

/-- The three bytes of a pointer to tuples that start at an offset. -/
def tuplePointer (offset : UInt32) : List UInt8 :=
  (List.finRange 3).map (tuplePointerByte offset)

/-- A pointer leads to an offset that it has room for. -/
theorem ofLittleEndian_tuplePointer {offset : UInt32} (fits : tuplesStart + offset.toNat < 2 ^ 24) :
    Word.ofLittleEndian (tuplePointer offset) = tuplesStart + offset.toNat := by
  have sum : (UInt32.ofNat tuplesStart + offset).toNat = tuplesStart + offset.toNat := by
    rw [UInt32.toNat_add]
    exact Nat.mod_eq_of_lt (Nat.lt_trans fits (by decide))
  refine (Word.ofLittleEndian_littleEndian 3 (UInt32.ofNat tuplesStart + offset).toBitVec).trans ?_
  rw [UInt32.toNat_toBitVec, sum]
  exact Nat.mod_eq_of_lt fits

variable {σ : Type}

/-- **A pointer is read** without any change to it, or to anything else. -/
theorem read_tuplePointer (fs : Functions σ) (f : FunctionNumber) (area : CommonArea) (s : σ) :
    read fs .incrementing (0x100 * f.val + 0x09) 3 area s =
      (tuplePointer (area.layout.tupleOffset f), area, s) := by
  have byte (j : Fin 3) : area.readByte fs (0x100 * f.val + 0x09 + j) s =
      (tuplePointerByte (area.layout.tupleOffset f) j, area, s) := by
    have plain : (Register.tuplePointer f j).isWindow = false := by
      cases f using Fin.cases <;> rfl
    rw [← Register.address_tuplePointer, readByte_at fs area s plain, shows_tuplePointer]
  -- One register after the other, each of which leaves the area as the next one finds it.
  have first := byte 0
  have second := byte 1
  have third := byte 2
  have stride : Addressing.incrementing.stride.toNat = 1 := rfl
  rw [read_eq_readEach]
  simp only [readEach, read_one, stride, Nat.add_assoc, Nat.reduceAdd, Fin.isValue, Fin.val_zero,
    Fin.val_one, Fin.val_two] at first second third ⊢
  rw [first, second, third]
  rfl

/-- Tuples are read from the address of the first on. -/
theorem read_tuples (fs : Functions σ) (offset length : Nat) (area : CommonArea) (s : σ) :
    read fs .incrementing (tuplesStart + offset) length area s =
      (area.layout.tuplesFrom offset length, area, s) := by
  have behind : registersEnd ≤ tuplesStart + offset := Nat.le_add_right_of_le (by decide)
  rw [read_memory fs .incrementing area s (.inr behind), Layout.memoryRun_tuples]

/-! ## Reads into buffers -/

/-- A byte of a pointer is made in a step that cannot fault if the tuples have an address. -/
theorem checkedReadByte_tuplePointer (cf : CheckedFunctions σ) {f : FunctionNumber} {j : Fin 3}
    {address : UInt32} (here : address.toNat = 0x100 * f.val + 0x09 + j) {area : CommonArea}
    (fits : tuplesStart + (area.layout.tupleOffset f).toNat < 2 ^ 32) (s : σ) :
    checkedReadByte cf address area s =
      .ok (tuplePointerByte (area.layout.tupleOffset f) j, area, s) := by
  have shown := shows_tuplePointer area f j
  have three := j.isLt
  unfold checkedReadByte
  cases f using Fin.cases with
  | zero =>
    have offset : address.toNat = (CommonRegister.tuplePointer j).offset := by
      rw [here]
      rfl
    have low : (CommonRegister.tuplePointer j).offset < commonEnd := CommonRegister.offset_lt _
    rw [offset, if_pos low, ← shown]
    unfold checkedCommonByte
    rw [offset]
    exact ok_bind (checkedReadCommon_eq ..) rfl
  | succ i =>
    -- The page of the function and the offset within it are cut out of the address.
    have page : address.toNat >>> 8 = i.val + 1 := by
      rw [here, Nat.shiftRight_eq_div_pow, Fin.val_succ]
      omega
    have offset : address.toNat % commonEnd = (FunctionRegister.tuplePointer j).offset := by
      rw [here, Fin.val_succ]
      show _ % 0x100 = 0x09 + j.val
      omega
    have seven := i.isLt
    rw [Fin.val_succ] at here
    have high : ¬ address.toNat < commonEnd := by
      unfold commonEnd
      omega
    have low : address.toNat < registersEnd := by
      unfold registersEnd
      omega
    obtain ⟨below, table, -⟩ := page_indices i
    rw [if_neg high, if_pos low]
    unfold checkedFunctionByte
    rw [page, offset]
    refine ok_bind below (ok_bind table ?_)
    rw [FunctionRegister.ofOffset?_offset]
    exact ok_bind (add_eq fits) (ok_bind (byteAt_tuplePointer fits rfl) rfl)

/-- A byte that is read without any change, and then the rest. -/
theorem checkedBytes_cons {cf : CheckedFunctions σ} {how : Addressing} {address : UInt32}
    {length : Nat} {area : CommonArea} {s : σ} {byte : UInt8} {rest : List UInt8}
    (first : checkedReadByte cf address area s = .ok (byte, area, s))
    (others : checkedBytes cf how (address + how.stride) length area s = .ok (rest, area, s)) :
    checkedBytes cf how address (length + 1) area s = .ok (byte :: rest, area, s) :=
  ok_bind first (ok_bind others rfl)

/-- A pointer fills a buffer of three bytes. -/
theorem checkedRead_tuplePointer (cf : CheckedFunctions σ) (f : FunctionNumber)
    {buffer : List UInt8} (three : buffer.length = 3) {area : CommonArea}
    (fits : tuplesStart + (area.layout.tupleOffset f).toNat < 2 ^ 32) (s : σ) :
    checkedRead cf .incrementing (UInt32.ofNat (0x100 * f.val + 0x09)) buffer area s =
      .ok (tuplePointer (area.layout.tupleOffset f), area, s) := by
  have eight := f.isLt
  let start := UInt32.ofNat (0x100 * f.val + 0x09)
  have first : start.toNat = 0x100 * f.val + 0x09 :=
    UInt32.toNat_ofNat_of_lt' (show _ < 2 ^ 32 by omega)
  have low : start.toNat + 2 < registersEnd := by
    unfold registersEnd
    omega
  have second : (start + Addressing.incrementing.stride).toNat = 0x100 * f.val + 0x09 + 1 := by
    rw [toNat_add_stride (by omega), first]
    rfl
  have third : (start + Addressing.incrementing.stride + Addressing.incrementing.stride).toNat =
      0x100 * f.val + 0x09 + 2 := by
    rw [toNat_add_stride (by omega), second]
    rfl
  have inside : start.toNat + Addressing.incrementing.stride.toNat * buffer.length ≤ 2 ^ 32 := by
    rw [three]
    show start.toNat + 1 * 3 ≤ _
    omega
  rw [checkedRead_eq_checkedBytes cf .incrementing (by omega) inside, three]
  have byte (j : Fin 3) {address : UInt32} (here : address.toNat = 0x100 * f.val + 0x09 + j) :=
    checkedReadByte_tuplePointer cf here fits s
  exact checkedBytes_cons (byte 0 first) (checkedBytes_cons (byte 1 second)
    (checkedBytes_cons (byte 2 third) rfl))

/-- Behind the registers a buffer is filled with memory. -/
theorem checkedRead_behind (cf : CheckedFunctions σ) (how : Addressing) {address : UInt32}
    (behind : registersEnd ≤ address.toNat) {buffer : List UInt8} (short : buffer.length < 2 ^ 64)
    (area : CommonArea) (s : σ) :
    checkedRead cf how address buffer area s =
      .ok (area.layout.memoryRun address.toNat buffer.length how, area, s) := by
  have still (one : UInt32 → CommonArea → σ → Checked (UInt8 × CommonArea × σ)) {below : Nat}
      (registers : below ≤ registersEnd) (left : Nat) :
      Reading.registers one below how.stride left ⟨buffer, 0, address, area, s⟩ =
        .ok ⟨buffer, 0, address, area, s⟩ := by
    cases left with
    | zero => rfl
    | succ left => exact if_neg (Nat.not_lt.mpr (Nat.le_trans registers behind))
  have memory : checkedMemory area.layout how ([] ++ buffer) 0 address.toNat =
      .ok ([] ++ area.layout.memoryRun address.toNat buffer.length how) :=
    checkedMemory_eq area.layout how short
  refine ok_bind (still checkedCommonByte (by decide) _) ?_
  refine ok_bind (sub_eq (Nat.zero_le _)) ?_
  refine ok_bind (still (checkedFunctionByte cf) (Nat.le_refl _) _) ?_
  exact ok_bind memory rfl

/-- Tuples fill a buffer from the address of the first on. -/
theorem checkedRead_tuples (cf : CheckedFunctions σ) {offset : Nat}
    (fits : tuplesStart + offset < 2 ^ 32) {buffer : List UInt8} (short : buffer.length < 2 ^ 64)
    (area : CommonArea) (s : σ) :
    checkedRead cf .incrementing (UInt32.ofNat (tuplesStart + offset)) buffer area s =
      .ok (area.layout.tuplesFrom offset buffer.length, area, s) := by
  have address : (UInt32.ofNat (tuplesStart + offset)).toNat = tuplesStart + offset :=
    UInt32.toNat_ofNat_of_lt' fits
  have behind : registersEnd ≤ (UInt32.ofNat (tuplesStart + offset)).toNat := by
    rw [address]
    exact Nat.le_add_right_of_le (by decide)
  rw [checkedRead_behind cf .incrementing behind short, address, Layout.memoryRun_tuples]

/-! ## Following a pointer -/

/-- A host follows the pointer of a function: it reads the three bytes, performs other operations, and
reads bytes from the address that it has been told. -/
def follow (fs : Functions σ) (f : FunctionNumber) (between : List Operation) (length : Nat)
    (area : CommonArea) (s : σ) : List UInt8 × CommonArea × σ :=
  let told := read fs .incrementing (0x100 * f.val + 0x09) 3 area s
  let now := run fs between told.2.1 told.2.2
  read fs .incrementing (Word.ofLittleEndian told.1) length now.1 now.2

/-- The same with reads that fill buffers. -/
def checkedFollow (cf : CheckedFunctions σ) (f : FunctionNumber) (pointer buffer : List UInt8)
    (area : CommonArea) (s : σ) : Checked (List UInt8 × CommonArea × σ) := do
  let told ← checkedRead cf .incrementing (UInt32.ofNat (0x100 * f.val + 0x09)) pointer area s
  checkedRead cf .incrementing (UInt32.ofNat (Word.ofLittleEndian told.1)) buffer told.2.1 told.2.2

/-- **Behind its pointer are the tuples of a function**, if the pointer has room for their address. Whatever
a host has done to the registers of function 0, and whatever it does after it has read the pointer, it
reads the tuples from the offset of the function on, as far as there are any, and zeros behind them. The
pointer of function 0, which always has room, leads to the first of all tuples. Reads that fill buffers
find the same, and do not fault. -/
theorem tuples_behind_pointers (fs : Functions σ) (layout : Layout) (count : Fin 8)
    (f : FunctionNumber) (fits : tuplesStart + (layout.tupleOffset f).toNat < 2 ^ 24)
    (ops : List Operation) (s : σ) :
    let found := run fs ops (powerOn layout count) s
    let tuples := layout.tuplesFrom (layout.tupleOffset f).toNat
    (∀ between length,
      follow fs f between length found.1 found.2 =
        (tuples length, run fs between found.1 found.2)) ∧
      ∀ (cf : CheckedFunctions σ) (pointer buffer : List UInt8), pointer.length = 3 →
        buffer.length < 2 ^ 64 →
        checkedFollow cf f pointer buffer found.1 found.2 = .ok (tuples buffer.length, found) := by
  intro found tuples
  have fixed : found.1.layout = layout := run_layout fs ops (powerOn layout count) s
  have leads := ofLittleEndian_tuplePointer fits
  refine ⟨fun between length => ?_, fun cf pointer buffer three short => ?_⟩
  · have later : (run fs between found.1 found.2).1.layout = layout :=
      (run_layout fs between found.1 found.2).trans fixed
    unfold follow
    rw [read_tuplePointer, fixed]
    dsimp only
    rw [leads, read_tuples, later]
  · have wide : tuplesStart + (layout.tupleOffset f).toNat < 2 ^ 32 := Nat.lt_trans fits (by decide)
    refine ok_bind (checkedRead_tuplePointer cf f three (by rwa [fixed]) found.2) ?_
    dsimp only
    rw [fixed, leads, checkedRead_tuples cf wide short, fixed]

/-- Six bytes of tuples. Those of function 1 start within them, and those of function 2 behind the last. -/
def pointed : Layout where
  revision := revision110
  functions := #v[{ tupleOffset := 2 }, { tupleOffset := 9 }, {}, {}, {}, {}, {}]
  tuples := #[0x20, 0x02, 0x71, 0x02, 0xff, 0xff]

theorem tuples_behind_pointers_pointed :
    let found := run numbered [.write 0x109 0x55, .reset 2] (powerOn pointed 2) ()
    (follow numbered 0 [] 3 found.1 found.2).1 = [0x20, 0x02, 0x71] ∧
      (follow numbered 1 [.write 0x1002 0] 6 found.1 found.2).1 = [0x71, 0x02, 0xff, 0xff, 0, 0] ∧
      checkedFollow checkedNumbered 2 [0xaa, 0xaa, 0xaa] [0xaa, 0xaa] found.1 found.2 =
        .ok ([0, 0], found) := by
  let ops : List Operation := [.write 0x109 0x55, .reset 2]
  obtain ⟨card, -⟩ := tuples_behind_pointers numbered pointed 2 0 (by decide) ops ()
  obtain ⟨within, -⟩ := tuples_behind_pointers numbered pointed 2 1 (by decide) ops ()
  obtain ⟨-, past⟩ := tuples_behind_pointers numbered pointed 2 2 (by decide) ops ()
  exact ⟨congrArg Prod.fst (card [] 3), congrArg Prod.fst (within [.write 0x1002 0] 6),
    past checkedNumbered [0xaa, 0xaa, 0xaa] [0xaa, 0xaa] rfl (by decide)⟩

end CommonArea

end WlanCard
