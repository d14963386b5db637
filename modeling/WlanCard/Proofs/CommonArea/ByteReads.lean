import WlanCard.Proofs.Checked.CommonArea

/-!
# Reads of function 0, byte by byte

A read of several bytes goes through registers one at a time and takes memory in one run: what is left
of the gap, what there is of the tuples, zeros. Cut into reads of one byte each it answers the same
bytes, makes the same accesses to the functions and leaves the same registers (`read_bytewise`), so
nothing depends on where it begins and ends.

`readEach` is the read cut up. For registers the two go the same way; for memory, a run begins with the
byte at its first address, and what follows is the run from the next one (`memoryRun_succ`). A read into
a buffer goes segment by segment, and may fault on the way; it is compared with the bytes read one by
one into no buffer (`checkedBytes`), to which the reads into buffers of one byte come as well.
-/

namespace WlanCard

/-! ## Memory -/

/-- The bytes of an array from an offset on, with zeros for those that it lacks: the one at the offset,
then those from the next on. -/
theorem padded_extract_succ (bytes : Array UInt8) (offset length : Nat) :
    (bytes.extract offset (offset + (length + 1))).toList ++
        List.replicate
          (length + 1 - (bytes.extract offset (offset + (length + 1))).toList.length) 0 =
      bytes.getD offset 0 ::
        ((bytes.extract (offset + 1) (offset + 1 + length)).toList ++
          List.replicate
            (length - (bytes.extract (offset + 1) (offset + 1 + length)).toList.length) 0) := by
  have first : bytes.getD offset 0 = (bytes.toList.drop offset)[0]?.getD 0 := by
    rw [List.getElem?_drop, Nat.add_zero, Array.getElem?_toList, Array.getD_eq_getD_getElem?]
  simp only [Array.toList_extract, List.extract_eq_take_drop, Nat.add_sub_cancel_left, first,
    ← List.tail_drop]
  cases bytes.toList.drop offset with
  | nil => simp [List.replicate_succ]
  | cons byte rest => simp

theorem Layout.memoryRun_zero (layout : Layout) (address : Nat) (how : Addressing) :
    layout.memoryRun address 0 how = [] :=
  List.length_eq_zero_iff.mp (layout.length_memoryRun address 0 how)

/-- A run of memory begins with the byte at its first address. -/
theorem Layout.memoryRun_succ (layout : Layout) (address length : Nat) (how : Addressing) :
    layout.memoryRun address (length + 1) how =
      layout.memoryByte address :: layout.memoryRun (address + how.stride.toNat) length how := by
  cases how with
  | fixed => exact List.replicate_succ
  | incrementing =>
    show layout.memoryRun address (length + 1) .incrementing =
      layout.memoryByte address :: layout.memoryRun (address + 1) length .incrementing
    unfold memoryRun memoryByte
    dsimp only
    by_cases before : address < CommonArea.tuplesStart
    · -- The gap is one byte shorter from the next address on, and what follows it is the same.
      have gap : min (length + 1) (CommonArea.tuplesStart - address) =
          min length (CommonArea.tuplesStart - (address + 1)) + 1 := by omega
      have start : address + (min length (CommonArea.tuplesStart - (address + 1)) + 1) =
          address + 1 + min length (CommonArea.tuplesStart - (address + 1)) := by omega
      rw [if_pos before, gap, start, List.replicate_succ, Nat.add_sub_add_right, List.cons_append,
        List.cons_append]
    · have gap : min (length + 1) (CommonArea.tuplesStart - address) = 0 := by omega
      have next : min length (CommonArea.tuplesStart - (address + 1)) = 0 := by omega
      have start : address + 1 - CommonArea.tuplesStart = address - CommonArea.tuplesStart + 1 := by
        omega
      rw [if_neg before, gap, next, Nat.add_zero, Nat.add_zero, Nat.sub_zero, Nat.sub_zero, start,
        List.replicate_zero, List.nil_append, List.nil_append]
      exact padded_extract_succ layout.tuples (address - CommonArea.tuplesStart) length

namespace CommonArea

open Checked

variable {σ : Type}

/-! ## Reads cut into single bytes -/

/-- As many reads of one byte, each `stride` after the last. -/
def readEach (fs : Functions σ) (how : Addressing) :
    (address length : Nat) → (area : CommonArea) → (s : σ) → List UInt8 × CommonArea × σ
  | _, 0, area, s => ([], area, s)
  | address, length + 1, area, s =>
    let first := read fs how address 1 area s
    let rest := readEach fs how (address + how.stride.toNat) length first.2.1 first.2.2
    (first.1 ++ rest.1, rest.2)

/-- Behind the registers lies memory. -/
theorem Region.ofAddress_behind {address : Nat} (behind : registersEnd ≤ address) :
    Region.ofAddress address = .memory := by
  have high : ¬ address < commonEnd := by
    simp only [registersEnd, commonEnd] at *
    omega
  unfold Region.ofAddress
  rw [if_neg high, dif_neg (Nat.not_lt.mpr behind)]

/-- A read of one byte is one access. -/
theorem read_one (fs : Functions σ) (how : Addressing) (address : Nat) (area : CommonArea) (s : σ) :
    read fs how address 1 area s =
      let answer := area.readByte fs address s
      ([answer.1], answer.2) := by
  by_cases low : address < registersEnd
  · exact read_register fs how 0 area s low
  · have behind := Nat.not_lt.mp low
    rw [read_memory fs how area s (.inr behind), Layout.memoryRun_succ, Layout.memoryRun_zero]
    unfold readByte
    rw [Region.ofAddress_behind behind]

theorem read_eq_readEach (fs : Functions σ) (how : Addressing) (address length : Nat)
    (area : CommonArea) (s : σ) :
    read fs how address length area s = readEach fs how address length area s := by
  induction length generalizing address area s with
  | zero => rfl
  | succ length ih =>
    unfold readEach
    dsimp only
    rw [read_one, ← ih]
    by_cases low : address < registersEnd
    · exact read_register fs how length area s low
    · have high := Nat.not_lt.mp low
      have single := (read_one fs how address area s).symm.trans
        (read_memory fs how area s (.inr high))
      obtain ⟨byte, same⟩ := Prod.mk.inj single
      have later : registersEnd ≤ address + how.stride.toNat := Nat.le_add_right_of_le high
      rw [read_memory fs how area s (.inr high), same, Layout.memoryRun_succ]
      dsimp only
      rw [read_memory fs how area s (.inr later), byte, Layout.memoryRun_succ, Layout.memoryRun_zero]
      rfl

/-! ## Reads into a buffer -/

/-- Reads one byte of function 0 in steps that can fault. -/
def checkedReadByte (cf : CheckedFunctions σ) (address : UInt32) (area : CommonArea) (s : σ) :
    Checked (UInt8 × CommonArea × σ) :=
  if address.toNat < commonEnd then checkedCommonByte address area s
  else if address.toNat < registersEnd then checkedFunctionByte cf address area s
  else .ok (area.layout.memoryByte address.toNat, area, s)

/-- Reads bytes of function 0 one by one, into no buffer. -/
def checkedBytes (cf : CheckedFunctions σ) (how : Addressing) :
    (address : UInt32) → (length : Nat) → (area : CommonArea) → (s : σ) →
      Checked (List UInt8 × CommonArea × σ)
  | _, 0, area, s => .ok ([], area, s)
  | address, length + 1, area, s => do
    let first ← checkedReadByte cf address area s
    let rest ← checkedBytes cf how (address + how.stride) length first.2.1 first.2.2
    return (first.1 :: rest.1, rest.2)

/-- As many reads into a buffer of one byte, each `stride` after the last. -/
def checkedReadEach (cf : CheckedFunctions σ) (how : Addressing) :
    (address : UInt32) → (buffers : List UInt8) → (area : CommonArea) → (s : σ) →
      Checked (List UInt8 × CommonArea × σ)
  | _, [], area, s => .ok ([], area, s)
  | address, old :: buffers, area, s => do
    let first ← checkedRead cf how address [old] area s
    let rest ← checkedReadEach cf how (address + how.stride) buffers first.2.1 first.2.2
    return (first.1 ++ rest.1, rest.2)

variable {cf : CheckedFunctions σ} {how : Addressing}

/-- An address does not wrap as long as there is more to come. -/
theorem toNat_add_stride_of_inside {address : UInt32} {length : Nat}
    (inside : address.toNat + how.stride.toNat * (length + 2) ≤ 2 ^ 32) :
    (address + how.stride).toNat = address.toNat + how.stride.toNat := by
  rw [UInt32.toNat_add]
  refine Nat.mod_eq_of_lt ?_
  cases how with
  | fixed => exact address.toNat_lt
  | incrementing =>
    have step : Addressing.incrementing.stride.toNat = 1 := rfl
    rw [step, Nat.one_mul] at inside
    omega

theorem inside_next {address : UInt32} {length : Nat}
    (inside : address.toNat + how.stride.toNat * (length + 1) ≤ 2 ^ 32) :
    (address + how.stride).toNat + how.stride.toNat * length ≤ 2 ^ 32 := by
  cases length with
  | zero => exact Nat.le_of_lt (address + how.stride).toNat_lt
  | succ length =>
    rw [toNat_add_stride_of_inside inside]
    rw [Nat.mul_add_one] at inside
    omega

/-- Behind the registers the bytes are a run of memory. -/
theorem checkedBytes_memory {address : UInt32} {length : Nat} (area : CommonArea) (s : σ)
    (ended : length = 0 ∨ registersEnd ≤ address.toNat)
    (inside : address.toNat + how.stride.toNat * length ≤ 2 ^ 32) :
    checkedBytes cf how address length area s =
      .ok (area.layout.memoryRun address.toNat length how, area, s) := by
  induction length generalizing address with
  | zero =>
    rw [Layout.memoryRun_zero]
    rfl
  | succ length ih =>
    have behind := ended.resolve_left (Nat.succ_ne_zero length)
    have first : checkedReadByte cf address area s =
        .ok (area.layout.memoryByte address.toNat, area, s) := by
      have high : ¬ address.toNat < commonEnd := by
        simp only [registersEnd, commonEnd] at *
        omega
      unfold checkedReadByte
      rw [if_neg high, if_neg (Nat.not_lt.mpr behind)]
    have rest : checkedBytes cf how (address + how.stride) length area s =
        .ok (area.layout.memoryRun (address.toNat + how.stride.toNat) length how, area, s) := by
      cases length with
      | zero =>
        rw [Layout.memoryRun_zero]
        rfl
      | succ length =>
        have next := toNat_add_stride_of_inside inside
        have later : registersEnd ≤ (address + how.stride).toNat := by
          rw [next]
          exact Nat.le_add_right_of_le behind
        rw [← next]
        exact ih (.inr later) (inside_next inside)
    rw [Layout.memoryRun_succ]
    exact ok_bind first (ok_bind rest rfl)

/-- A read that comes to an outcome if the bytes that its buffer still lacks are read one by one. -/
def Reading.Resumes (r : Reading σ) (cf : CheckedFunctions σ) (how : Addressing)
    (outcome : Checked (List UInt8 × CommonArea × σ)) : Prop :=
  ∃ done rest, r.buffer = done ++ rest ∧ r.position = done.length ∧ (done ++ rest).length < 2 ^ 64 ∧
    r.address.toNat + how.stride.toNat * rest.length ≤ 2 ^ 32 ∧
    outcome = do
      let left ← checkedBytes cf how r.address rest.length r.area r.device
      return (done ++ left.1, left.2)

section Step

variable {done rest : List UInt8} {old : UInt8} {address : UInt32} {area : CommonArea} {s : σ}
  {answer : UInt8 × CommonArea × σ}

/-- A register that has been read stands in the buffer, and the next one is read. -/
theorem Reading.registers_succ
    {one : UInt32 → CommonArea → σ → Checked (UInt8 × CommonArea × σ)} {below : Nat}
    (low : address.toNat < below) (ran : one address area s = .ok answer)
    (short : (done ++ old :: rest).length < 2 ^ 64) (left : Nat) :
    Reading.registers one below how.stride (left + 1)
        ⟨done ++ old :: rest, done.length, address, area, s⟩ =
      Reading.registers one below how.stride left
        ⟨done ++ [answer.1] ++ rest, done.length + 1, address + how.stride, answer.2.1,
          answer.2.2⟩ := by
  have stored : (done ++ old :: rest).set done.length answer.1 = done ++ [answer.1] ++ rest := by
    rw [List.set_append_right _ _ (Nat.le_refl _), Nat.sub_self, List.set_cons_zero,
      List.append_assoc, List.singleton_append]
  have inside : done.length < (done ++ old :: rest).length := by
    rw [List.length_append, List.length_cons]
    omega
  rw [Reading.registers, if_pos low]
  refine ok_bind ran (ok_bind (set_eq inside answer.1) ?_)
  rw [stored]
  exact ok_bind (add_eq (show done.length + 1 < 2 ^ 64 by omega)) rfl

/-- The outcome stays the same when one byte more has been read. -/
theorem Reading.Resumes.next {outcome : Checked (List UInt8 × CommonArea × σ)}
    (short : (done ++ old :: rest).length < 2 ^ 64)
    (inside : address.toNat + how.stride.toNat * (rest.length + 1) ≤ 2 ^ 32)
    (same : outcome = do
      let left ← checkedBytes cf how address (rest.length + 1) area s
      return (done ++ left.1, left.2))
    (ran : checkedReadByte cf address area s = .ok answer) :
    Reading.Resumes
      ⟨done ++ [answer.1] ++ rest, done.length + 1, address + how.stride, answer.2.1, answer.2.2⟩
      cf how outcome := by
  have unrolled : checkedBytes cf how address (rest.length + 1) area s = do
      let left ← checkedBytes cf how (address + how.stride) rest.length answer.2.1 answer.2.2
      return (answer.1 :: left.1, left.2) := ok_bind ran rfl
  have size : (done ++ [answer.1] ++ rest).length = (done ++ old :: rest).length := by
    rw [List.append_assoc, List.singleton_append, List.length_append, List.length_append]
    rfl
  refine ⟨done ++ [answer.1], rest, rfl, ?_, by omega, inside_next inside, ?_⟩
  · rw [List.length_append, List.length_singleton]
  · rw [same, unrolled, bind_assoc]
    simp only [pure_bind, List.append_assoc, List.singleton_append]

end Step

/-- **Registers are read** one by one, and what comes after that comes to the same as if they were all
that there is. -/
theorem Reading.registers_bind {one : UInt32 → CommonArea → σ → Checked (UInt8 × CommonArea × σ)}
    {start below : Nat} (registers : below ≤ registersEnd)
    (single : ∀ (address : UInt32) (area : CommonArea) (s : σ), start ≤ address.toNat →
      address.toNat < below → one address area s = checkedReadByte cf address area s)
    {next : Reading σ → Checked (List UInt8 × CommonArea × σ)}
    {outcome : Checked (List UInt8 × CommonArea × σ)}
    (goesOn : ∀ r : Reading σ, r.Resumes cf how outcome →
      (r.position = r.buffer.length ∨ below ≤ r.address.toNat) → next r = outcome)
    {left : Nat} {r : Reading σ} (resumes : r.Resumes cf how outcome)
    (count : r.buffer.length = r.position + left) (begun : left = 0 ∨ start ≤ r.address.toNat) :
    (r.registers one below how.stride left >>= next) = outcome := by
  induction left generalizing r with
  | zero => exact goesOn r resumes (.inl count.symm)
  | succ left ih =>
    by_cases low : r.address.toNat < below
    · obtain ⟨buffer, position, address, area, s⟩ := r
      obtain ⟨done, rest, rfl, rfl, short, inside, same⟩ := resumes
      dsimp only at *
      have total : (done ++ rest).length = done.length + rest.length := List.length_append
      obtain ⟨old, rest, rfl⟩ := List.exists_cons_of_length_pos (l := rest) (by omega)
      have begun := begun.resolve_left (Nat.succ_ne_zero left)
      have first := single address area s begun low
      cases ran : checkedReadByte cf address area s with
      | error fault =>
        have stops : Reading.registers one below how.stride (left + 1)
            ⟨done ++ old :: rest, done.length, address, area, s⟩ = .error fault := by
          unfold Reading.registers
          rw [if_pos low]
          exact error_bind (first.trans ran)
        rw [same]
        exact (error_bind stops).trans (error_bind (error_bind ran)).symm
      | ok answer =>
        have later : (address + how.stride).toNat = address.toNat + how.stride.toNat :=
          toNat_add_stride (Nat.lt_of_lt_of_le low registers) how
        rw [Reading.registers_succ low (first.trans ran) short]
        refine ih (Reading.Resumes.next short inside same ran) ?_ (.inr ?_)
        · show (done ++ [answer.1] ++ rest).length = done.length + 1 + left
          rw [List.length_cons] at total
          rw [List.length_append, List.length_append, List.length_singleton]
          omega
        · show start ≤ (address + how.stride).toNat
          omega
    · have stops : r.registers one below how.stride (left + 1) = .ok r := by
        unfold Reading.registers
        exact if_neg low
      exact ok_bind stops (goesOn r resumes (.inr (Nat.not_lt.mp low)))

/-- **A buffer is filled** with the bytes that are read one by one, whatever stood in it. -/
theorem checkedRead_eq_checkedBytes (cf : CheckedFunctions σ) (how : Addressing) {address : UInt32}
    {buffer : List UInt8} (short : buffer.length < 2 ^ 64)
    (inside : address.toNat + how.stride.toNat * buffer.length ≤ 2 ^ 32) (area : CommonArea) (s : σ) :
    checkedRead cf how address buffer area s = checkedBytes cf how address buffer.length area s := by
  let outcome := checkedBytes cf how address buffer.length area s
  have common : ∀ (address : UInt32) (area : CommonArea) (s : σ), 0 ≤ address.toNat →
      address.toNat < commonEnd →
      checkedCommonByte address area s = checkedReadByte cf address area s :=
    fun _ _ _ _ low => (if_pos low).symm
  have function : ∀ (address : UInt32) (area : CommonArea) (s : σ), commonEnd ≤ address.toNat →
      address.toNat < registersEnd →
      checkedFunctionByte cf address area s = checkedReadByte cf address area s :=
    fun _ _ _ high low => ((if_neg (Nat.not_lt.mpr high)).trans (if_pos low)).symm
  have begun : (⟨buffer, 0, address, area, s⟩ : Reading σ).Resumes cf how outcome := by
    refine ⟨[], buffer, rfl, rfl, short, inside, ?_⟩
    simp only [List.nil_append]
    exact (bind_pure _).symm
  refine Reading.registers_bind (by decide) common (fun r resumes ended => ?_) begun
    (Nat.zero_add _).symm (.inr (Nat.zero_le _))
  have within : r.position ≤ r.buffer.length := by
    obtain ⟨done, rest, buffer, position, -⟩ := resumes
    rw [buffer, position, List.length_append]
    exact Nat.le_add_right ..
  refine ok_bind (sub_eq within) ?_
  refine Reading.registers_bind (Nat.le_refl _) function (fun last resumes ended => ?_) resumes
    (Nat.add_sub_cancel' within).symm (ended.imp_left fun full => by omega)
  obtain ⟨done, rest, filled, position, short, inside, same⟩ := resumes
  have memory : rest.length = 0 ∨ registersEnd ≤ last.address.toNat := by
    refine ended.imp_left fun full => ?_
    rw [filled, position, List.length_append] at full
    omega
  rw [same, checkedBytes_memory last.area last.device memory inside, filled, position]
  exact ok_bind (checkedMemory_eq last.area.layout how short) rfl

/-- Reads into a buffer of one byte each are those bytes. -/
theorem checkedReadEach_eq_checkedBytes (cf : CheckedFunctions σ) (how : Addressing)
    {address : UInt32} {buffers : List UInt8}
    (inside : address.toNat + how.stride.toNat * buffers.length ≤ 2 ^ 32) (area : CommonArea) (s : σ) :
    checkedReadEach cf how address buffers area s =
      checkedBytes cf how address buffers.length area s := by
  induction buffers generalizing address area s with
  | nil => rfl
  | cons old buffers ih =>
    have single : checkedRead cf how address [old] area s = do
        let first ← checkedReadByte cf address area s
        return ([first.1], first.2) := by
      have one : [old].length < 2 ^ 64 := Nat.one_lt_two_pow (by decide)
      have room : address.toNat + how.stride.toNat * [old].length ≤ 2 ^ 32 := by
        have step : how.stride.toNat ≤ 1 := by
          cases how <;> decide
        have below := address.toNat_lt
        rw [List.length_singleton, Nat.mul_one]
        omega
      exact checkedRead_eq_checkedBytes cf how one room area s
    unfold checkedReadEach
    rw [single, bind_assoc]
    refine bind_congr fun first => ?_
    rw [pure_bind, ih (inside_next inside)]
    rfl

/-- **A read of several bytes is as many reads of one byte.** Wherever it begins and ends, and whatever
the registers, the tuples and the functions are, it answers the same bytes, makes the same accesses to
the functions in the same order, and leaves the same registers. That holds of the reads that fill a
buffer segment by segment too, faults included, and whatever stood in the buffers. -/
theorem read_bytewise (fs : Functions σ) (cf : CheckedFunctions σ) (how : Addressing)
    (area : CommonArea) (s : σ) :
    (∀ address length,
      read fs how address length area s = readEach fs how address length area s ∧
        ∀ calls, read fs.recorded how address length area (s, calls) =
          readEach fs.recorded how address length area (s, calls)) ∧
      ∀ (address : UInt32) (buffer buffers : List UInt8), buffer.length < 2 ^ 64 →
        buffers.length = buffer.length →
        address.toNat + how.stride.toNat * buffer.length ≤ 2 ^ 32 →
        checkedRead cf how address buffer area s =
          checkedReadEach cf how address buffers area s := by
  refine ⟨fun address length => ⟨read_eq_readEach fs how address length area s, fun calls =>
    read_eq_readEach fs.recorded how address length area (s, calls)⟩, ?_⟩
  intro address buffer buffers short same inside
  rw [checkedRead_eq_checkedBytes cf how short inside,
    checkedReadEach_eq_checkedBytes cf how (same ▸ inside), same]

/-- Functions whose code storage holds the low byte of each address. -/
def numbered : Functions Unit where
  reset s := s
  read _ _ length _ s := (List.replicate length 0, s)
  write _ _ _ _ s := s
  readStorage _ address s := (some (UInt8.ofNat address.toNat), s)
  length_read _ _ _ _ _ := List.length_replicate

/-- The same functions, in steps none of which faults. -/
def checkedNumbered : CheckedFunctions Unit where
  reset s := .ok (numbered.reset s)
  read f address length how s := .ok (numbered.read f address length how s)
  write f address bytes how s := .ok (numbered.write f address bytes how s)
  readStorage f address s := .ok (numbered.readStorage f address s)
  writeStorage f address value s := .ok (numbered.writeStorage f address value s)

/-- One function, with its storage open at address 5. -/
def opened : CommonArea :=
  { powerOn ⟨revision110, .replicate 7 {}, #[0x20, 0xff]⟩ 1 with
    functions := .replicate 7 ⟨storageSupported ||| storageEnabled, 0, 5⟩ }

theorem read_bytewise_window :
    (readEach numbered .fixed 0x10f 3 opened ()).1 = [5, 6, 7] ∧
      read numbered .fixed 0x10f 3 opened () = readEach numbered .fixed 0x10f 3 opened () ∧
      checkedRead checkedNumbered .fixed 0x10f [0xaa, 0xaa, 0xaa] opened () =
        checkedReadEach checkedNumbered .fixed 0x10f [0, 0, 0] opened () := by
  obtain ⟨whole, staged⟩ := read_bytewise numbered checkedNumbered .fixed opened ()
  exact ⟨by decide, (whole 0x10f 3).1,
    staged 0x10f [0xaa, 0xaa, 0xaa] [0, 0, 0] (by decide) rfl (by decide)⟩

end CommonArea

end WlanCard
