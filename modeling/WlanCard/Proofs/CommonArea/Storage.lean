import WlanCard.Proofs.CommonArea.Run

/-!
# Code storage behind its window

A function's code storage is reached one byte at a time, by reads and writes of its window. The window
lets a byte through if the function has storage and the host has asked for it with its last write to
the interface code since the last reset (`perform_standing`); the byte then goes to the address in the
pointer beside the window, which moves on by one and wraps at the end of storage. So the bytes that get
through, however they are spread over operations, go to addresses one after the other
(`storage_gated`).

What a function's state becomes is said once for each register written (`functions_stored`) and for
reads (`read_afterReads`); the three laws of an operation, about the gate, the pointer and the accesses
made, follow from that.
-/

namespace WlanCard

/-- The function whose code storage an access goes to, if any. -/
def Access.storageOf? : Access → Option FunctionNumber
  | .readStorage f _ | .writeStorage f _ _ => some f
  | .reset | .read .. | .write .. => none

/-- The accesses among exchanges that go to the code storage of a function. -/
def Exchange.storageAccesses (f : FunctionNumber) (exchanges : List Exchange) : List Access :=
  (exchanges.map (·.access)).filter (·.storageOf? = some f)

/-- Whether a function has code storage. -/
def Layout.hasStorage (layout : Layout) (i : Fin 7) : Bool :=
  (layout.functions.get i).interfaceCode &&& CommonArea.storageSupported != 0

/-- Whether the function has code storage, as its interface code says. -/
def FunctionState.hasStorage (f : FunctionState) : Bool :=
  f.interfaceCode &&& CommonArea.storageSupported != 0

namespace CommonArea

/-! ## Bytes through a window -/

/-- A byte that the host reads or writes through a storage window. -/
inductive Touch where
  | read
  | write (value : UInt8)
deriving DecidableEq, Repr

/-- The access to storage that a byte leads to, at an address. -/
def Touch.access (f : FunctionNumber) (address : StorageAddress) : Touch → Access
  | .read => .readStorage f address
  | .write value => .writeStorage f address value

/-- The accesses that bytes lead to, one after the other from an address on. -/
def Touch.accesses (f : FunctionNumber) (address : StorageAddress) (touches : List Touch) :
    List Access :=
  touches.mapIdx fun k touch => touch.access f (address + BitVec.ofNat 24 k)

theorem Touch.accesses_append (f : FunctionNumber) (address : StorageAddress)
    (first rest : List Touch) :
    accesses f address (first ++ rest) =
      accesses f address first ++ accesses f (address + BitVec.ofNat 24 first.length) rest := by
  have later : ∀ k, address + BitVec.ofNat 24 (k + first.length) =
      address + BitVec.ofNat 24 first.length + BitVec.ofNat 24 k := by
    intro k
    rw [Nat.add_comm, BitVec.ofNat_add, BitVec.add_assoc]
  unfold accesses
  rw [List.mapIdx_append]
  simp only [later]

namespace Operation

/-- The bytes of an operation that ask for the storage of function `i + 1`. -/
def touches (i : Fin 7) : Operation → List Touch
  | .write address value =>
    if address = (Register.function i .storageWindow).address then [.write value] else []
  | .read how address length => List.replicate (windowReads how address length i) .read
  | _ => []

/-- Whether an operation asks for the storage of function `i + 1` to be open from then on, if it told
anything about that. -/
def asks? (i : Fin 7) : Operation → Option Bool
  | .write address value =>
    if address = (Register.function i .interfaceCode).address then
      some (value &&& storageEnabled != 0)
    else none
  | .reset _ => some false
  | _ => none

/-- Whether operations on new registers ask, in the end, for the storage of function `i + 1` to be
open. -/
def asked (i : Fin 7) (ops : List Operation) : Bool :=
  (ops.filterMap (asks? i)).getLast?.getD false

/-- Whether an operation gives the storage pointer of function `i + 1` another place. -/
def Places (i : Fin 7) : Operation → Prop
  | .write address _ => ∃ j, address = (Register.function i (.storagePointer j)).address
  | .reset _ => True
  | _ => False

instance (i : Fin 7) : DecidablePred (Places i)
  | .write address _ =>
    inferInstanceAs (Decidable (∃ j, address = (Register.function i (.storagePointer j)).address))
  | .reset _ => inferInstanceAs (Decidable True)
  | .read .. | .setInterruptPending .. | .select _ => inferInstanceAs (Decidable False)

/-- The bytes of operations that get through the window of function `i + 1`, which has storage or not,
where `isAsked` says whether the host has asked for it before. -/
def passed (i : Fin 7) (has : Bool) : (isAsked : Bool) → List Operation → List Touch
  | _, [] => []
  | isAsked, op :: ops =>
    (if has && isAsked then op.touches i else []) ++ passed i has ((op.asks? i).getD isAsked) ops

/-- The addresses that an operation goes to. -/
def addresses : Operation → List Nat
  | .write address _ => [address]
  | .read how address length => (List.range length).map fun k => address + k * how.stride.toNat
  | _ => []

theorem asked_concat (i : Fin 7) (ops : List Operation) (op : Operation) :
    asked i (ops ++ [op]) = (op.asks? i).getD (asked i ops) :=
  lastTold_concat (asks? i) false ops op

end Operation

end CommonArea

/-! ## What a byte written does to a function -/

/-- A function after a byte has been written to one of its basic registers. -/
def FunctionState.stored (f : FunctionState) (value : UInt8) : FunctionRegister → FunctionState
  | .interfaceCode => f.setStorageOpen (value &&& CommonArea.storageEnabled != 0)
  | .storagePointer j => { f with storagePointer := Word.setByte f.storagePointer j value }
  | .storageWindow => f.afterReads 1
  | .extendedInterfaceCode | .powerSelection | .tuplePointer _ | .blockLength _ => f

/-- Bits of either of two bytes. -/
theorem or_and (x y z : UInt8) : (x ||| y) &&& z = x &&& z ||| y &&& z := by
  refine eq_of_bitSet fun i => ?_
  rw [bitSet_or, bitSet_and, bitSet_and, bitSet_and, bitSet_or, Bool.and_or_distrib_right]

namespace FunctionState

open CommonArea (storageSupported storageEnabled)

/-- Only a function with storage opens it. -/
theorem setStorageOpen_gate (f : FunctionState) (wanted : Bool) :
    (f.setStorageOpen wanted).hasStorage = f.hasStorage ∧
      (f.setStorageOpen wanted).storageOpen = (f.hasStorage && wanted) ∧
      (f.setStorageOpen wanted).storagePointer = f.storagePointer := by
  have cases : f.setStorageOpen wanted =
      if f.hasStorage && wanted then
        { f with interfaceCode := f.interfaceCode ||| storageEnabled }
      else { f with interfaceCode := f.interfaceCode &&& ~~~storageEnabled } := by
    rw [Bool.and_comm]
    rfl
  rw [cases]
  by_cases opens : (f.hasStorage && wanted) = true
  · have supported : (f.interfaceCode ||| storageEnabled) &&& storageSupported =
        f.interfaceCode &&& storageSupported := (or_and ..).trans UInt8.or_zero
    have enabled : (f.interfaceCode ||| storageEnabled) &&& storageEnabled ≠ 0 := by
      rw [or_and]
      intro none
      have bit := congrArg (bitSet · 7) none
      rw [bitSet_or, bitSet_zero, Bool.or_eq_false_iff] at bit
      cases bit.2
    rw [if_pos opens, opens]
    refine ⟨congrArg (· != 0) supported, ?_, rfl⟩
    exact bne_iff_ne.mpr enabled
  · have supported : f.interfaceCode &&& ~~~storageEnabled &&& storageSupported =
        f.interfaceCode &&& storageSupported := (UInt8.and_assoc ..).trans rfl
    have enabled : f.interfaceCode &&& ~~~storageEnabled &&& storageEnabled = 0 :=
      (UInt8.and_assoc ..).trans UInt8.and_zero
    rw [if_neg opens, Bool.eq_false_iff.mpr opens]
    refine ⟨congrArg (· != 0) supported, ?_, rfl⟩
    exact congrArg (· != 0) enabled

/-- A new function has storage or not, and it is closed. -/
theorem powerOn_gate (info : FunctionInfo) :
    (powerOn info).hasStorage = (info.interfaceCode &&& storageSupported != 0) ∧
      (powerOn info).storageOpen = false := by
  have supported : info.interfaceCode &&& CommonArea.interfaceKeptMask &&& storageSupported =
      info.interfaceCode &&& storageSupported := (UInt8.and_assoc ..).trans rfl
  have closed : info.interfaceCode &&& CommonArea.interfaceKeptMask &&& storageEnabled = 0 :=
    (UInt8.and_assoc ..).trans UInt8.and_zero
  exact ⟨congrArg (· != 0) supported, congrArg (· != 0) closed⟩

theorem afterReads_gate (f : FunctionState) (count : Nat) :
    (f.afterReads count).hasStorage = f.hasStorage ∧
      (f.afterReads count).storageOpen = f.storageOpen := by
  unfold afterReads
  split <;> exact ⟨rfl, rfl⟩

/-- The pointer moves on by as many bytes as get through. -/
theorem storagePointer_afterReads (f : FunctionState) (count : Nat) :
    (f.afterReads count).storagePointer =
      f.storagePointer + BitVec.ofNat 24 (if f.storageOpen then count else 0) := by
  unfold afterReads
  split
  · rfl
  · exact (BitVec.add_zero _).symm

end FunctionState

namespace CommonArea

variable {σ : Type}

/-- A byte written to a basic register changes the state of its function only. -/
theorem functions_stored (area : CommonArea) (value : UInt8) (i j : Fin 7) (r : FunctionRegister) :
    (area.stored value (.function j r)).functions.get i =
      if i = j then (area.functions.get i).stored value r else area.functions.get i := by
  have kept : area.functions.get i =
      if i = j then area.functions.get i else area.functions.get i := (ite_self _).symm
  dsimp only [CommonArea.stored]
  by_cases window : area.opensWindow j r.offset = true
  · obtain rfl := eq_storageWindow_of_opens window
    rw [if_pos window, functions_setFunction]
    split
    next same =>
      have isOpen := ((opensWindow_iff ..).mp window).2
      subst same
      exact (if_pos isOpen).symm
    next => rfl
  · rw [if_neg window]
    unfold writeFunctionRegister
    rw [r.ofOffset?_offset]
    cases r with
    | interfaceCode =>
      refine (functions_setFunction ..).trans ?_
      split
      next same => subst same; rfl
      next => rfl
    | storagePointer k =>
      refine (functions_setFunction ..).trans ?_
      split
      next same => subst same; rfl
      next => rfl
    | storageWindow =>
      have closed : ¬ (area.functions.get j).storageOpen = true :=
        fun isOpen => window ((opensWindow_iff ..).mpr ⟨rfl, isOpen⟩)
      have unmoved : (area.functions.get j).stored value .storageWindow = area.functions.get j :=
        if_neg closed
      refine kept.trans ?_
      by_cases same : i = j
      · rw [same, unmoved]
      · rw [if_neg same, if_neg same]
    | _ => exact kept

theorem functions_stored_common (area : CommonArea) (value : UInt8) (r : CommonRegister) :
    (area.stored value (.common r)).functions = area.functions := by
  dsimp only [stored, writeCommon]
  rw [r.ofOffset?_offset]
  cases r with
  | ioAbort =>
    dsimp only
    split
    · rfl
    · split <;> rfl
  | _ => rfl

/-- **A byte written** lands in a basic register of function `i + 1`, or leaves that function alone. -/
theorem writeByte_page (fs : Functions σ) (area : CommonArea) (s : σ) (address : Nat) (value : UInt8)
    (i : Fin 7) :
    let after := (area.writeByte fs address value s).2.1
    (∃ r, address = (Register.function i r).address ∧
        after.functions.get i = (area.functions.get i).stored value r) ∨
      (∀ r, address ≠ (Register.function i r).address) ∧
        after.functions.get i = area.functions.get i := by
  intro after
  cases found : Register.ofAddress? address with
  | none =>
    refine .inr ⟨?_, ?_⟩
    · rintro r rfl
      rw [Register.ofAddress?_address] at found
      cases found
    · have same : after = area := congrArg (·.2.1) (writeByte_of_none fs area s value found)
      rw [same]
  | some r =>
    obtain rfl := Register.address_of_ofAddress? found
    have stored : after = area.stored value r := writeByte_at fs area s value r
    cases r with
    | common r =>
      refine .inr ⟨fun q same => ?_, ?_⟩
      · cases Register.address_inj.mp same
      · rw [stored, functions_stored_common]
    | function j r =>
      rw [stored, functions_stored]
      by_cases same : i = j
      · exact .inl ⟨r, by rw [same], if_pos same⟩
      · refine .inr ⟨fun q equal => ?_, if_neg same⟩
        cases Register.address_inj.mp equal
        exact same rfl

/-- A read of any length moves the pointer of a function on by as many bytes as come through its
window. -/
theorem functions_read (fs : Functions σ) (area : CommonArea) (s : σ) (how : Addressing)
    (address length : Nat) (i : Fin 7) :
    (read fs how address length area s).2.1.functions.get i =
      (area.functions.get i).afterReads (windowReads how address length i) := by
  rw [read_afterReads, functions_afterReads]

/-- The addresses of the registers of a function are told apart. -/
theorem function_address_inj {i : Fin 7} {r q : FunctionRegister} :
    (Register.function i r).address = (Register.function i q).address ↔ r = q := by
  rw [Register.address_inj, Register.function.injEq]
  exact and_iff_right rfl

/-! ## The laws of an operation -/

/-- Where the gate of the storage of function `i + 1` stands: the function has storage as the layout
says, and it is open if the host has asked for it too. -/
structure Standing (i : Fin 7) (isAsked : Bool) (area : CommonArea) : Prop where
  hasStorage : (area.functions.get i).hasStorage = area.layout.hasStorage i
  storageOpen : (area.functions.get i).storageOpen = (area.layout.hasStorage i && isAsked)

theorem Standing.powerOn (i : Fin 7) (layout : Layout) (count : Fin 8) :
    (CommonArea.powerOn layout count).Standing i false := by
  have fresh : (CommonArea.powerOn layout count).functions.get i =
      FunctionState.powerOn (layout.functions.get i) := Vector.getElem_map ..
  obtain ⟨has, closed⟩ := FunctionState.powerOn_gate (layout.functions.get i)
  exact ⟨by rw [fresh]; exact has, by rw [fresh, closed, Bool.and_false]⟩

/-- **The gate** stands as the host has last asked, where there is storage. -/
theorem perform_standing (fs : Functions σ) {i : Fin 7} {isAsked : Bool} {area : CommonArea}
    (stands : area.Standing i isAsked) (s : σ) (op : Operation) :
    (area.perform fs s op).2.1.Standing i ((op.asks? i).getD isAsked) := by
  have layout := perform_layout fs area s op
  -- What says nothing about the gate leaves it as it is.
  have unsaid {f : FunctionState} (none : op.asks? i = none)
      (state : (area.perform fs s op).2.1.functions.get i = f)
      (gate : f.hasStorage = (area.functions.get i).hasStorage ∧
        f.storageOpen = (area.functions.get i).storageOpen) :
      (area.perform fs s op).2.1.Standing i ((op.asks? i).getD isAsked) := by
    refine ⟨?_, ?_⟩
    · rw [state, layout, gate.1, stands.hasStorage]
    · rw [state, layout, gate.2, stands.storageOpen, none, Option.getD_none]
  cases op with
  | write address value =>
    rcases writeByte_page fs area s address value i with ⟨r, rfl, state⟩ | ⟨elsewhere, state⟩
    · cases r with
      | interfaceCode =>
        obtain ⟨has, isOpen, -⟩ :=
          (area.functions.get i).setStorageOpen_gate (value &&& storageEnabled != 0)
        have told : (Operation.write (Register.function i .interfaceCode).address value).asks? i =
            some (value &&& storageEnabled != 0) := if_pos rfl
        refine ⟨?_, ?_⟩
        · rw [layout, ← stands.hasStorage, ← has]
          exact congrArg (·.hasStorage) state
        · rw [layout, told, Option.getD_some, ← stands.hasStorage, ← isOpen]
          exact congrArg (·.storageOpen) state
      | storageWindow =>
        exact unsaid (if_neg fun same => by cases function_address_inj.mp same) state
          (FunctionState.afterReads_gate ..)
      | _ => exact unsaid (if_neg fun same => by cases function_address_inj.mp same) state ⟨rfl, rfl⟩
    · exact unsaid (if_neg (elsewhere _)) state ⟨rfl, rfl⟩
  | read how address length =>
    exact unsaid rfl (functions_read fs area s how address length i)
      (FunctionState.afterReads_gate ..)
  | setInterruptPending | select => exact unsaid rfl rfl ⟨rfl, rfl⟩
  | reset count =>
    have fresh := Standing.powerOn i area.layout count
    exact ⟨fresh.hasStorage, fresh.storageOpen⟩

/-- **The pointer** moves on by one for each byte that gets through, and is moved by nothing else than
being given another place. -/
theorem perform_pointer (fs : Functions σ) {i : Fin 7} (area : CommonArea) (s : σ) {op : Operation}
    (stays : ¬ op.Places i) :
    ((area.perform fs s op).2.1.functions.get i).storagePointer =
      (area.functions.get i).storagePointer +
        BitVec.ofNat 24
          (if (area.functions.get i).storageOpen then op.touches i else []).length := by
  have unmoved (none : op.touches i = [])
      (state : ((area.perform fs s op).2.1.functions.get i).storagePointer =
        (area.functions.get i).storagePointer) :
      ((area.perform fs s op).2.1.functions.get i).storagePointer =
        (area.functions.get i).storagePointer +
          BitVec.ofNat 24
            (if (area.functions.get i).storageOpen then op.touches i else []).length := by
    rw [none, ite_self, state]
    exact (BitVec.add_zero _).symm
  cases op with
  | write address value =>
    rcases writeByte_page fs area s address value i with ⟨r, rfl, state⟩ | ⟨elsewhere, state⟩
    · cases r with
      | storageWindow =>
        have through : (Operation.write (Register.function i .storageWindow).address value).touches i =
            [.write value] := if_pos rfl
        refine (congrArg (·.storagePointer) state).trans ?_
        rw [through, apply_ite List.length]
        exact FunctionState.storagePointer_afterReads ..
      | storagePointer j => exact absurd ⟨j, rfl⟩ stays
      | interfaceCode =>
        refine unmoved (if_neg fun same => by cases function_address_inj.mp same) ?_
        exact (congrArg (·.storagePointer) state).trans
          ((area.functions.get i).setStorageOpen_gate _).2.2
      | _ =>
        exact unmoved (if_neg fun same => by cases function_address_inj.mp same)
          (congrArg (·.storagePointer) state)
    · exact unmoved (if_neg (elsewhere _)) (congrArg (·.storagePointer) state)
  | read how address length =>
    refine (congrArg (·.storagePointer) (functions_read fs area s how address length i)).trans ?_
    rw [FunctionState.storagePointer_afterReads, apply_ite List.length]
    dsimp only [Operation.touches]
    rw [List.length_replicate, List.length_nil]
  | setInterruptPending | select => exact unmoved rfl rfl
  | reset => exact absurd trivial stays

/-! ## The accesses made -/

/-- What a byte at an address leads to for function `i + 1`, whatever its exchange is noted with. -/
theorem storageAccesses_windowAt (area : CommonArea) (address : Nat) (i : Fin 7) (touch : Touch)
    (answer : Fin 7 → List UInt8) :
    let f := area.functions.get i
    Exchange.storageAccesses i.succ
        ((area.windowAt address).toList.map fun j =>
          ⟨touch.access j.succ (area.functions.get j).storagePointer, answer j⟩) =
      Touch.accesses i.succ f.storagePointer
        (if f.storageOpen then
          if address = (Register.function i .storageWindow).address then [touch] else []
        else []) := by
  intro f
  have owner (j : Fin 7) (p : StorageAddress) : (touch.access j.succ p).storageOf? = some j.succ := by
    cases touch <;> rfl
  cases found : area.windowAt address with
  | none =>
    have shut : (if f.storageOpen then
        if address = (Register.function i .storageWindow).address then [touch] else [] else []) = [] := by
      split
      next isOpen =>
        refine if_neg fun here => ?_
        rw [windowAt_eq_some_iff.mpr ⟨here, isOpen⟩] at found
        cases found
      next => rfl
    rw [shut]
    rfl
  | some j =>
    obtain ⟨rfl, isOpen⟩ := windowAt_eq_some_iff.mp found
    unfold Exchange.storageAccesses
    simp only [Option.toList_some, List.map_cons, List.map_nil, List.filter_cons, List.filter_nil,
      owner, decide_eq_true_eq, Option.some.injEq, Fin.succ_inj, Register.address_inj,
      Register.function.injEq, and_true]
    by_cases same : j = i
    · subst same
      rw [if_pos rfl, if_pos isOpen, if_pos rfl]
      exact congrArg (fun p => [touch.access j.succ p]) (BitVec.add_zero _).symm
    · rw [if_neg same, if_neg same, ite_self]
      rfl

theorem storageAccesses_append (f : FunctionNumber) (first rest : List Exchange) :
    Exchange.storageAccesses f (first ++ rest) =
      Exchange.storageAccesses f first ++ Exchange.storageAccesses f rest := by
  unfold Exchange.storageAccesses
  rw [List.map_append, List.filter_append]

theorem storageAccesses_read (fs : Functions σ) (area : CommonArea) (s : σ) (how : Addressing)
    (address length : Nat) (i : Fin 7) :
    let f := area.functions.get i
    Exchange.storageAccesses i.succ (area.exchanges fs s (.read how address length)) =
      Touch.accesses i.succ f.storagePointer
        (if f.storageOpen then List.replicate (windowReads how address length i) .read else []) := by
  intro f
  induction length generalizing address area s with
  | zero =>
    show _ = Touch.accesses i.succ f.storagePointer (if f.storageOpen then [] else [])
    rw [ite_self]
    rfl
  | succ length ih =>
    have state : (area.readByte fs address s).2.1.functions.get i =
        f.afterReads (windowReads how address 1 i) := by
      rw [readByte_afterReads fs how, functions_afterReads]
    have one : List.replicate (windowReads how address 1 i) Touch.read =
        if address = (Register.function i .storageWindow).address then [.read] else [] := by
      rw [windowReads_one]
      split <;> rfl
    have first := storageAccesses_windowAt area address i .read fun j =>
      (fs.readStorage j.succ (area.functions.get j).storagePointer s).1.toList
    rw [exchanges_read_succ, storageAccesses_append, byteExchanges_eq, ih, state,
      (f.afterReads_gate _).2, f.storagePointer_afterReads]
    refine (congrArg (· ++ _) first).trans ?_
    rw [← one, windowReads_succ how address length]
    by_cases isOpen : f.storageOpen = true
    · simp only [f, if_pos isOpen, List.replicate_append_replicate.symm, Touch.accesses_append,
        List.length_replicate]
    · simp only [f, if_neg isOpen]
      rfl

/-- **The accesses of an operation** to the storage of a function are made by the bytes that get
through, one after the other from the pointer on. -/
theorem storageAccesses_perform (fs : Functions σ) (area : CommonArea) (s : σ) (op : Operation)
    (i : Fin 7) :
    let f := area.functions.get i
    Exchange.storageAccesses i.succ (area.exchanges fs s op) =
      Touch.accesses i.succ f.storagePointer (if f.storageOpen then op.touches i else []) := by
  intro f
  cases op with
  | write address value =>
    rw [exchanges_write]
    exact storageAccesses_windowAt area address i (.write value) fun _ => []
  | read how address length => exact storageAccesses_read fs area s how address length i
  | setInterruptPending | select | reset =>
    show _ = Touch.accesses i.succ f.storagePointer (if f.storageOpen then [] else [])
    rw [ite_self]
    rfl

/-- Nothing but code storage is accessed. -/
theorem storageOf_exchanges (fs : Functions σ) (area : CommonArea) (s : σ) (op : Operation) :
    ∀ e ∈ area.exchanges fs s op, ∃ i : Fin 7, e.access.storageOf? = some i.succ := by
  cases op with
  | write address value =>
    rw [exchanges_write]
    intro e mem
    obtain ⟨i, -, rfl⟩ := List.mem_map.mp mem
    exact ⟨i, rfl⟩
  | read how address length =>
    induction length generalizing address area s with
    | zero =>
      rw [exchanges_read_zero]
      exact fun _ mem => absurd mem List.not_mem_nil
    | succ length ih =>
      rw [exchanges_read_succ, byteExchanges_eq]
      intro e mem
      rcases List.mem_append.mp mem with first | rest
      · obtain ⟨i, -, rfl⟩ := List.mem_map.mp first
        exact ⟨i, rfl⟩
      · exact ih _ _ _ e rest
  | setInterruptPending | select | reset => exact fun _ mem => absurd mem List.not_mem_nil

/-! ## Runs -/

/-- The bytes of a run that get through a window make its accesses, one after the other from the
pointer on, as long as nothing gives that another place. -/
theorem storageAccesses_run (fs : Functions σ) {i : Fin 7} {isAsked : Bool} {area : CommonArea}
    (stands : area.Standing i isAsked) (s : σ) {later : List Operation}
    (stays : ∀ op ∈ later, ¬ op.Places i) :
    let p := (area.functions.get i).storagePointer
    let bytes := Operation.passed i (area.layout.hasStorage i) isAsked later
    Exchange.storageAccesses i.succ (area.runExchanges fs later s) = Touch.accesses i.succ p bytes ∧
      ((run fs later area s).1.functions.get i).storagePointer =
        p + BitVec.ofNat 24 bytes.length := by
  induction later generalizing area s isAsked with
  | nil => exact ⟨rfl, (BitVec.add_zero _).symm⟩
  | cons op later ih =>
    intro p bytes
    let after := (area.perform fs s op).2
    let first := if area.layout.hasStorage i && isAsked then op.touches i else []
    have cut : bytes = first ++ Operation.passed i (area.layout.hasStorage i)
        ((op.asks? i).getD isAsked) later := rfl
    have pointer := perform_pointer fs area s (stays op List.mem_cons_self)
    have accesses := storageAccesses_perform fs area s op i
    dsimp only at accesses
    rw [stands.storageOpen] at pointer accesses
    obtain ⟨rest, last⟩ := ih (perform_standing fs stands s op) after.2
      fun op mem => stays op (List.mem_cons_of_mem _ mem)
    rw [pointer, perform_layout] at rest last
    refine ⟨?_, ?_⟩
    · show Exchange.storageAccesses i.succ
        (area.exchanges fs s op ++ after.1.runExchanges fs later after.2) = _
      rw [storageAccesses_append, accesses, rest, cut, Touch.accesses_append]
    · rw [cut, List.length_append, BitVec.ofNat_add, ← BitVec.add_assoc]
      exact last

theorem run_standing (fs : Functions σ) (layout : Layout) (count : Fin 8) (ops : List Operation)
    (s : σ) (i : Fin 7) :
    (run fs ops (powerOn layout count) s).1.Standing i (Operation.asked i ops) ∧
      (run fs ops (powerOn layout count) s).1.layout = layout := by
  let inv (ops : List Operation) (now : CommonArea) : Prop :=
    now.Standing i (Operation.asked i ops) ∧ now.layout = layout
  have step : ∀ ops now s op, inv ops now → inv (ops ++ [op]) (now.perform fs s op).2.1 := by
    rintro ops now s op ⟨stands, kept⟩
    refine ⟨?_, (perform_layout ..).trans kept⟩
    rw [Operation.asked_concat]
    exact perform_standing fs stands s op
  exact run_induction inv ⟨Standing.powerOn i layout count, rfl⟩ step ops s

/-- An operation that goes to other pages leaves a function alone. -/
theorem functions_perform_of_elsewhere (fs : Functions σ) (area : CommonArea) (s : σ) {op : Operation}
    {i : Fin 7} (noReset : ∀ count, op ≠ .reset count)
    (elsewhere : ∀ address ∈ op.addresses, address / commonEnd ≠ i + 1) :
    (area.perform fs s op).2.1.functions.get i = area.functions.get i := by
  have page (r : FunctionRegister) : (Register.function i r).address / commonEnd = i + 1 := by
    have below := r.offset_lt
    simp only [Register.address, commonEnd] at *
    omega
  cases op with
  | write address value =>
    rcases writeByte_page fs area s address value i with ⟨r, rfl, -⟩ | ⟨-, state⟩
    · exact absurd (page r) (elsewhere _ List.mem_cons_self)
    · exact state
  | read how address length =>
    have unread : windowReads how address length i = 0 := by
      refine List.countP_eq_zero.mpr fun k mem here => ?_
      have there := elsewhere _ (List.mem_map_of_mem mem)
      rw [decide_eq_true_eq] at here
      rw [here] at there
      exact there (page _)
    refine (functions_read fs area s how address length i).trans ?_
    rw [unread, FunctionState.afterReads_zero]
  | setInterruptPending | select => rfl
  | reset count => exact absurd rfl (noReset count)

/-- **Code storage is gated, and accessed in order.** Whatever has been done to the registers, nothing
but code storage is accessed through them; that of a function only by bytes through its window, and
only if the function has storage and the host has asked for it with its last write to the interface
code since the last reset. As long as nothing gives the pointer another place, the bytes that get
through are accesses to `p`, `p + 1` and so on, wrapping at 24 bits, and leave the pointer behind the
last; those that do not leave it alone. What goes to the pages of other functions leaves it alone too. -/
theorem storage_gated (fs : Functions σ) (layout : Layout) (count : Fin 8) (ops : List Operation)
    (s : σ) (i : Fin 7) :
    let now := run fs ops (powerOn layout count) s
    let f := now.1.functions.get i
    let p := f.storagePointer
    let isAsked := Operation.asked i ops
    (∀ op, ∀ e ∈ now.1.exchanges fs now.2 op, ∃ j : Fin 7, e.access.storageOf? = some j.succ) ∧
      (∀ op, Exchange.storageAccesses i.succ (now.1.exchanges fs now.2 op) =
        Touch.accesses i.succ p (if layout.hasStorage i && isAsked then op.touches i else [])) ∧
      (∀ later, (∀ op ∈ later, ¬ op.Places i) →
        let bytes := Operation.passed i (layout.hasStorage i) isAsked later
        Exchange.storageAccesses i.succ (now.1.runExchanges fs later now.2) =
            Touch.accesses i.succ p bytes ∧
          ((run fs later now.1 now.2).1.functions.get i).storagePointer =
            p + BitVec.ofNat 24 bytes.length) ∧
      ∀ op, (∀ count, op ≠ .reset count) →
        (∀ address ∈ op.addresses, address / commonEnd ≠ i + 1) →
        (now.1.perform fs now.2 op).2.1.functions.get i = f := by
  intro now f p isAsked
  obtain ⟨stands, kept⟩ := run_standing fs layout count ops s i
  refine ⟨fun op => storageOf_exchanges fs now.1 now.2 op, fun op => ?_, fun later stays => ?_,
    fun op noReset elsewhere => functions_perform_of_elsewhere fs now.1 now.2 noReset elsewhere⟩
  · rw [← kept, ← stands.storageOpen]
    exact storageAccesses_perform fs now.1 now.2 op i
  · rw [← kept]
    exact storageAccesses_run fs stands now.2 stays

/-- One function with code storage, opened at its last byte. -/
def atTheEnd : CommonArea × Unit :=
  run numbered [.write 0x100 0x80, .write 0x10c 0xff, .write 0x10d 0xff, .write 0x10e 0xff]
    (powerOn ⟨revision110, .replicate 7 { interfaceCode := storageSupported }, #[]⟩ 1) ()

theorem storage_gated_wraps :
    let later : List Operation := [.read .fixed 0x10f 2, .write 0x20f 0xaa, .write 0x10f 0x55]
    Exchange.storageAccesses 1 (atTheEnd.1.runExchanges numbered later atTheEnd.2) =
        [.readStorage 1 0xffffff, .readStorage 1 0, .writeStorage 1 1 0x55] ∧
      ((run numbered later atTheEnd.1 atTheEnd.2).1.functions.get 0).storagePointer = 2 ∧
      (atTheEnd.1.perform numbered atTheEnd.2 (.write 0x20c 7)).2.1.functions.get 0 =
        atTheEnd.1.functions.get 0 := by
  intro later
  obtain ⟨-, -, sequential, apart⟩ := storage_gated numbered
    ⟨revision110, .replicate 7 { interfaceCode := storageSupported }, #[]⟩ 1
    [.write 0x100 0x80, .write 0x10c 0xff, .write 0x10d 0xff, .write 0x10e 0xff] () 0
  have stays : ∀ op ∈ later, ¬ op.Places 0 := by decide
  obtain ⟨accesses, pointer⟩ := sequential later stays
  refine ⟨accesses.trans ?_, pointer.trans ?_, apart _ (fun _ => Operation.noConfusion) ?_⟩
  · decide +kernel
  · decide +kernel
  · decide

end CommonArea

end WlanCard
