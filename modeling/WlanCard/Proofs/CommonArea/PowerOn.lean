import WlanCard.Proofs.CommonArea.Run

/-!
# Registers after a reset

A reset returns the registers of function 0 to what they are on a new card with the same layout,
whatever has been done to them, except for one: the function selected last stays selected. The two
registers that show it are all that tells a card after a reset from a new one (`reset_like_new_iff`).

Registers that differ in the selected function at most are compared with `selecting`: every operation
leaves them so (`perform_selecting`), and answers the same unless it reads one of the two registers
(`answer_selecting_iff`).
-/

namespace WlanCard

namespace CommonArea

/-! ## What shows and what changes the selected function -/

/-- Whether an address is that of a register that shows the selected function. -/
def showsSelection (address : Nat) : Bool :=
  address = CommonRegister.functionSelect.offset || address = CommonRegister.mapFunctionSelect.offset

/-- Whether an operation reads a register that shows the selected function. -/
def Operation.readsSelection : Operation → Bool
  | .read how address length =>
    (List.range length).any fun k => showsSelection (address + k * how.stride.toNat)
  | _ => false

/-- The function that an operation selects, if any. -/
def Operation.selected? : Operation → Option FunctionNumber
  | .select f => some f
  | _ => none

/-- Whether operations read a register that shows the selected function before they select one. -/
def Operation.readSelection : List Operation → Bool
  | [] => false
  | op :: ops => op.readsSelection || op.selected? = none && readSelection ops

/-- The function that operations on new registers have selected last. -/
def Operation.lastSelected (ops : List Operation) : FunctionNumber :=
  (ops.filterMap selected?).getLast?.getD 0

namespace Operation

theorem readsSelection_read_succ (how : Addressing) (address length : Nat) :
    (read how address (length + 1)).readsSelection =
      (showsSelection address || (read how (address + how.stride.toNat) length).readsSelection) := by
  dsimp only [readsSelection]
  rw [List.range_succ_eq_map, List.any_cons, List.any_map, Nat.zero_mul, Nat.add_zero]
  have next : ∀ k, address + (k + 1) * how.stride.toNat =
      address + how.stride.toNat + k * how.stride.toNat := by
    intro k
    rw [Nat.add_one_mul]
    omega
  simp only [Function.comp_def, Nat.succ_eq_add_one, next]

theorem lastSelected_concat (ops : List Operation) (op : Operation) :
    lastSelected (ops ++ [op]) = op.selected?.getD (lastSelected ops) :=
  lastTold_concat selected? 0 ops op

end Operation

variable {σ : Type}

/-! ## Registers with another function selected -/

theorem showsSelection_iff {address : Nat} :
    showsSelection address = true ↔ address = CommonRegister.functionSelect.offset ∨
      address = CommonRegister.mapFunctionSelect.offset := by
  simp only [showsSelection, Bool.or_eq_true, decide_eq_true_eq]

theorem readCommon_selecting (area : CommonArea) (f : FunctionNumber) (offset : Nat) :
    (area.selecting f).readCommon offset =
      if showsSelection offset then UInt8.ofNat f else area.readCommon offset := by
  split
  next shows => rcases showsSelection_iff.mp shows with rfl | rfl <;> rfl
  next hidden =>
    have other {r : CommonRegister} (found : CommonRegister.ofOffset? offset = some r) :
        r ≠ .functionSelect ∧ r ≠ .mapFunctionSelect := by
      obtain rfl := (ofOffset?_eq_some_iff ..).mp found
      exact ⟨fun same => hidden (showsSelection_iff.mpr (.inl (by rw [same]))),
        fun same => hidden (showsSelection_iff.mpr (.inr (by rw [same])))⟩
    unfold readCommon
    cases found : CommonRegister.ofOffset? offset with
    | none => rfl
    | some r =>
      cases r with
      | functionSelect => exact absurd rfl (other found).1
      | mapFunctionSelect => exact absurd rfl (other found).2
      | _ => rfl

/-- One byte read is the selected function, or it does not depend on that. -/
theorem readByte_selecting (fs : Functions σ) (area : CommonArea) (f : FunctionNumber)
    (address : Nat) (s : σ) :
    (area.selecting f).readByte fs address s =
      let answer := area.readByte fs address s
      (if showsSelection address then UInt8.ofNat f else answer.1, answer.2.1.selecting f,
        answer.2.2) := by
  have hidden (elsewhere : Region.ofAddress address ≠ .common address) :
      showsSelection address = false := by
    have low (shows : showsSelection address = true) : address < commonEnd := by
      rcases showsSelection_iff.mp shows with rfl | rfl <;> decide
    refine Bool.eq_false_iff.mpr fun shows => elsewhere ?_
    unfold Region.ofAddress
    rw [if_pos (low shows)]
  unfold readByte
  cases region : Region.ofAddress address with
  | common offset =>
    obtain rfl := offset_of_region region
    exact congrArg (·, area.selecting f, s) (readCommon_selecting area f offset)
  | function i offset =>
    have same : (area.selecting f).opensWindow i offset = area.opensWindow i offset := rfl
    rw [hidden (by rw [region]; exact Region.noConfusion)]
    dsimp only [readFunction]
    rw [if_neg Bool.false_ne_true, same]
    split <;> rfl
  | memory =>
    rw [hidden (by rw [region]; exact Region.noConfusion)]
    dsimp only
    rw [if_neg Bool.false_ne_true]
    rfl

theorem ofNat_eq_iff (f g : FunctionNumber) : UInt8.ofNat f = UInt8.ofNat g ↔ f = g := by
  revert f g
  decide

/-- Two selections are told apart by a byte that shows them, and by no other. -/
theorem readByte_selecting_iff (fs : Functions σ) (area : CommonArea) (f g : FunctionNumber)
    (address : Nat) (s : σ) :
    ((area.selecting f).readByte fs address s).1 = ((area.selecting g).readByte fs address s).1 ↔
      f = g ∨ showsSelection address = false := by
  rw [readByte_selecting, readByte_selecting]
  cases shows : showsSelection address with
  | false => simp only [Bool.false_eq_true, ↓reduceIte, or_true]
  | true => simp only [↓reduceIte, ofNat_eq_iff, Bool.true_eq_false, or_false]

/-- A read of any length leaves the selected function alone, and nothing that it does depends on it. -/
theorem read_selecting (fs : Functions σ) (how : Addressing) (address length : Nat)
    (area : CommonArea) (f : FunctionNumber) (s : σ) :
    (read fs how address length (area.selecting f) s).2 =
      ((read fs how address length area s).2.1.selecting f,
        (read fs how address length area s).2.2) := by
  simp only [read_eq_readEach]
  induction length generalizing address area s with
  | zero => rfl
  | succ length ih =>
    unfold readEach
    simp only [read_one, readByte_selecting, ih]

theorem bytes_selecting_iff (fs : Functions σ) (how : Addressing) (address length : Nat)
    (area : CommonArea) (f g : FunctionNumber) (s : σ) :
    (read fs how address length (area.selecting f) s).1 =
        (read fs how address length (area.selecting g) s).1 ↔
      f = g ∨ (Operation.read how address length).readsSelection = false := by
  simp only [read_eq_readEach]
  induction length generalizing address area s with
  | zero => exact iff_of_true rfl (.inr rfl)
  | succ length ih =>
    have first := readByte_selecting_iff fs area f g address s
    unfold readEach
    rw [Operation.readsSelection_read_succ, Bool.or_eq_false_iff]
    simp only [read_one, List.singleton_append, List.cons.injEq]
    rw [first, readByte_selecting, readByte_selecting]
    dsimp only
    rw [ih, or_and_left]

theorem writeByte_selecting (fs : Functions σ) (area : CommonArea) (f : FunctionNumber)
    (address : Nat) (value : UInt8) (s : σ) :
    (area.selecting f).writeByte fs address value s =
      let answer := area.writeByte fs address value s
      (answer.1, answer.2.1.selecting f, answer.2.2) := by
  unfold writeByte
  cases Region.ofAddress address with
  | common offset =>
    dsimp only
    unfold writeCommon
    cases CommonRegister.ofOffset? offset with
    | none => rfl
    | some r =>
      cases r with
      | ioAbort =>
        dsimp only
        split
        · rfl
        · split <;> rfl
      | _ => rfl
  | function i offset =>
    have same : (area.selecting f).opensWindow i offset = area.opensWindow i offset := rfl
    dsimp only [writeFunction]
    rw [same]
    split
    · rfl
    · unfold writeFunctionRegister
      cases FunctionRegister.ofOffset? offset with
      | none => rfl
      | some r => cases r <;> rfl
  | memory => rfl

/-! ## Operations and runs -/

/-- **An operation** leaves the selected function alone or replaces it, and nothing else that it does to
the registers and the functions depends on which one that was. -/
theorem perform_selecting (fs : Functions σ) (area : CommonArea) (f : FunctionNumber) (s : σ)
    (op : Operation) :
    ((area.selecting f).perform fs s op).2 =
      ((area.perform fs s op).2.1.selecting (op.selected?.getD f), (area.perform fs s op).2.2) := by
  cases op with
  | write address value =>
    unfold perform
    dsimp only
    rw [writeByte_selecting]
    rfl
  | read how address length => exact read_selecting fs how address length area f s
  | setInterruptPending | select | reset => rfl

theorem exchanges_selecting (fs : Functions σ) (area : CommonArea) (f : FunctionNumber) (s : σ)
    (op : Operation) : (area.selecting f).exchanges fs s op = area.exchanges fs s op := by
  unfold exchanges
  rw [perform_selecting]

theorem answer_selecting_iff (fs : Functions σ) (area : CommonArea) (f g : FunctionNumber) (s : σ)
    (op : Operation) :
    ((area.selecting f).perform fs s op).1 = ((area.selecting g).perform fs s op).1 ↔
      f = g ∨ op.readsSelection = false := by
  cases op with
  | write address value =>
    refine iff_of_true ?_ (.inr rfl)
    unfold perform
    dsimp only
    rw [writeByte_selecting, writeByte_selecting]
  | read how address length =>
    exact Answer.bytes.injEq .. ▸ bytes_selecting_iff fs how address length area f g s
  | setInterruptPending | select | reset => exact iff_of_true rfl (.inr rfl)

/-- **A run** tells two selections apart exactly if it reads the selected function before it selects
one. -/
theorem trace_selecting_iff (fs : Functions σ) (ops : List Operation) (area : CommonArea)
    (f g : FunctionNumber) (s : σ) :
    (area.selecting f).trace fs ops s = (area.selecting g).trace fs ops s ↔
      f = g ∨ Operation.readSelection ops = false := by
  induction ops generalizing area s with
  | nil => exact iff_of_true rfl (.inr rfl)
  | cons op ops ih =>
    unfold trace Operation.readSelection
    simp only [List.cons.injEq, Event.mk.injEq, true_and, exchanges_selecting, and_true,
      perform_selecting, answer_selecting_iff, Bool.or_eq_false_iff]
    cases chosen : op.selected? with
    | none =>
      simp only [Option.getD_none, decide_true, Bool.true_and]
      rw [ih, or_and_left]
    | some h =>
      simp only [Option.getD_some, and_true, reduceCtorEq, decide_false, Bool.false_and]

theorem perform_functionSelect (fs : Functions σ) (area : CommonArea) (s : σ) (op : Operation) :
    (area.perform fs s op).2.1.functionSelect = op.selected?.getD area.functionSelect := by
  cases op with
  | write address value => exact (writeByte_keeps fs address value area s).functionSelect
  | read how address length => exact (read_keeps fs how address length area s).functionSelect
  | setInterruptPending | select | reset => rfl

/-- A reset leaves nothing of what operations have done but the function that they selected last. -/
theorem reset_of_run (fs : Functions σ) (layout : Layout) (count : Fin 8) (ops : List Operation)
    (s : σ) :
    (run fs ops (powerOn layout count) s).1.reset count =
      (powerOn layout count).selecting (Operation.lastSelected ops) := by
  let inv (ops : List Operation) (now : CommonArea) : Prop :=
    now.layout = layout ∧ now.functionSelect = Operation.lastSelected ops
  have step : ∀ ops now s op, inv ops now → inv (ops ++ [op]) (now.perform fs s op).2.1 := by
    rintro ops now s op ⟨kept, selected⟩
    refine ⟨(perform_layout ..).trans kept, ?_⟩
    rw [perform_functionSelect, Operation.lastSelected_concat, selected]
  have fresh : inv [] (powerOn layout count) := ⟨rfl, rfl⟩
  obtain ⟨kept, selected⟩ := run_induction inv fresh step ops s
  unfold reset selecting
  rw [kept, selected]

/-- **Registers that have been reset** are those of a new card, but for the selected function, which a
reset does not return to 0. So an address shows the same as on a new card unless it is one of the two
that show the selected function and that is not 0; and whatever is done next has the same answers and
the same exchanges, unless it reads one of the two before it selects a function. -/
theorem reset_like_new_iff (fs : Functions σ) (layout : Layout) (count : Fin 8)
    (ops : List Operation) (s : σ) :
    let fresh := powerOn layout count
    let again := (run fs ops fresh s).1.reset count
    let left := Operation.lastSelected ops
    again = fresh.selecting left ∧
      (∀ address s, (again.readByte fs address s).1 = (fresh.readByte fs address s).1 ↔
        left = 0 ∨ showsSelection address = false) ∧
      ∀ later s, again.trace fs later s = fresh.trace fs later s ↔
        left = 0 ∨ Operation.readSelection later = false := by
  intro fresh again left
  have same : again = fresh.selecting left := reset_of_run fs layout count ops s
  refine ⟨same, fun address s => ?_, fun later s => ?_⟩
  · rw [same]
    exact readByte_selecting_iff fs fresh left 0 address s
  · rw [same]
    exact trace_selecting_iff fs later fresh left 0 s

/-- A function that has been selected is shown after a reset, and not on a new card. -/
theorem selection_outlives_reset :
    let fresh := powerOn ⟨revision110, .replicate 7 {}, #[]⟩ 1
    let again := (run numbered [.select 1] fresh ()).1.reset 1
    (again.readByte numbered 0x1d ()).1 = 1 ∧ (fresh.readByte numbered 0x1d ()).1 = 0 ∧
      again.trace numbered [.read .fixed 0x1d 1] () ≠ fresh.trace numbered [.read .fixed 0x1d 1] () := by
  decide +kernel

end CommonArea

end WlanCard
