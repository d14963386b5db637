import Mathlib.Data.List.Induction
import WlanCard.Proofs.Card.Observation
import WlanCard.Proofs.CommonArea.Independence

/-!
# Runs of the registers of function 0

The registers of function 0 are driven by bytes that are written and reads of any length, by the
interrupt lines of functions, by the selection of a function when a transfer is opened on it, and by
resets. `CommonArea.run` performs a list of such operations, and `CommonArea.trace` tells of each what
it answered and which exchanges with the functions it led to.

Every operation is a run of single bytes as far as the functions behind the card are concerned:
`exchanges_write` and `exchanges_read_succ` say which exchange each byte leads to, one at most and
through an open storage window only.
-/

namespace WlanCard

/-- What the entries of a log told last, where not every entry tells anything: the last entry decides, if
it does. -/
theorem lastTold_concat {α β : Type} (told? : α → Option β) (default : β) (log : List α) (entry : α) :
    ((log ++ [entry]).filterMap told?).getLast?.getD default =
      (told? entry).getD ((log.filterMap told?).getLast?.getD default) := by
  rw [List.filterMap_append]
  cases told : told? entry with
  | none => rw [List.filterMap_cons_none told, List.filterMap_nil, List.append_nil, Option.getD_none]
  | some last =>
    rw [List.filterMap_cons_some told, List.filterMap_nil, List.getLast?_concat]
    rfl

namespace CommonArea

/-- What can be done to the registers of function 0. -/
inductive Operation where
  | write (address : Nat) (value : UInt8)
  | read (how : Addressing) (address length : Nat)
  | setInterruptPending (line : Fin 8) (level : Bool)
  | select (f : FunctionNumber)
  | reset (count : Fin 8)
deriving DecidableEq, Repr

/-- What an operation answers. -/
inductive Answer where
  | nothing
  | asked (effect : Effect)
  | bytes (bytes : List UInt8)
deriving DecidableEq, Repr

/-- One operation of a run: what it answered, and the exchanges with the functions that it led to. -/
structure Event where
  operation : Operation
  answer : Answer
  exchanges : List Exchange
deriving DecidableEq, Repr

/-- The registers with another function selected. -/
def selecting (area : CommonArea) (f : FunctionNumber) : CommonArea :=
  { area with functionSelect := f }

variable {σ : Type}

/-- Performs one operation. -/
def perform (fs : Functions σ) (area : CommonArea) (s : σ) : Operation → Answer × CommonArea × σ
  | .write address value =>
    let done := area.writeByte fs address value s
    (.asked done.1, done.2)
  | .read how address length =>
    let done := read fs how address length area s
    (.bytes done.1, done.2)
  | .setInterruptPending line level => (.nothing, area.setInterruptPending line level, s)
  | .select f => (.nothing, area.selecting f, s)
  | .reset count => (.nothing, area.reset count, s)

/-- Performs operations one after the other. -/
def run (fs : Functions σ) : List Operation → CommonArea → σ → CommonArea × σ
  | [], area, s => (area, s)
  | op :: ops, area, s =>
    let after := (area.perform fs s op).2
    run fs ops after.1 after.2

/-- The exchanges that an operation leads to, in order. -/
def exchanges (fs : Functions σ) (area : CommonArea) (s : σ) (op : Operation) : List Exchange :=
  (area.perform fs.observed (s, []) op).2.2.2

/-- The events of a run, in order. -/
def trace (fs : Functions σ) : List Operation → CommonArea → σ → List Event
  | [], _, _ => []
  | op :: ops, area, s =>
    let done := area.perform fs s op
    ⟨op, done.1, area.exchanges fs s op⟩ :: trace fs ops done.2.1 done.2.2

/-- The exchanges of a run, in order. -/
def runExchanges (fs : Functions σ) (ops : List Operation) (area : CommonArea) (s : σ) :
    List Exchange :=
  (area.trace fs ops s).flatMap (·.exchanges)

theorem run_concat (fs : Functions σ) (ops : List Operation) (op : Operation) (area : CommonArea)
    (s : σ) :
    run fs (ops ++ [op]) area s =
      ((run fs ops area s).1.perform fs (run fs ops area s).2 op).2 := by
  induction ops generalizing area s with
  | nil => rfl
  | cons first ops ih => exact ih ..

/-- **Runs by induction**: what holds at the start and is kept by every operation holds after a
run, of the operations performed and the registers. -/
theorem run_induction (inv : List Operation → CommonArea → Prop) {fs : Functions σ}
    {area : CommonArea} (start : inv [] area)
    (step : ∀ ops now s op, inv ops now → inv (ops ++ [op]) (now.perform fs s op).2.1)
    (ops : List Operation) (s : σ) : inv ops (run fs ops area s).1 := by
  induction ops using List.reverseRecOn with
  | nil => exact start
  | append_singleton ops op ih =>
    rw [run_concat]
    exact step ops _ _ op ih

/-- The layout is fixed. -/
theorem perform_layout (fs : Functions σ) (area : CommonArea) (s : σ) (op : Operation) :
    (area.perform fs s op).2.1.layout = area.layout := by
  cases op with
  | write address value => exact (writeByte_keeps fs address value area s).layout
  | read how address length => exact (read_keeps fs how address length area s).layout
  | setInterruptPending | select | reset => rfl

theorem run_layout (fs : Functions σ) (ops : List Operation) (area : CommonArea) (s : σ) :
    (run fs ops area s).1.layout = area.layout :=
  run_induction (fun _ now => now.layout = area.layout) rfl
    (fun _ _ _ _ kept => (perform_layout ..).trans kept) ops s

/-! ## The exchanges of an operation -/

/-- Notes of older exchanges change nothing, and stay before the new ones. -/
theorem perform_noted (fs : Functions σ) (area : CommonArea) (s : σ) (notes : List Exchange)
    (op : Operation) :
    area.perform fs.observed (s, notes) op =
      ((area.perform fs s op).1, (area.perform fs s op).2.1, (area.perform fs s op).2.2,
        notes ++ area.exchanges fs s op) := by
  have behind := fs.observed_shown_behind notes
  have fresh : (s, notes ++ ([] : List Exchange)) = (s, notes) :=
    congrArg (Prod.mk s) (List.append_nil notes)
  unfold exchanges
  cases op with
  | write address value =>
    have noted := writeByte_view behind address value area (s, [])
    have shown := writeByte_view fs.observed_shown address value area (s, [])
    rw [fresh] at noted
    unfold perform
    dsimp only
    rw [noted, shown]
    rfl
  | read how address length =>
    have noted := read_view behind how address length area (s, [])
    have shown := read_view fs.observed_shown how address length area (s, [])
    rw [fresh] at noted
    unfold perform
    dsimp only
    rw [noted, shown]
    rfl
  | setInterruptPending | select | reset =>
    unfold perform
    dsimp only
    rw [List.append_nil]

/-- The function whose open storage window an address is, if any. -/
def windowAt (area : CommonArea) (address : Nat) : Option (Fin 7) :=
  match Region.ofAddress address with
  | .function i offset => if area.opensWindow i offset then some i else none
  | .common _ | .memory => none

theorem windowAt_eq_some_iff {area : CommonArea} {address : Nat} {i : Fin 7} :
    area.windowAt address = some i ↔
      address = (Register.function i .storageWindow).address ∧
        (area.functions.get i).storageOpen = true := by
  constructor
  · intro found
    unfold windowAt at found
    split at found
    next j offset region =>
      split at found
      next window =>
        obtain rfl := Option.some.inj found
        obtain ⟨register, isOpen⟩ := (opensWindow_iff ..).mp window
        have here : Register.ofAddress? address = some (.function j .storageWindow) := by
          unfold Register.ofAddress?
          rw [region]
          exact congrArg (Option.map _) register
        exact ⟨(Register.address_of_ofAddress? here).symm, isOpen⟩
      next => cases found
    next => cases found
    next => cases found
  · rintro ⟨rfl, isOpen⟩
    unfold windowAt
    rw [Register.ofAddress_address]
    exact if_pos ((opensWindow_iff ..).mpr ⟨rfl, isOpen⟩)

/-- The exchange that a byte written leads to, if any. -/
theorem exchanges_write (fs : Functions σ) (area : CommonArea) (s : σ) (address : Nat)
    (value : UInt8) :
    area.exchanges fs s (.write address value) =
      (area.windowAt address).toList.map fun i =>
        ⟨.writeStorage i.succ (area.functions.get i).storagePointer value, []⟩ := by
  show (area.writeByte fs.observed address value (s, [])).2.2.2 = _
  unfold writeByte windowAt
  cases Region.ofAddress address with
  | function i offset =>
    dsimp only [writeFunction]
    split <;> rfl
  | common | memory => rfl

/-- The exchange that reading one byte leads to, if any. -/
def byteExchanges (fs : Functions σ) (area : CommonArea) (s : σ) (address : Nat) : List Exchange :=
  (area.readByte fs.observed address (s, [])).2.2.2

theorem byteExchanges_eq (fs : Functions σ) (area : CommonArea) (s : σ) (address : Nat) :
    area.byteExchanges fs s address =
      (area.windowAt address).toList.map fun i =>
        let p := (area.functions.get i).storagePointer
        ⟨.readStorage i.succ p, (fs.readStorage i.succ p s).1.toList⟩ := by
  unfold byteExchanges readByte windowAt
  cases Region.ofAddress address with
  | function i offset =>
    dsimp only [readFunction]
    split <;> rfl
  | common | memory => rfl

theorem exchanges_read_zero (fs : Functions σ) (area : CommonArea) (s : σ) (how : Addressing)
    (address : Nat) : area.exchanges fs s (.read how address 0) = [] := rfl

/-- A read leads to the exchange of its first byte and to those of the rest. -/
theorem exchanges_read_succ (fs : Functions σ) (area : CommonArea) (s : σ) (how : Addressing)
    (address length : Nat) :
    let first := area.readByte fs address s
    area.exchanges fs s (.read how address (length + 1)) =
      area.byteExchanges fs s address ++
        first.2.1.exchanges fs first.2.2 (.read how (address + how.stride.toNat) length) := by
  intro first
  have one : read fs.observed how address (length + 1) area (s, []) =
      let answer := area.readByte fs.observed address (s, [])
      let rest := read fs.observed how (address + how.stride.toNat) length answer.2.1 answer.2.2
      (answer.1 :: rest.1, rest.2) := by
    rw [read_eq_readEach, readEach, read_one, ← read_eq_readEach]
    rfl
  have shown : area.readByte fs address s = _ :=
    readByte_view fs.observed_shown address area (s, [])
  have rest := perform_noted fs first.2.1 first.2.2 (area.byteExchanges fs s address)
    (.read how (address + how.stride.toNat) length)
  have answer : (area.readByte fs.observed address (s, [])).2 =
      (first.2.1, first.2.2, area.byteExchanges fs s address) := by
    unfold byteExchanges first
    rw [shown]
    rfl
  unfold exchanges perform at rest ⊢
  dsimp only at rest ⊢
  rw [one]
  dsimp only
  rw [answer]
  exact congrArg (·.2.2.2) rest

end CommonArea

end WlanCard
