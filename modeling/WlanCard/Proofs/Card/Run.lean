import WlanCard.Card.Data
import WlanCard.Card.Execute

/-!
# Runs of a card

A card is driven by operations: commands and data bytes of the host, interrupt lines of its
functions, handlers and resets of its owner. `Attached.run` performs a list of them, and
`Attached.trace` tells of each what it answered and which exchanges with the functions it led to.

Exchanges are seen through `Functions.observed`, functions that note every access and what was
answered to it; noting changes nothing else (`perform_observed`, with the views of functions).
`trace_run_induction` is the one induction over runs: what holds at the start and is kept by each
operation holds of every trace and of the card at its end.
-/

namespace WlanCard

/-! ## Exchanges -/

/-- One access to the functions behind a card, with the bytes they answered. -/
structure Exchange where
  access : Access
  answer : List UInt8
deriving DecidableEq, Repr

/-- The same functions, with a note of every exchange added to a list, oldest first. -/
def Functions.observed {σ : Type} (fs : Functions σ) : Functions (σ × List Exchange) where
  reset s := (fs.reset s.1, s.2 ++ [⟨.reset, []⟩])
  read f address length how s :=
    let answer := fs.read f address length how s.1
    (answer.1, answer.2, s.2 ++ [⟨.read f address length how, answer.1⟩])
  write f address bytes how s :=
    (fs.write f address bytes how s.1, s.2 ++ [⟨.write f address bytes how, []⟩])
  readStorage f address s :=
    let answer := fs.readStorage f address s.1
    (answer.1, answer.2, s.2 ++ [⟨.readStorage f address, answer.1.toList⟩])
  writeStorage f address value s :=
    (fs.writeStorage f address value s.1, s.2 ++ [⟨.writeStorage f address value, []⟩])
  length_read f address length how s := fs.length_read f address length how s.1

/-! ## Operations -/

namespace Card

/-- What can be done to a card. -/
inductive Operation where
  | command (number : UInt8) (argument : UInt32)
  | writeData (value : UInt8)
  | readData
  | setFunctionIrq (line : Fin 8) (level : Bool)
  | setHandler (f : FunctionNumber) (handler : Handler)
  | reset
deriving DecidableEq, Repr

/-- What an operation answers. -/
inductive Answer where
  | nothing
  | response (r : Response)
  | byte (value : UInt8)
deriving DecidableEq, Repr

/-- One operation of a run: what it answered, and the exchanges with the functions that it led to. -/
structure Event where
  operation : Operation
  answer : Answer
  exchanges : List Exchange
deriving DecidableEq, Repr

/-- Whether an operation moves a byte over the data lines. -/
def Operation.isData : Operation → Bool
  | .writeData _ | .readData => true
  | _ => false

/-- The byte that the host writes with an operation. -/
def Operation.byteWritten? : Operation → Option UInt8
  | .writeData value => some value
  | _ => none

/-- The bytes that the host writes over the data lines, in order. -/
def Operation.bytesWritten (ops : List Operation) : List UInt8 :=
  ops.filterMap byteWritten?

/-- The byte that an answer hands to the host. -/
def Answer.byte? : Answer → Option UInt8
  | .byte value => some value
  | _ => none

/-- The exchanges that the data lines of a trace led to, in order. -/
def Event.dataExchanges (trace : List Event) : List Exchange :=
  (trace.filter (·.operation.isData)).flatMap (·.exchanges)

/-- The bytes that the host writes over the data lines of a trace, in order. -/
def Event.bytesWritten (trace : List Event) : List UInt8 :=
  Operation.bytesWritten (trace.map (·.operation))

/-- The bytes that the host reads over the data lines of a trace, in order. -/
def Event.bytesRead (trace : List Event) : List UInt8 :=
  trace.filterMap (·.answer.byte?)

/-- The events of a trace with which the host reads a byte. -/
def Event.readings (trace : List Event) : List Event :=
  trace.filter (·.operation = .readData)

namespace Event

theorem readings_concat (log : List Event) (event : Event) :
    readings (log ++ [event]) =
      readings log ++ if event.operation = .readData then [event] else [] := by
  unfold readings
  rw [List.filter_append, List.filter_cons, List.filter_nil]
  simp only [decide_eq_true_eq]

theorem dataExchanges_concat (log : List Event) (event : Event) :
    dataExchanges (log ++ [event]) =
      dataExchanges log ++ if event.operation.isData then event.exchanges else [] := by
  unfold dataExchanges
  rw [List.filter_append, List.flatMap_append]
  cases data : event.operation.isData <;>
    simp only [List.filter_cons, List.filter_nil, data, Bool.false_eq_true, ↓reduceIte,
      List.flatMap_cons, List.flatMap_nil, List.append_nil]

theorem bytesWritten_concat (log : List Event) (event : Event) :
    bytesWritten (log ++ [event]) = bytesWritten log ++ event.operation.byteWritten?.toList := by
  unfold bytesWritten Operation.bytesWritten
  rw [List.map_append, List.filterMap_append]
  cases some : event.operation.byteWritten? <;>
    simp only [List.map_cons, List.map_nil, List.filterMap_cons, List.filterMap_nil, some,
      Option.toList_some, Option.toList_none]

theorem bytesRead_concat (log : List Event) (event : Event) :
    bytesRead (log ++ [event]) = bytesRead log ++ event.answer.byte?.toList := by
  unfold bytesRead
  rw [List.filterMap_append]
  cases some : event.answer.byte? <;>
    simp only [List.filterMap_cons, List.filterMap_nil, some, Option.toList_some, Option.toList_none]

end Event

/-- An operation that moves no byte of data writes none. -/
theorem Operation.byteWritten_eq_none {op : Operation} (noData : op.isData = false) :
    op.byteWritten? = none := by
  cases op <;> first | rfl | cases noData

end Card

namespace Attached

variable {σ τ : Type}

/-- Performs one operation. -/
def perform (fs : Functions σ) (a : Attached σ) : Card.Operation → Card.Answer × Attached σ
  | .command number argument =>
    let done := a.command fs number argument
    (.response done.1, done.2)
  | .writeData value => (.nothing, a.writeData fs value)
  | .readData =>
    let done := a.readData fs
    (.byte done.1, done.2)
  | .setFunctionIrq line level => (.nothing, a.setFunctionIrq line level)
  | .setHandler f handler => (.nothing, { a with card := a.card.setHandler f handler })
  | .reset => (.nothing, a.reset fs)

/-- Performs operations one after the other. -/
def run (fs : Functions σ) : List Card.Operation → Attached σ → Attached σ
  | [], a => a
  | op :: ops, a => run fs ops (a.perform fs op).2

theorem run_concat (fs : Functions σ) (ops : List Card.Operation) (op : Card.Operation)
    (a : Attached σ) : a.run fs (ops ++ [op]) = ((a.run fs ops).perform fs op).2 := by
  induction ops generalizing a with
  | nil => rfl
  | cons first ops ih => exact ih (a.perform fs first).2

/-- The card with an empty list of notes beside the state of its functions. -/
def watched (a : Attached σ) : Attached (σ × List Exchange) :=
  ⟨a.card, (a.device, [])⟩

/-- The exchanges that an operation leads to, in order. -/
def exchanges (fs : Functions σ) (a : Attached σ) (op : Card.Operation) : List Exchange :=
  (a.watched.perform fs.observed op).2.device.2

/-- An operation as an event. -/
def event (fs : Functions σ) (a : Attached σ) (op : Card.Operation) : Card.Event :=
  ⟨op, (a.perform fs op).1, a.exchanges fs op⟩

/-- The events of a run, in order. -/
def trace (fs : Functions σ) : List Card.Operation → Attached σ → List Card.Event
  | [], _ => []
  | op :: ops, a => a.event fs op :: trace fs ops (a.perform fs op).2

/-- The operations of a trace are those performed. -/
theorem map_operation_trace (fs : Functions σ) (ops : List Card.Operation) (a : Attached σ) :
    (a.trace fs ops).map (·.operation) = ops := by
  induction ops generalizing a with
  | nil => rfl
  | cons op ops ih => simp only [trace, List.map_cons, ih, event]

/-- Each operation that reads a byte hands one to the host, and no other does. -/
theorem length_bytesRead_trace (fs : Functions σ) (ops : List Card.Operation) (a : Attached σ) :
    (Card.Event.bytesRead (a.trace fs ops)).length = ops.count .readData := by
  induction ops generalizing a with
  | nil => rfl
  | cons op ops ih =>
    have rest := ih (a.perform fs op).2
    cases op with
    | readData =>
      rw [List.count_cons_self, ← rest]
      rfl
    | _ =>
      rw [List.count_cons_of_ne (fun same => by cases same), ← rest]
      rfl

/-- **Runs by induction**: what holds of the empty trace at the start and is kept by every operation
that may come next holds of the trace of a run and of the card after it. -/
theorem trace_run_induction (inv : List Card.Event → Attached σ → Prop) {fs : Functions σ}
    {allowed : Card.Operation → Prop}
    (step : ∀ log b op, allowed op → inv log b → inv (log ++ [b.event fs op]) (b.perform fs op).2)
    {ops : List Card.Operation} (all : ∀ op ∈ ops, allowed op) {a : Attached σ} (start : inv [] a) :
    inv (a.trace fs ops) (a.run fs ops) := by
  have key : ∀ (ops : List Card.Operation) (log : List Card.Event) (b : Attached σ),
      (∀ op ∈ ops, allowed op) → inv log b → inv (log ++ b.trace fs ops) (b.run fs ops) := by
    intro ops
    induction ops with
    | nil =>
      intro log b _ now
      simpa only [trace, run, List.append_nil] using now
    | cons op ops ih =>
      intro log b all now
      have next := step log b op (all op List.mem_cons_self) now
      have rest := ih _ _ (fun op mem => all op (List.mem_cons_of_mem _ mem)) next
      simpa only [trace, run, List.append_assoc, List.singleton_append] using rest
  simpa only [List.nil_append] using key ops [] a all start

end Attached

/-! ## A card to run -/

/-- Functions whose every register holds the low byte of its address. -/
def Functions.numbered : Functions Unit where
  reset s := s
  read _ address length how s :=
    ((List.range length).map fun i => (address + UInt32.ofNat i * how.stride).toUInt8, s)
  write _ _ _ _ s := s
  length_read _ _ length _ _ := by rw [List.length_map, List.length_range]

/-- A native card with one such function, selected by the host, with blocks of two bytes. -/
def Attached.numbered : Attached Unit :=
  Attached.run .numbered
    [.command 5 0x10fe0000, .command 3 0, .command 7 0x45670000, .command 52 0x80022002]
    { card := (Card.new {
        conditions := 0x10fe0000
        mode := .native
        layout := { revision := 0, functions := Vector.replicate 7 {}, tuples := #[] } }).setHandler 1
          .attached
      device := () }

end WlanCard
