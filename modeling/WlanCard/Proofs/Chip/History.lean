import WlanCard.Proofs.Card.Replay
import WlanCard.Proofs.Chip.Firing

/-!
# What happens to a target

Behind the card a target knows of no commands and no data lines. What happens to it is told register
by register: a byte is read or written, its own side reports something, time goes by, it is reset. A
run of a chip is such a course of happenings for its target (`Chip.target_run`), those of one operation
after those of the other.

A history is a course together with the targets on the way, moment by moment. `Passes` cuts it at any
place; `Stretch` is what lies between two resets.
-/

namespace WlanCard

/-! ## Happenings -/

/-- What may happen to a target. -/
inductive Happening where
  | reset
  | read (address : UInt32)
  | write (address : UInt32) (value : UInt8)
  | raiseCpu (bits : UInt8)
  | raiseError (bits : UInt8)
  | advance (ticks : Nat)
deriving DecidableEq, Repr

namespace Happening

/-- Time stands still. -/
def Still (h : Happening) : Prop :=
  ∀ ticks, h ≠ .advance ticks

theorem still_or_advance (h : Happening) : h.Still ∨ ∃ ticks, h = .advance ticks := by
  by_cases passing : ∃ ticks, h = .advance ticks
  · exact .inr passing
  · exact .inl fun ticks same => passing ⟨ticks, same⟩

/-- Bytes are read, each `stride` after the last. -/
def reads (stride : UInt32) : (length : Nat) → (address : UInt32) → List Happening
  | 0, _ => []
  | length + 1, address => .read address :: reads stride length (address + stride)

/-- Bytes are written, each `stride` after the last. -/
def writes (stride : UInt32) : (address : UInt32) → (bytes : List UInt8) → List Happening
  | _, [] => []
  | address, value :: rest => .write address value :: writes stride (address + stride) rest

/-- A byte is read from a register. -/
def Reads (r : HostRegister) (h : Happening) : Prop :=
  ∃ address, h = .read address ∧ address.toNat = r.address

/-- A byte is written to a register. -/
def Writes (r : HostRegister) (value : UInt8) (h : Happening) : Prop :=
  ∃ address, h = .write address value ∧ address.toNat = r.address

/-- A message in a mailbox is completed: the last byte of its window is written. -/
def Completes (m : MailboxNumber) (h : Happening) : Prop :=
  ∃ value, h.Writes (.mailbox m 2047) value

/-- The host interrupts the firmware, with a value that is not zero. -/
def InterruptsFirmware (h : Happening) : Prop :=
  ∃ value, value ≠ 0 ∧ h.Writes .wlanInterrupt value

theorem completes_write_iff {m : MailboxNumber} {address : UInt32} {value : UInt8} :
    (Happening.write address value).Completes m ↔
      address.toNat = (HostRegister.mailbox m 2047).address := by
  constructor
  · rintro ⟨_, _, same, stands⟩
    cases same
    exact stands
  · intro stands
    exact ⟨value, address, rfl, stands⟩

theorem interruptsFirmware_write_iff {address : UInt32} {value : UInt8} :
    (Happening.write address value).InterruptsFirmware ↔
      value ≠ 0 ∧ address.toNat = HostRegister.wlanInterrupt.address := by
  constructor
  · rintro ⟨_, other, _, same, stands⟩
    cases same
    exact ⟨other, stands⟩
  · rintro ⟨other, stands⟩
    exact ⟨value, other, address, rfl, stands⟩

theorem mem_reads {stride address : UInt32} {length : Nat} {h : Happening}
    (mem : h ∈ reads stride length address) : ∃ address, h = .read address := by
  induction length generalizing address with
  | zero => cases mem
  | succ length ih =>
    rcases List.mem_cons.mp mem with rfl | mem
    · exact ⟨address, rfl⟩
    · exact ih mem

theorem mem_writes {stride address : UInt32} {bytes : List UInt8} {h : Happening}
    (mem : h ∈ writes stride address bytes) : ∃ address value, h = .write address value := by
  induction bytes generalizing address with
  | nil => cases mem
  | cons value rest ih =>
    rcases List.mem_cons.mp mem with rfl | mem
    · exact ⟨address, value, rfl⟩
    · exact ih mem

end Happening

/-- What an access to the functions behind a card is for the target. It has no code storage area. -/
def Access.happenings : Access → List Happening
  | .reset => [.reset]
  | .read _ address length how => Happening.reads how.stride length address
  | .write _ address bytes how => Happening.writes how.stride address bytes
  | .readStorage .. | .writeStorage .. => []

namespace Target

/-- The target after one happening. -/
def undergo (t : Target) : Happening → Target
  | .reset => t.reset
  | .read address => { t with host := (t.host.read address).2 }
  | .write address value => t.writeByte address value
  | .raiseCpu bits => { t with host := t.host.raiseCpu bits }
  | .raiseError bits => { t with host := t.host.raiseError bits }
  | .advance ticks => t.doneBy (Clock.tickAfter t.clock.now ticks)

/-- The target after happenings, one after the other. -/
def undergone (t : Target) (course : List Happening) : Target :=
  course.foldl undergo t

theorem undergone_append (t : Target) (first later : List Happening) :
    t.undergone (first ++ later) = (t.undergone first).undergone later :=
  List.foldl_append

theorem undergone_reads (stride : UInt32) (length : Nat) (address : UInt32) (t : Target) :
    t.undergone (Happening.reads stride length address) =
      { t with host := (HostInterface.readRun stride length address t.host).2 } := by
  induction length generalizing address t with
  | zero => rfl
  | succ length ih => exact ih (address + stride) (t.undergo (.read address))

theorem undergone_writes (stride address : UInt32) (bytes : List UInt8) (t : Target) :
    t.undergone (Happening.writes stride address bytes) = t.writeRun stride address bytes := by
  induction bytes generalizing address t with
  | nil => rfl
  | cons value rest ih => exact ih (address + stride) (t.undergo (.write address value))

theorem undergone_happenings (t : Target) (access : Access) :
    t.undergone access.happenings = functions.accessed t access := by
  cases access with
  | reset => rfl
  | read f address length how => exact undergone_reads how.stride length address t
  | write f address bytes how => exact undergone_writes how.stride address bytes t
  | readStorage f address => rfl
  | writeStorage f address value => rfl

/-- Exchanges with the target, told register by register, leave it as they do. -/
theorem undergone_exchanges (t : Target) (exchanges : List Exchange) :
    t.undergone (exchanges.flatMap (·.access.happenings)) = functions.replayed t exchanges := by
  induction exchanges generalizing t with
  | nil => rfl
  | cons exchange rest ih =>
    rw [List.flatMap_cons, undergone_append, undergone_happenings, ih]
    rfl

end Target

/-! ## Histories -/

/-- A happening, and the target that it happens to. -/
structure Moment where
  before : Target
  happening : Happening
deriving DecidableEq

namespace Moment

/-- The target after the happening. -/
def after (m : Moment) : Target := m.before.undergo m.happening

/-- The tick at which the moment begins. -/
def tick (m : Moment) : Nat := m.before.clock.now

/-- The work that is done in a moment: time has to go by for it. -/
def firings (m : Moment) : List Firing :=
  match m.happening with
  | .advance ticks => (m.before.drain (Clock.tickAfter m.tick ticks)).1
  | _ => []

/-- The ticks at which an event is among the work done in a moment. -/
def ticksOf (event : Deferred) (m : Moment) : List Nat :=
  Firing.ticksOf event m.firings

end Moment

/-- The moments of a course that begins with a given target. -/
def Target.history : (course : List Happening) → Target → List Moment
  | [], _ => []
  | h :: course, t => ⟨t, h⟩ :: history course (t.undergo h)

/-- A history tells of the happenings of its course, in order. -/
theorem map_happening_history (course : List Happening) (t : Target) :
    (t.history course).map (·.happening) = course := by
  induction course generalizing t with
  | nil => rfl
  | cons h course ih => exact congrArg (h :: ·) (ih (t.undergo h))

/-- Moments that lead from one target to another, each taking up where the last has left off. -/
inductive Passes : Target → List Moment → Target → Prop where
  | nil (t : Target) : Passes t [] t
  | cons {m : Moment} {rest : List Moment} {u : Target} (later : Passes m.after rest u) :
    Passes m.before (m :: rest) u

theorem passes_history (course : List Happening) (t : Target) :
    Passes t (t.history course) (t.undergone course) := by
  induction course generalizing t with
  | nil => exact .nil t
  | cons h course ih => exact .cons (m := ⟨t, h⟩) (ih (t.undergo h))

namespace Passes

variable {t u : Target} {m : Moment} {first later : List Moment}

theorem eq_of_nil (passes : Passes t [] u) : t = u := by
  cases passes
  rfl

theorem head (passes : Passes t (m :: later) u) : m.before = t ∧ Passes m.after later u := by
  cases passes with
  | cons later => exact ⟨rfl, later⟩

/-- Moments may be cut in two anywhere. -/
theorem split (passes : Passes t (first ++ later) u) :
    ∃ v, Passes t first v ∧ Passes v later u := by
  induction first generalizing t with
  | nil => exact ⟨t, .nil t, passes⟩
  | cons m first ih =>
    obtain ⟨rfl, rest⟩ := passes.head
    obtain ⟨v, before, behind⟩ := ih rest
    exact ⟨v, .cons before, behind⟩

/-- **What every moment keeps**, a passage keeps, and all its moments begin with it. -/
theorem keeps (passes : Passes t later u) (holds : Target → Prop)
    (step : ∀ m ∈ later, holds m.before → holds m.after) (now : holds t) :
    holds u ∧ ∀ m ∈ later, holds m.before := by
  induction passes with
  | nil t => exact ⟨now, fun m mem => nomatch mem⟩
  | @cons m rest u later ih =>
    have next := step m List.mem_cons_self now
    obtain ⟨last, each⟩ := ih (fun m mem => step m (List.mem_cons_of_mem _ mem)) next
    refine ⟨last, fun m mem => ?_⟩
    rcases List.mem_cons.mp mem with rfl | mem
    · exact now
    · exact each m mem

end Passes

/-- Moments of a history that follow on one reset, or on its beginning, without another. -/
def Stretch (history stretch : List Moment) : Prop :=
  ∃ earlier later, history = earlier ++ stretch ++ later ∧
    (earlier = [] ∨ ∃ older last, earlier = older ++ [last] ∧ last.happening = .reset) ∧
    ∀ m ∈ stretch, m.happening ≠ .reset

theorem Stretch.noReset {history stretch : List Moment} (found : Stretch history stretch) :
    ∀ m ∈ stretch, m.happening ≠ .reset := by
  obtain ⟨-, -, -, -, noReset⟩ := found
  exact noReset

/-- A stretch begins with the target that the history begins with, or with one that has been reset. -/
theorem Stretch.passes {t u : Target} {history stretch : List Moment}
    (found : Stretch history stretch) (passes : Passes t history u) :
    ∃ s v, Passes s stretch v ∧ (s = t ∨ ∃ last ∈ history, s = last.before.reset) := by
  obtain ⟨earlier, later, whole, begins, -⟩ := found
  rw [whole] at passes
  obtain ⟨v, passes, -⟩ := passes.split
  obtain ⟨s, before, passes⟩ := passes.split
  refine ⟨s, v, passes, ?_⟩
  rcases begins with rfl | ⟨older, last, rfl, reset⟩
  · exact .inl before.eq_of_nil.symm
  · obtain ⟨r, -, before⟩ := before.split
    have after := before.head.2.eq_of_nil
    refine .inr ⟨last, by simp [whole], ?_⟩
    rw [← after, Moment.after, reset]
    rfl

/-! ## The course of a chip -/

namespace Chip

/-- Performs operations one after the other. -/
def run : List Operation → Chip → Chip
  | [], chip => chip
  | op :: ops, chip => run ops (chip.perform op).2

/-- What an operation on the card of a chip is for the target: the accesses that it leads to. -/
def accessed (chip : Chip) (op : Card.Operation) : List Happening :=
  (chip.attached.exchanges Target.functions op).flatMap (·.access.happenings)

/-- What an operation on a chip is for the target. -/
def happenings (chip : Chip) : Operation → List Happening
  | .command number argument => chip.accessed (.command number argument)
  | .writeData value => chip.accessed (.writeData value)
  | .readData => chip.accessed .readData
  | .reset => chip.accessed .reset
  | .raiseCpu bits => [.raiseCpu bits]
  | .raiseError bits => [.raiseError bits]
  | .advance ticks => [.advance ticks]

/-- What a run of a chip is for the target. -/
def course : (ops : List Operation) → Chip → List Happening
  | [], _ => []
  | op :: ops, chip => chip.happenings op ++ course ops (chip.perform op).2

/-- The moments of a run of a chip. -/
def history (ops : List Operation) (chip : Chip) : List Moment :=
  chip.target.history (chip.course ops)

theorem mem_course {ops : List Operation} {chip : Chip} {x : Moment} (mem : x ∈ chip.history ops) :
    x.happening ∈ chip.course ops := by
  rw [← map_happening_history (chip.course ops) chip.target]
  exact List.mem_map_of_mem mem

/-- Whether an operation is one of the host on the bus of the card. -/
def Operation.isBusCall : Operation → Bool
  | .command .. | .writeData _ | .readData => true
  | .reset | .raiseCpu _ | .raiseError _ | .advance _ => false

/-- On the bus no time goes by. -/
theorem still_of_bus {ops : List Operation} (bus : ∀ op ∈ ops, op.isBusCall = true) (chip : Chip) :
    ∀ h ∈ chip.course ops, h.Still := by
  have access : ∀ (access : Access), ∀ h ∈ access.happenings, h.Still := by
    intro access h mem ticks passing
    rw [passing] at mem
    cases access with
    | reset => simp [Access.happenings] at mem
    | read f address length how =>
      obtain ⟨_, other⟩ := Happening.mem_reads mem
      cases other
    | write f address bytes how =>
      obtain ⟨_, _, other⟩ := Happening.mem_writes mem
      cases other
    | readStorage f address | writeStorage f address value => cases mem
  have accessed : ∀ (chip : Chip) (op : Card.Operation),
      ∀ h ∈ chip.accessed op, h.Still := by
    intro chip op h mem
    obtain ⟨exchange, -, mem⟩ := List.mem_flatMap.mp mem
    exact access exchange.access h mem
  induction ops generalizing chip with
  | nil => exact fun h mem => nomatch mem
  | cons op ops ih =>
    obtain ⟨first, bus⟩ := List.forall_mem_cons.mp bus
    refine List.forall_mem_append.mpr ⟨?_, ih bus _⟩
    cases op with
    | command number argument => exact accessed chip (.command number argument)
    | writeData value => exact accessed chip (.writeData value)
    | readData => exact accessed chip .readData
    | reset | raiseCpu bits | raiseError bits | advance ticks => cases first

theorem undergone_accessed (chip : Chip) (op : Card.Operation) :
    chip.target.undergone (chip.accessed op) =
      (chip.attached.perform Target.functions op).2.device := by
  unfold accessed
  rw [Target.undergone_exchanges, Attached.device_perform]
  rfl

/-- An operation leaves the target of a chip as its happenings do. -/
theorem target_perform (chip : Chip) (op : Operation) :
    (chip.perform op).2.target = chip.target.undergone (chip.happenings op) := by
  cases op with
  | command number argument => exact (undergone_accessed chip (.command number argument)).symm
  | writeData value => exact (undergone_accessed chip (.writeData value)).symm
  | readData => exact (undergone_accessed chip .readData).symm
  | reset => exact (undergone_accessed chip .reset).symm
  | raiseCpu bits => rfl
  | raiseError bits => rfl
  | advance ticks => exact target_advance chip ticks

/-- **The target of a chip sees happenings only**: a run leaves it as its course does. -/
theorem target_run (ops : List Operation) (chip : Chip) :
    (chip.run ops).target = chip.target.undergone (chip.course ops) := by
  induction ops generalizing chip with
  | nil => rfl
  | cons op ops ih =>
    show ((chip.perform op).2.run ops).target = _
    rw [ih, target_perform, course, Target.undergone_append]

theorem passes_run (ops : List Operation) (chip : Chip) :
    Passes chip.target (chip.history ops) (chip.run ops).target := by
  rw [target_run]
  exact passes_history ..

/-- A chip is attached with a target that has been reset once. -/
theorem target_attach {config : Config} {chip : Chip} (attached : attach config = .ok chip) :
    chip.target = (Target.powerOn config).reset := by
  unfold attach at attached
  split at attached
  · cases attached
  · cases attached
    rfl

end Chip

end WlanCard
