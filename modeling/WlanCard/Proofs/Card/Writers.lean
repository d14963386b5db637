import WlanCard.Proofs.Card.Refusal

/-!
# Who writes to the functions

Of all that can be done to a card, two operations write to the functions behind it: a direct access, and
a byte of data. Every other command leaves the functions alone (`command_device`), and reading data only
reads (`readData_device`).
-/

namespace WlanCard

variable {σ : Type}

/-- An access writes bytes to a function. -/
def Access.isWrite : Access → Bool
  | .write .. => true
  | _ => false

/-- Reading keeps a property of the state of the functions. -/
structure Functions.ReadsKeep (fs : Functions σ) (holds : σ → Prop) : Prop where
  read : ∀ f address length how s, holds s → holds (fs.read f address length how s).2
  readStorage : ∀ f address s, holds s → holds (fs.readStorage f address s).2

variable {fs : Functions σ} {holds : σ → Prop}

namespace CommonArea

theorem readByte_device (kept : fs.ReadsKeep holds) (address : Nat) (area : CommonArea) {s : σ}
    (now : holds s) : holds (area.readByte fs address s).2.2 := by
  unfold readByte
  split
  · exact now
  · unfold readFunction
    split
    · exact kept.readStorage _ _ _ now
    · exact now
  · exact now

theorem read_device (kept : fs.ReadsKeep holds) (how : Addressing) (address length : Nat)
    (area : CommonArea) {s : σ} (now : holds s) :
    holds (read fs how address length area s).2.2 := by
  induction length generalizing address area s with
  | zero => exact now
  | succ length ih =>
    unfold read
    split
    · exact ih _ _ (readByte_device kept address area now)
    · exact now

end CommonArea

namespace Attached

variable {a : Attached σ}

theorem read_device (kept : fs.ReadsKeep holds) (f : FunctionNumber) (address : UInt32)
    (length : Nat) (how : Addressing) (now : holds a.device) :
    holds (a.read fs f address length how).2.device := by
  unfold read
  split
  · exact CommonArea.read_device kept how _ length a.card.area now
  · exact kept.read _ _ _ _ _ now
  · exact now

/-- **Reading data** does nothing to the functions but reading. -/
theorem readData_device (kept : fs.ReadsKeep holds) (now : holds a.device) :
    holds (a.readData fs).2.device := by
  have moved : ∀ (t : Transfer) (b : Attached σ), (b.moveOn t).device = b.device := by
    intro t b
    unfold moveOn
    dsimp only
    split
    · split <;> rfl
    · rfl
  unfold readData
  split
  · exact now
  next t _ =>
    split
    · exact now
    · dsimp only
      rw [moved]
      unfold fetch
      split
      · exact read_device kept _ _ _ _ now
      · exact now

/-- **A command** other than a direct access leaves the functions alone. -/
theorem command_device (fs : Functions σ) {number : UInt8} (argument : UInt32)
    (other : number ≠ Card.directNumber) : (a.command fs number argument).2.device = a.device := by
  by_cases legal : a.card.Legal number
  · unfold Attached.command
    rw [execute_of_legal fs argument legal]
    show ((a.prepare number _).carryOut fs (Command.ofWire number argument)).2.device = _
    unfold Command.ofWire
    split
    case h_6 here => exact absurd (UInt8.toNat_inj.mp here) other
    all_goals rfl
  · rw [command_of_not_legal fs argument legal]

/-- **Two operations write** to the functions: a direct access, and a byte of data. -/
theorem writer_of_exchange (fs : Functions σ) (op : Card.Operation) {e : Exchange}
    (mem : e ∈ a.exchanges fs op) (writes : e.access.isWrite = true) :
    (∃ argument, op = .command Card.directNumber argument) ∨ ∃ value, op = .writeData value := by
  have nothing : ∀ {op : Card.Operation},
      (a.watched.perform fs.observed op).2.device = a.watched.device → e ∉ a.exchanges fs op := by
    intro op same mem
    unfold exchanges at mem
    rw [same] at mem
    cases mem
  cases op with
  | command number argument =>
    by_cases direct : number = Card.directNumber
    · exact .inl ⟨argument, by rw [direct]⟩
    · exact absurd mem (nothing (command_device fs.observed argument direct))
  | writeData value => exact .inr ⟨value, rfl⟩
  | readData =>
    have kept : fs.observed.ReadsKeep fun s => ∀ e ∈ s.2, e.access.isWrite = false := by
      constructor
      · intro f address length how s now
        exact List.forall_mem_append.mpr ⟨now, by simp [Access.isWrite]⟩
      · intro f address s now
        exact List.forall_mem_append.mpr ⟨now, by simp [Access.isWrite]⟩
    have none := readData_device kept (a := a.watched) (fun _ mem => nomatch mem) e mem
    rw [writes] at none
    cases none
  | setFunctionIrq line level => exact absurd mem (nothing rfl)
  | setHandler f handler => exact absurd mem (nothing rfl)
  | reset =>
    rw [List.mem_singleton.mp mem] at writes
    cases writes

end Attached

end WlanCard
