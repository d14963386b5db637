import WlanCard.Card.Data
import WlanCard.Card.Execute

/-!
# Labels of a card

The status of a card, the number of its last command and the byte of its next response are labels:
accesses to functions pass them on and do not look at them. `Card.relabel` puts other labels on a card,
and every step of an access commutes with it, as long as the labels of a card that has just been reset
stay what they are. Data commutes with it too where the new labels keep the data path as open as it was
(`writeData_relabel`, `readData_relabel`).
-/

namespace WlanCard

/-- Other labels for a card. -/
structure Relabelling where
  status : Status → Status
  number : UInt8 → UInt8
  data : UInt8 → UInt8

/-- A card that has just been reset keeps its labels. -/
structure Relabelling.KeepsReset (r : Relabelling) : Prop where
  status : r.status .powerOn = .powerOn
  number : r.number 0 = 0
  data : r.data 0 = 0

namespace Card

/-- The card under other labels. -/
def relabel (r : Relabelling) (c : Card) : Card :=
  { c with
    status := r.status c.status
    activeCommand := r.number c.activeCommand
    directData := r.data c.directData }

variable {r : Relabelling}

theorem reset_relabel (keeps : r.KeepsReset) (c : Card) : (c.relabel r).reset = c.reset.relabel r := by
  show c.reset = { c.reset with
    status := r.status Status.powerOn, activeCommand := r.number 0, directData := r.data 0 }
  rw [keeps.status, keeps.number, keeps.data]
  rfl

theorem endTransfer_relabel (r : Relabelling) (c : Card) :
    (c.relabel r).endTransfer = c.endTransfer.relabel r := by
  unfold endTransfer
  have same : (c.relabel r).area.isFourBit = c.area.isFourBit := rfl
  rw [same]
  split <;> rfl

theorem abort_relabel (r : Relabelling) (c : Card) (f : FunctionNumber) :
    (c.relabel r).abort f = (c.abort f).relabel r := by
  unfold abort
  have same : (c.relabel r).canAbort f = c.canAbort f := rfl
  rw [same]
  split
  · exact endTransfer_relabel r c
  · rfl

theorem agree_relabel (r : Relabelling) (c : Card) (conditions : UInt32) :
    (c.relabel r).agree conditions = (c.agree conditions).relabel r := by
  unfold agree
  split <;> rfl

theorem select_relabel (r : Relabelling) (c : Card) (address : UInt16) :
    (c.relabel r).select address = (c.select address).map id (·.relabel r) := by
  unfold select
  have phase : (c.relabel r).phase = c.phase := rfl
  have meant : (c.relabel r).address = c.address := rfl
  rw [phase, meant]
  split <;> split <;> rfl

theorem goInactive_relabel (r : Relabelling) (c : Card) (address : UInt16) :
    (c.relabel r).goInactive address = (c.goInactive address).relabel r := by
  unfold goInactive
  have own : (c.relabel r).address = c.address := rfl
  rw [own]
  split <;> rfl

theorem setHandler_relabel (r : Relabelling) (c : Card) (f : FunctionNumber) (handler : Handler) :
    (c.relabel r).setHandler f handler = (c.setHandler f handler).relabel r := by
  unfold setHandler
  split <;> rfl

end Card

namespace Attached

variable {σ : Type}

/-- The same of a card with its functions. -/
def relabel (r : Relabelling) (a : Attached σ) : Attached σ :=
  { a with card := a.card.relabel r }

variable {r : Relabelling} (keeps : r.KeepsReset) (fs : Functions σ)
include keeps

/-! ## Accesses -/

theorem apply_relabel (effect : CommonArea.Effect) (a : Attached σ) :
    (a.relabel r).apply fs effect = (a.apply fs effect).relabel r := by
  cases effect with
  | nothing | interrupts => rfl
  | busControl =>
    unfold apply
    dsimp only
    have same : (a.relabel r).card.mode = a.card.mode := rfl
    rw [same]
    cases a.card.mode <;> rfl
  | reset =>
    show (⟨((a.card.relabel r).reset).updateIrq, _⟩ : Attached σ) = _
    rw [a.card.reset_relabel keeps]
    rfl
  | abort f =>
    show (⟨(a.card.relabel r).abort f, _⟩ : Attached σ) = _
    rw [a.card.abort_relabel r f]
    rfl

theorem writeCommonByte_relabel (address : UInt32) (value : UInt8) (a : Attached σ) :
    (a.relabel r).writeCommonByte fs address value =
      (a.writeCommonByte fs address value).relabel r := by
  let answer := a.card.area.writeByte fs address.toNat value a.device
  exact apply_relabel keeps fs answer.1 ⟨{ a.card with area := answer.2.1 }, answer.2.2⟩

theorem writeCommon_relabel (how : Addressing) (address : UInt32) (bytes : List UInt8)
    (a : Attached σ) :
    (a.relabel r).writeCommon fs how address bytes =
      (a.writeCommon fs how address bytes).relabel r := by
  induction bytes generalizing address a with
  | nil => rfl
  | cons value rest ih =>
    unfold writeCommon
    split
    · rfl
    · rw [writeCommonByte_relabel keeps, ih]

/-- **Write accesses** commute with other labels. -/
theorem write_relabel (f : FunctionNumber) (address : UInt32) (bytes : List UInt8)
    (how : Addressing) (a : Attached σ) :
    (a.relabel r).write fs f address bytes how = (a.write fs f address bytes how).relabel r := by
  unfold write
  have same : (a.relabel r).card.handlers.get f = a.card.handlers.get f := rfl
  rw [same]
  cases a.card.handlers.get f with
  | common => exact writeCommon_relabel keeps fs how address bytes a
  | attached | absent => rfl

omit keeps in
/-- **Read accesses** do, too. -/
theorem read_relabel (r : Relabelling) (f : FunctionNumber) (address : UInt32) (length : Nat)
    (how : Addressing) (a : Attached σ) :
    (a.relabel r).read fs f address length how =
      ((a.read fs f address length how).1, (a.read fs f address length how).2.relabel r) := by
  unfold read
  have same : (a.relabel r).card.handlers.get f = a.card.handlers.get f := rfl
  rw [same]
  cases a.card.handlers.get f <;> rfl

/-! ## Data -/

theorem flush_relabel (t : Transfer) (a : Attached σ) :
    (a.relabel r).flush fs t = (a.flush fs t).relabel r := by
  unfold flush
  rw [write_relabel keeps]
  generalize a.write fs t.function t.start t.staging.toList t.addressing = written
  have same : (written.relabel r).card.phase = written.card.phase := rfl
  dsimp only
  rw [same]
  split
  · split
    · show (⟨(written.card.relabel r).endTransfer, _⟩ : Attached σ) = _
      rw [written.card.endTransfer_relabel r]
      rfl
    · rfl
  · rfl

/-- **Written bytes** go the same way through a data path that is as open as it was. -/
theorem writeData_relabel (value : UInt8) {a : Attached σ}
    (same : (a.card.relabel r).openDataPath? = a.card.openDataPath?) :
    (a.relabel r).writeData fs value = (a.writeData fs value).relabel r := by
  change (a.relabel r).card.openDataPath? = _ at same
  unfold writeData
  rw [same]
  cases a.card.openDataPath? with
  | none => rfl
  | some t =>
    dsimp only
    cases t.direction with
    | read => rfl
    | write =>
      dsimp only
      split
      · exact flush_relabel keeps fs _ a
      · rfl

omit keeps

theorem moveOn_relabel (r : Relabelling) (t : Transfer) (a : Attached σ) :
    (a.relabel r).moveOn t = (a.moveOn t).relabel r := by
  unfold moveOn
  dsimp only
  split
  · split
    · show (⟨(a.card.relabel r).endTransfer, _⟩ : Attached σ) = _
      rw [a.card.endTransfer_relabel r]
      rfl
    · rfl
  · rfl

/-- **Read bytes** come the same way. -/
theorem readData_relabel {a : Attached σ}
    (same : (a.card.relabel r).openDataPath? = a.card.openDataPath?) :
    (a.relabel r).readData fs = ((a.readData fs).1, (a.readData fs).2.relabel r) := by
  change (a.relabel r).card.openDataPath? = _ at same
  unfold readData
  rw [same]
  cases a.card.openDataPath? with
  | none => rfl
  | some t =>
    dsimp only
    cases t.direction with
    | write => rfl
    | read =>
      have fetched : (a.relabel r).fetch fs t = ((a.fetch fs t).1, (a.fetch fs t).2.relabel r) := by
        unfold fetch
        rw [read_relabel]
        split <;> rfl
      dsimp only
      rw [fetched, moveOn_relabel]

end Attached

end WlanCard
