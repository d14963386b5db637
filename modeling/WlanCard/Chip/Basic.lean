import WlanCard.Card.Data
import WlanCard.Card.Execute
import WlanCard.Chip.Target

/-!
# The chip

The whole wireless card: a card controller with one function, behind which the target sits. After
every operation the interrupt line of the target is passed on to the card, so that its level is never
out of date.

Virtual time moves only when its owner advances it. Whatever comes due on the way is done in order, at
its own tick. Doing it may put off further work, which may be due at once; that this ends is what
`load` shows: every piece of work done makes it smaller.
-/

namespace WlanCard

namespace CardModel

/-- The operating conditions of the chip: 2.9 V to 3.6 V, no memory, one function. -/
def chipConditions : UInt32 := 0x10fe0000

/-- What is fixed about the chip's single function. -/
def chipFunction : FunctionInfo where
  interfaceCode := CommonArea.noInterface
  extendedInterfaceCode := CommonArea.noExtendedInterface
  tupleOffset := UInt32.ofNat Cis.functionOffset

/-- What is fixed about the chip on a given bus. -/
def chip (mode : BusMode) : CardModel where
  conditions := chipConditions
  mode
  layout := {
    revision := CommonArea.revision110
    functions := #v[chipFunction, {}, {}, {}, {}, {}, {}]
    tuples := Cis.bytes }

end CardModel

/-- The chip: a card with the target behind it. -/
structure Chip where
  attached : Attached Target
deriving DecidableEq

namespace Chip

/-- The card controller of the chip. -/
def card (chip : Chip) : Card := chip.attached.card

/-- The target of the chip. -/
def target (chip : Chip) : Target := chip.attached.device

/-- The chip with its target replaced. -/
def setTarget (chip : Chip) (t : Target) : Chip :=
  ⟨{ chip.attached with device := t }⟩

/-- Passes the interrupt line of the target on to the card. -/
def syncIrq (chip : Chip) : Chip :=
  ⟨chip.attached.setFunctionIrq 0 chip.target.host.irqLine⟩

/-- Resets the chip. Work put off before is never done. -/
def reset (chip : Chip) : Chip :=
  syncIrq ⟨chip.attached.reset Target.functions⟩

/-- The parts of a chip with the given configuration, before their first reset. -/
def assemble (config : Config) : Chip where
  attached := {
    card := (Card.new (.chip config.mode)).setHandler 1 .attached
    device := Target.powerOn config }

/-- A chip with the given configuration, if that describes one. -/
def attach (config : Config) : Except ConfigError Chip :=
  match config.validate with
  | .error e => .error e
  | .ok () => .ok (assemble config).reset

/-- Executes a command and builds its response. -/
def command (chip : Chip) (number : UInt8) (argument : UInt32) : Response × Chip :=
  let answer := chip.attached.command Target.functions number argument
  (answer.1, syncIrq ⟨answer.2⟩)

/-- Accepts one byte from the host. -/
def writeData (chip : Chip) (value : UInt8) : Chip :=
  syncIrq ⟨chip.attached.writeData Target.functions value⟩

/-- Hands one byte to the host. -/
def readData (chip : Chip) : UInt8 × Chip :=
  let answer := chip.attached.readData Target.functions
  (answer.1, syncIrq ⟨answer.2⟩)

/-- The target's processor reports what has happened. -/
def raiseCpu (chip : Chip) (bits : UInt8) : Chip :=
  (chip.setTarget { chip.target with host := chip.target.host.raiseCpu bits }).syncIrq

/-- An error is reported. -/
def raiseError (chip : Chip) (bits : UInt8) : Chip :=
  (chip.setTarget { chip.target with host := chip.target.host.raiseError bits }).syncIrq

/-- The current tick. -/
def now (chip : Chip) : Nat := chip.target.clock.now

end Chip

/-! ## Doing what comes due -/

/-- How much work deferred work stands for: a grant of credits may put off a counter update, nothing
else puts off anything. -/
def Deferred.weight : Deferred → Nat
  | .creditGrant _ => 2
  | .counterUpdate | .alive => 1

namespace Target

/-- The work that the target still has to do. -/
def load (t : Target) : Nat :=
  t.clock.weight Deferred.weight

/-- The first work due by `limit`, and the target without it. -/
def popDue (t : Target) (limit : Nat) : Option Deferred × Target :=
  let popped := t.clock.popDue limit
  (popped.1, { t with clock := popped.2 })

/-- Settling credits puts off a counter update at most. -/
theorem load_settleCredits_le (t : Target) (answer : Bool × HostInterface) :
    (t.settleCredits answer).load ≤ t.load + 1 := by
  unfold settleCredits
  cases answer.1 with
  | true => exact Clock.weight_arm_le Deferred.weight ..
  | false => exact Nat.le_succ _

/-- Announcing the firmware puts off nothing. -/
theorem load_announce (t : Target) : t.announce.load = t.load := by
  unfold announce
  split
  · rfl
  · dsimp only
    split <;> rfl

/-- Doing work that has come due leaves less to do. -/
theorem load_fire_lt {t u : Target} {limit : Nat} {event : Deferred}
    (popped : t.popDue limit = (some event, u)) : (u.fire event).load < t.load := by
  obtain ⟨first, second⟩ := Prod.mk.inj popped
  have less : u.load + event.weight ≤ t.load := by
    rw [← second]
    exact Clock.weight_popDue_some Deferred.weight (Prod.ext first rfl)
  cases event with
  | counterUpdate =>
    have same : (u.fire .counterUpdate).load = u.load := rfl
    simp only [Deferred.weight] at less
    omega
  | creditGrant m =>
    have armed : (u.fire (.creditGrant m)).load ≤ u.load + 1 := load_settleCredits_le ..
    simp only [Deferred.weight] at less
    omega
  | alive =>
    have same : (u.fire .alive).load = u.load := load_announce u
    simp only [Deferred.weight] at less
    omega

end Target

namespace Chip

/-- Does work that has come due, and passes the interrupt line on. -/
def fire (chip : Chip) (event : Deferred) : Chip :=
  (chip.setTarget (chip.target.fire event)).syncIrq

/-- Does all work due by `limit`, in order. -/
def runDue (limit : Nat) (chip : Chip) : Chip :=
  match _popped : chip.target.popDue limit with
  | (none, t) => chip.setTarget t
  | (some event, t) => runDue limit ((chip.setTarget t).fire event)
termination_by chip.target.load
decreasing_by exact Target.load_fire_lt _popped

/-- Advances virtual time, and does all work that comes due on the way. -/
def advance (chip : Chip) (ticks : Nat) : Chip :=
  let limit := Clock.tickAfter chip.now ticks
  let chip := chip.runDue limit
  chip.setTarget { chip.target with clock := chip.target.clock.advanceTo limit }

end Chip

end WlanCard
