import WlanCard.Proofs.Chip.Run
import WlanCard.Proofs.Clock.Due

/-!
# Advancing time in parts

How virtual time is cut into parts does not matter: two advances lead to the same chip as the one
that goes as far (`advance_advance`).

An advance takes the chip to a tick, `doneBy`: everything due by then has been done, and the clock
stands there. On the way to a later tick a chip does the same work, in the same order, as on the way
to an earlier one, and then what is left (`doneBy_doneBy`). The induction is over the work done by the
earlier tick. When none is left, the two ways differ only in where the clock stands and in timers of
earlier epochs, which one of them has dropped already.
-/

namespace WlanCard

namespace Target

/-- Popping work is popping from the clock. -/
theorem popDue_eq_iff {t u : Target} {limit : Nat} {event : Option Deferred} :
    t.popDue limit = (event, u) ↔
      t.clock.popDue limit = (event, u.clock) ∧ { t with clock := u.clock } = u := by
  unfold popDue
  constructor
  · intro popped
    cases popped
    exact ⟨rfl, rfl⟩
  · rintro ⟨clock, rest⟩
    rw [clock, ← rest]

/-- Targets that differ in their clocks only pop alike if their clocks do. -/
theorem popDue_congr {t u : Target} {limit : Nat}
    (clock : t.clock.popDue limit = u.clock.popDue limit) (rest : { t with clock := u.clock } = u) :
    t.popDue limit = u.popDue limit := by
  unfold popDue
  rw [clock, ← rest]

theorem settleCredits_now (t : Target) (answer : Bool × HostInterface) :
    (t.settleCredits answer).clock.now = t.clock.now := by
  unfold settleCredits
  dsimp only
  split <;> rfl

theorem announce_now (t : Target) : t.announce.clock.now = t.clock.now := by
  unfold announce
  split
  · rfl
  · dsimp only
    split <;> rfl

/-- Doing work takes no time. -/
theorem fire_now (t : Target) (event : Deferred) : (t.fire event).clock.now = t.clock.now := by
  cases event with
  | counterUpdate => rfl
  | creditGrant m => exact settleCredits_now ..
  | alive => exact announce_now t

end Target

namespace Chip

/-- The chip once everything due by a tick has been done and its clock stands there. -/
def doneBy (tick : Nat) (chip : Chip) : Chip :=
  let chip := chip.runDue tick
  chip.setTarget { chip.target with clock := chip.target.clock.advanceTo tick }

theorem advance_eq (chip : Chip) (ticks : Nat) :
    chip.advance ticks = chip.doneBy (Clock.tickAfter chip.now ticks) := rfl

variable {soon late : Nat}

theorem doneBy_of_some {chip : Chip} {tick : Nat} {event : Deferred} {t : Target}
    (popped : chip.target.popDue tick = (some event, t)) :
    chip.doneBy tick = ((chip.setTarget t).fire event).doneBy tick := by
  unfold doneBy
  rw [runDue_of_some popped]

/-- What is done by a tick depends on a chip's card and on what its target pops. -/
theorem doneBy_congr {x y : Chip} {tick : Nat} (card : x.card = y.card)
    (popped : x.target.popDue tick = y.target.popDue tick) : x.doneBy tick = y.doneBy tick := by
  have replaced : ∀ t, x.setTarget t = y.setTarget t := by
    intro t
    show (⟨⟨x.card, t⟩⟩ : Chip) = ⟨⟨y.card, t⟩⟩
    rw [card]
  unfold doneBy
  cases next : y.target.popDue tick with
  | mk event t =>
    cases event with
    | none => rw [runDue_of_none next, runDue_of_none (popped.trans next), replaced]
    | some event => rw [runDue_of_some next, runDue_of_some (popped.trans next), replaced]

/-- Once nothing is left that is due by a tick, moving the clock there changes nothing that is done by
a later one. -/
theorem doneBy_advanceTo (le : soon ≤ late) (chip : Chip)
    (nothing : Timer.earliestDue soon chip.target.clock.pending = none) :
    (chip.setTarget { chip.target with clock := chip.target.clock.advanceTo soon }).doneBy late =
      chip.doneBy late := by
  let moved := chip.setTarget { chip.target with clock := chip.target.clock.advanceTo soon }
  rcases Clock.popDue_advanceTo nothing late with same | ⟨here, there⟩
  · exact doneBy_congr rfl (Target.popDue_congr same rfl)
  · have left : chip.target.popDue late = (none, chip.target) :=
      Target.popDue_eq_iff.mpr ⟨here, rfl⟩
    have right : moved.target.popDue late = (none, moved.target) :=
      Target.popDue_eq_iff.mpr ⟨there, rfl⟩
    have now : max (max chip.target.clock.now soon) late = max chip.target.clock.now late := by omega
    have stays : moved.runDue late = moved := runDue_of_none right
    unfold doneBy
    rw [runDue_of_none left, stays]
    show chip.setTarget { chip.target with
        clock := (chip.target.clock.advanceTo soon).advanceTo late } =
      chip.setTarget { chip.target with clock := chip.target.clock.advanceTo late }
    unfold Clock.advanceTo
    rw [now]

/-- **On the way to a later tick** the chip does what is due by an earlier one first. -/
theorem doneBy_doneBy (le : soon ≤ late) (chip : Chip) :
    (chip.doneBy soon).doneBy late = chip.doneBy late := by
  induction chip using runDue.induct soon with
  | case1 chip t popped =>
    obtain ⟨drained, rest⟩ := Target.popDue_eq_iff.mp popped
    have nothing : Timer.earliestDue soon t.clock.pending = none :=
      Clock.earliestDue_of_drained drained
    have dropped : chip.target.popDue late = t.popDue late :=
      Target.popDue_congr (Clock.popDue_of_drained le drained) rest
    calc (chip.doneBy soon).doneBy late
        = ((chip.setTarget t).setTarget { t with clock := t.clock.advanceTo soon }).doneBy late := by
          unfold doneBy
          rw [runDue_of_none popped]
          rfl
      _ = (chip.setTarget t).doneBy late := doneBy_advanceTo le (chip.setTarget t) nothing
      _ = chip.doneBy late := doneBy_congr rfl dropped.symm
  | case2 chip event t popped ih =>
    obtain ⟨first, rest⟩ := Target.popDue_eq_iff.mp popped
    have later : chip.target.popDue late = (some event, t) :=
      Target.popDue_eq_iff.mpr ⟨Clock.popDue_mono le first, rest⟩
    rw [doneBy_of_some popped, doneBy_of_some later]
    exact ih

/-- Popping moves the clock of a target to no tick beyond the limit. -/
theorem max_now_popped {chip : Chip} {tick : Nat} {event : Option Deferred} {t : Target}
    (popped : chip.target.popDue tick = (event, t)) : max t.clock.now tick = max chip.now tick := by
  have stands := Clock.max_now_popDue chip.target.clock tick
  rwa [(Target.popDue_eq_iff.mp popped).1] at stands

/-- Everything due by a tick is done by that tick. -/
theorem doneBy_now (tick : Nat) (chip : Chip) : (chip.doneBy tick).now = max chip.now tick := by
  induction chip using runDue.induct tick with
  | case1 chip t popped =>
    unfold doneBy
    rw [runDue_of_none popped]
    exact max_now_popped popped
  | case2 chip event t popped ih =>
    have fired : ((chip.setTarget t).fire event).now = t.clock.now := Target.fire_now t event
    rw [doneBy_of_some popped, ih, fired]
    exact max_now_popped popped

/-- **Splitting time does not matter.** Two advances lead to the same chip as the single one to the
tick that they reach together, the last tick at most; and there its clock stands. -/
theorem advance_advance (chip : Chip) (a b : Nat) :
    (chip.advance a).advance b =
        chip.advance (min (chip.now + a + b) Clock.lastTick - chip.now) ∧
      ((chip.advance a).advance b).now =
        max chip.now (min (chip.now + a + b) Clock.lastTick) := by
  let soon := Clock.tickAfter chip.now a
  let late := min (chip.now + a + b) Clock.lastTick
  have le : soon ≤ late := by
    simp only [soon, late, Clock.tickAfter]
    omega
  have stands : (chip.advance a).now = max chip.now soon := doneBy_now soon chip
  have twice : Clock.tickAfter (chip.advance a).now b = late := by
    rw [stands]
    simp only [soon, late, Clock.tickAfter]
    omega
  have once : Clock.tickAfter chip.now (late - chip.now) = late := by
    simp only [late, Clock.tickAfter]
    omega
  have reached : (chip.advance a).advance b = chip.doneBy late := by
    rw [advance_eq (chip.advance a), twice]
    exact doneBy_doneBy le chip
  refine ⟨?_, ?_⟩
  · rw [reached, advance_eq chip, once]
  · rw [reached, doneBy_now]

end Chip

end WlanCard
