import WlanCard.Proofs.Card.Standing
import WlanCard.Proofs.Chip.AccessPaths
import WlanCard.Proofs.Chip.Alike

/-!
# A reset isolates what follows from what was before

Of all that has been done to a chip, a reset leaves `Chip.lasting`: the tick, the bytes in the
mailboxes, the scratch registers and three others. Chips with the same configuration that agree there
are alike once they are reset (`Made.reset_alike`), however they came to be what they were; so nothing
that is done afterwards can tell which of them has been reset (`reset_isolates`). The timers that were
armed before are no exception, although they are still in the queue: without them everything would be
the same.

What a reset returns to its power-on value depends on what is fixed about a chip. That no operation
changes any of it is `Made`.
-/

namespace WlanCard

/-! ## What is fixed about a chip -/

/-- No command changes the form in which the bootloader tells the target's identity. -/
theorem Bootloader.handle_form (b : Bootloader) (window : Window) (length : Nat) :
    (b.handle window length).session.form = b.form := by
  unfold handle
  split
  · rfl
  · split <;> rfl

namespace Target

theorem completeMessage_form (t : Target) (m : MailboxNumber) (length : Nat) :
    (t.completeMessage m length).boot.form = t.boot.form := by
  unfold completeMessage routeMessage
  rw [settleCredits_eq]
  dsimp only
  split
  · split
    · rfl
    · exact Bootloader.handle_form ..
  · rfl

theorem undergo_form (t : Target) (h : Happening) : (t.undergo h).boot.form = t.boot.form := by
  cases h with
  | reset | read address | raiseCpu bits | raiseError bits => rfl
  | advance ticks => exact congrArg Bootloader.form (boot_doneBy t _)
  | write address value =>
    show (t.writeByte address value).boot.form = _
    rcases t.writeByte_cases address value with ⟨m, length, led, -⟩ | ⟨led, -⟩ | ⟨led, -⟩
    · rw [led]
      exact completeMessage_form ..
    · rw [led]
      rfl
    · rw [led]

end Target

namespace Chip

variable {config : Config} {x y : Chip}

/-- Work that comes due leaves the layout of the card alone. -/
theorem runDue_layout (limit : Nat) (chip : Chip) :
    (chip.runDue limit).card.area.layout = chip.card.area.layout := by
  induction chip using runDue.induct limit with
  | case1 chip t popped =>
    rw [runDue_of_none popped]
    rfl
  | case2 chip event t popped ih =>
    rw [runDue_of_some popped, ih]
    rfl

theorem perform_layout (chip : Chip) (op : Operation) :
    (chip.perform op).2.card.area.layout = chip.card.area.layout := by
  cases op with
  | command number argument =>
    exact Attached.perform_layout Target.functions (.command number argument) chip.attached
  | writeData value => exact Attached.perform_layout Target.functions (.writeData value) chip.attached
  | readData => exact Attached.perform_layout Target.functions .readData chip.attached
  | reset | raiseCpu bits | raiseError bits => rfl
  | advance ticks => exact runDue_layout _ chip

/-- What nothing changes about a chip with a given configuration. -/
structure Made (config : Config) (chip : Chip) : Prop where
  wiring : (assemble config).card.KeepsWiring chip.card
  layout : chip.card.area.layout = (assemble config).card.area.layout
  sound : chip.target.Sound config
  form : chip.target.boot.form = config.identity

theorem Made.perform (made : x.Made config) (op : Operation) : (x.perform op).2.Made config := by
  obtain ⟨sound, form⟩ := ((passes_history (x.happenings op) x.target).keeps
    (fun t => t.Sound config ∧ t.boot.form = config.identity)
    (fun m _ ⟨sound, form⟩ =>
      ⟨sound.undergo m.happening, (m.before.undergo_form m.happening).trans form⟩)
    ⟨made.sound, made.form⟩).1
  rw [← target_perform] at sound form
  exact ⟨made.wiring.trans (perform_keepsWiring x op), (perform_layout x op).trans made.layout,
    sound, form⟩

theorem made_attach (attached : attach config = .ok x) : x.Made config := by
  unfold attach at attached
  split at attached
  · cases attached
  · cases attached
    exact ⟨⟨rfl, rfl, rfl⟩, rfl, (Target.sound_powerOn config).reset.toSound, rfl⟩

/-- **A chip stays what it was made**, whatever is done to it. -/
theorem Reachable.made (reached : x.Reachable) : x.Made x.target.config := by
  have some : ∃ config, x.Made config := by
    induction reached with
    | attach attached => exact ⟨_, made_attach attached⟩
    | perform op _ ih => exact ih.imp fun _ made => made.perform op
  obtain ⟨config, made⟩ := some
  exact made.sound.config ▸ made

/-! ## What a reset leaves -/

/-- The configuration of a chip, and what of its state outlasts a reset. -/
@[ext]
structure Lasting where
  config : Config
  now : Nat
  windows : Vector Window 4
  scratch : Vector UInt8 8
  wlanInterrupt : UInt8
  mailboxFrame : UInt8
  functionSelect : FunctionNumber
deriving DecidableEq

/-- What of a chip outlasts a reset. -/
def lasting (chip : Chip) : Lasting where
  config := chip.target.config
  now := chip.now
  windows := chip.target.host.mailboxes.map (·.window)
  scratch := chip.target.host.scratch
  wlanInterrupt := chip.target.host.wlanInterrupt
  mailboxFrame := chip.target.host.mailboxFrame
  functionSelect := chip.card.area.functionSelect

/-- The chip with nothing put off. -/
def withoutTimers (chip : Chip) : Chip :=
  chip.setTarget
    { chip.target with clock := { chip.target.clock with pending := [] } }

theorem Made.withoutTimers (made : x.Made config) : x.withoutTimers.Made config where
  wiring := made.wiring
  layout := made.layout
  sound := {
    config := made.sound.config
    clock := {
      single := .nil
      past := fun _ mem => nomatch mem
      ahead := fun _ mem => nomatch mem
      within := made.sound.clock.within } }
  form := made.form

/-- The card of a chip after a reset is told by what is fixed about it and the selected function. -/
theorem Made.reset_card (made : x.Made config) :
    x.card.reset.updateIrq =
      { (assemble config).card.reset.updateIrq with
        area.functionSelect := x.card.area.functionSelect } := by
  have told : x.card.reset.updateIrq =
      (Card.unenumerated x.card.conditions x.card.mode
        { CommonArea.powerOn x.card.area.layout (Card.functionCountOf x.card.conditions) with
          functionSelect := x.card.area.functionSelect } x.card.handlers false).updateIrq := rfl
  rw [told, made.wiring.conditions, made.wiring.mode, made.wiring.handlers, made.layout]
  rfl

/-- The host interface after a reset is told by what outlasts it. -/
theorem reset_host (chip : Chip) :
    chip.target.host.reset =
      { HostInterface.powerOn with
        mailboxes := chip.lasting.windows.map fun window => { Mailbox.empty with window }
        scratch := chip.lasting.scratch
        wlanInterrupt := chip.lasting.wlanInterrupt
        mailboxFrame := chip.lasting.mailboxFrame } := by
  have boxes : chip.target.host.mailboxes.map Mailbox.reset =
      chip.lasting.windows.map fun window => { Mailbox.empty with window } := by
    unfold lasting
    rw [Vector.map_map]
    rfl
  unfold HostInterface.reset
  rw [boxes]
  rfl

/-- **What outlasts a reset decides** what a chip is after it, but for its past. -/
theorem Made.reset_alike (left : x.Made config) (right : y.Made config)
    (same : x.lasting = y.lasting) : x.reset.Alike x.target.sent y.target.sent y.reset := by
  have select : x.card.area.functionSelect = y.card.area.functionSelect :=
    congrArg Lasting.functionSelect same
  have now : x.target.clock.now = y.target.clock.now := congrArg Lasting.now same
  refine Alike.syncIrq { card := ?_, device := ?_ }
  · show x.card.reset.updateIrq = y.card.reset.updateIrq
    rw [left.reset_card, right.reset_card, select]
  · exact {
      config := left.sound.config.trans right.sound.config.symm
      host := by
        show x.target.host.reset = y.target.host.reset
        rw [reset_host, reset_host, same]
      boot := congrArg (Bootloader.mk false) (left.form.trans right.form.symm)
      firmware := rfl
      clock := left.sound.clock.openEpoch_alike right.sound.clock now
      sent := ⟨[], (List.append_nil _).symm, (List.append_nil _).symm⟩ }

/-- From the reset on, chips that agree in what outlasts it have the same traces. -/
theorem Made.trace_eq (left : x.Made config) (right : y.Made config) (same : x.lasting = y.lasting)
    (ops : List Operation) : x.trace (.reset :: ops) = y.trace (.reset :: ops) := by
  have alike := left.reset_alike right same
  have first : x.observe .reset = y.observe .reset := observe_congr rfl alike
  unfold trace
  rw [first]
  exact congrArg _ (alike.trace_eq ops)

/-- **A reset isolates runs.** Two chips with the same configuration that agree in what outlasts a
reset show the same from the reset on, whatever has been done to them before: the same answers, the
same card and interrupt line, the same state of the target, the same ticks and the same messages sent,
after every operation of every run. They show what they would show if nothing had been put off before,
and no messages but those that are shown are sent. -/
theorem reset_isolates (left : x.Reachable) (right : y.Reachable) (same : x.lasting = y.lasting)
    (ops : List Operation) :
    x.trace (.reset :: ops) = y.trace (.reset :: ops) ∧
      x.trace (.reset :: ops) = x.withoutTimers.trace (.reset :: ops) ∧
      (x.run (.reset :: ops)).target.sent =
        x.target.sent ++ (x.trace (.reset :: ops)).flatMap (·.sent) := by
  have config : x.target.config = y.target.config := congrArg Lasting.config same
  have made : y.Made x.target.config := config ▸ right.made
  exact ⟨left.made.trace_eq made same ops, left.made.trace_eq left.made.withoutTimers rfl ops,
    sent_run left.made.sound.clock _⟩

/-- A chip whose host has loaded the firmware and sent a message. -/
def engaged : Chip :=
  selected.run [.command 52 0x9008e401, .command 52 0x9008e400, .command 52 0x901ffe00]

/-- The host loads the firmware of a chip that has been reset, and lets two seconds go by. -/
def reloading : List Operation :=
  [.reset, .command 5 0x10fe0000, .command 3 0, .command 7 0x45670000, .command 52 0x9008e401,
    .advance 2000000000]

/-- The announcement put off by the first handover is still queued at the second. -/
theorem reset_isolates_engaged :
    engaged.Reachable ∧
      engaged.target.clock.pending.map (·.event) = [.alive, .counterUpdate, .creditGrant 0] ∧
      engaged.lasting = (assemble {}).reset.lasting ∧
      engaged.trace reloading = (assemble {}).reset.trace reloading := by
  have attached : attach {} = .ok (assemble {}).reset := rfl
  have start : (assemble {}).reset.Reachable := .attach attached
  have reached : engaged.Reachable := .perform _ (.perform _ (.perform _ reachable_selected))
  -- Vectors are compared index by index, which takes too long for windows; lists are not.
  have bytes : engaged.lasting.windows.toList.map Vector.toList =
      (assemble {}).reset.lasting.windows.toList.map Vector.toList := by decide +kernel
  have windows : engaged.lasting.windows = (assemble {}).reset.lasting.windows :=
    Vector.toList_inj.mp ((List.map_inj_right fun _ _ => Vector.toList_inj.mp).mp bytes)
  have same : engaged.lasting = (assemble {}).reset.lasting :=
    Lasting.ext (by decide +kernel) (by decide +kernel) windows (by decide +kernel)
      (by decide +kernel) (by decide +kernel) (by decide +kernel)
  exact ⟨reached, by decide +kernel, same, (reset_isolates reached start same _).1⟩

end Chip

end WlanCard
