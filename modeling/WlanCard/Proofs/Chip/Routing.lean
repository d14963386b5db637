import WlanCard.Proofs.Bootloader
import WlanCard.Proofs.Chip.Announcement

/-!
# Whom a message is for

A message that the host completes has one reader. In the control mailbox that is the bootloader until it
is done (`completeMessage_boots`), and the firmware after that, which counts it; in the other mailboxes
it is nobody. Whoever is not the reader is left alone, and unless the bootloader reads it, so is
everything that the mailboxes hold (`completeMessage_unread`).

`Target.counted` is what the firmware has counted, and `Passes.counted` tells it from the moments since
the handover.
-/

namespace WlanCard

/-! ## The readers -/

/-- The firmware counts the messages that are long enough. -/
theorem Firmware.unhandled_receive (f : Firmware) (length : Nat) :
    (f.receive length).unhandled =
      f.unhandled + if leastCommandLength ≤ length then 1 else 0 := by
  unfold receive
  by_cases short : length < leastCommandLength
  · rw [if_pos short, if_neg (Nat.not_le_of_lt short)]
    rfl
  · rw [if_neg short, if_pos (Nat.le_of_not_lt short)]

namespace Target

variable {t : Target} {m : MailboxNumber} {length : Nat}

/-- The bootloader reads a message. -/
def Boots (t : Target) (m : MailboxNumber) : Prop :=
  m = .control ∧ t.boot.done = false

instance (t : Target) (m : MailboxNumber) : Decidable (t.Boots m) :=
  inferInstanceAs (Decidable (_ ∧ _))

/-- **The bootloader reads** what comes in the control mailbox until it is done. The credits of the
mailbox are dropped before that; then the bootloader leaves its answer in the window. -/
theorem completeMessage_boots (boots : t.Boots m) (length : Nat) :
    let outcome := t.boot.handle (t.host.mailbox .control).window length
    let host := (t.host.dropCredits .control).2.setWindow .control outcome.window
    (t.completeMessage m length).boot = outcome.session ∧
      (t.completeMessage m length).firmware = t.firmware ∧
      (t.completeMessage m length).host =
        match outcome.available with
        | some count => host.setAvailable .control count
        | none => host := by
  obtain ⟨rfl, done⟩ := boots
  have window : ((t.host.dropCredits .control).2.mailbox .control).window =
      (t.host.mailbox .control).window :=
    HostInterface.apply_setMailbox (h := t.host) Mailbox.window rfl
  unfold completeMessage routeMessage
  rw [settleCredits_eq, if_pos rfl]
  dsimp only
  rw [done, if_neg Bool.false_ne_true, bootMessage, window]
  exact ⟨rfl, rfl, rfl⟩

/-- **The firmware reads** it once the bootloader is done, and nobody what comes elsewhere. Then the
credits of the mailbox are dropped, and nothing else of the host interface changes. -/
theorem completeMessage_unread (unread : ¬ t.Boots m) (length : Nat) :
    (t.completeMessage m length).boot = t.boot ∧
      (t.completeMessage m length).host = (t.host.dropCredits m).2 ∧
      (t.completeMessage m length).firmware =
        if m = .control then t.firmware.map (·.receive length) else t.firmware := by
  unfold completeMessage routeMessage
  rw [settleCredits_eq]
  by_cases control : m = .control
  · have done : t.boot.done = true := by simpa [Boots, control] using unread
    dsimp only
    rw [if_pos control, if_pos done, if_pos control]
    exact ⟨rfl, rfl, rfl⟩
  · rw [if_neg control, if_neg control]
    exact ⟨rfl, rfl, rfl⟩

/-- A write, and what comes of it. -/
theorem writeByte_eq (t : Target) (address : UInt32) (value : UInt8) :
    t.writeByte address value =
      match (t.host.write address value).1 with
      | some event => ({ t with host := (t.host.write address value).2 } : Target).handle event
      | none => { t with host := (t.host.write address value).2 } := rfl

end Target

/-! ## Messages in a history -/

namespace Moment

variable {x : Moment} {m : MailboxNumber} {length : Nat}

/-- The host interface in a moment, after what the host writes and before what the target does. -/
def written (x : Moment) : HostInterface :=
  match x.happening with
  | .write address value => (x.before.host.write address value).2
  | _ => x.before.host

/-- The message that the host completes in a moment, if it does: its mailbox and its length. -/
def message? (x : Moment) : Option (MailboxNumber × Nat) :=
  match x.happening with
  | .write address value =>
    match (x.before.host.write address value).1 with
    | some (.messageComplete m length) => some (m, length)
    | _ => none
  | _ => none

/-- A command for the bootloader is completed. -/
def Commands (x : Moment) (c : BootCommand) : Prop :=
  ∃ length, x.message? = some (.control, length) ∧
    Bootloader.Commands c (x.written.mailbox .control).window length

/-- A message that the firmware counts is completed. -/
def isCounted (x : Moment) : Bool :=
  match x.message? with
  | some (m, length) => m = .control && x.before.boot.done && Firmware.leastCommandLength ≤ length
  | none => false

/-- Nothing that the mailboxes hold for the host changes, but what the host writes itself. -/
def LeavesMailboxes (x : Moment) : Prop :=
  ∀ n, x.after.host.available n = x.before.host.available n ∧
    ∀ i, (∀ value, ¬ x.happening.Writes (.mailbox n i) value) →
      x.after.host.byte n i = x.before.host.byte n i

theorem write_of_message (completes : x.message? = some (m, length)) :
    ∃ address value, x.happening = .write address value ∧
      (x.before.host.write address value).1 = some (.messageComplete m length) := by
  unfold message? at completes
  split at completes
  next address value same =>
    split at completes
    next n count answer =>
      cases completes
      exact ⟨address, value, same, answer⟩
    · cases completes
  · cases completes

theorem written_of_write {address : UInt32} {value : UInt8}
    (same : x.happening = .write address value) :
    x.written = (x.before.host.write address value).2 := by
  unfold written
  rw [same]

/-- **A completed message** is acted on once its last byte is written. -/
theorem after_of_message (completes : x.message? = some (m, length)) :
    x.after = ({ x.before with host := x.written } : Target).completeMessage m length := by
  obtain ⟨address, value, same, answer⟩ := write_of_message completes
  rw [written_of_write same, after, same]
  show x.before.writeByte address value = _
  rw [Target.writeByte_eq, answer]
  rfl

/-- A write that completes no message is one to a register, or hands over to the firmware. -/
theorem after_of_write {address : UInt32} {value : UInt8}
    (same : x.happening = .write address value) (silent : x.message? = none) :
    x.after = { x.before with host := x.written } ∨
      x.before.firmware = none ∧
        x.after = ({ x.before with host := x.written } : Target).handOver := by
  rw [written_of_write same, after, same]
  show x.before.writeByte address value = _ ∨ _ ∧ x.before.writeByte address value = _
  rw [Target.writeByte_eq]
  cases answer : (x.before.host.write address value).1 with
  | none => exact .inl rfl
  | some event =>
    cases event with
    | messageComplete m length =>
      unfold message? at silent
      rw [same] at silent
      dsimp only at silent
      rw [answer] at silent
      cases silent
    | wlanInterrupt value =>
      by_cases hands : x.before.handsOver value = true
      · have unloaded : x.before.firmware = none := by
          unfold Target.handsOver at hands
          simpa using (Bool.and_eq_true_iff.mp hands).2
        exact .inr ⟨unloaded, if_pos hands⟩
      · exact .inl (if_neg hands)

/-! ## The bootloader -/

/-- Where no message is completed, only a reset reaches the bootloader. -/
theorem boot_after (silent : x.message? = none) (noReset : x.happening ≠ .reset) :
    x.after.boot = x.before.boot := by
  cases same : x.happening with
  | reset => exact absurd same noReset
  | write address value =>
    rcases after_of_write same silent with led | ⟨-, led⟩ <;> rw [led]
    rfl
  | advance ticks =>
    rw [after, same]
    exact Target.boot_doneBy ..
  | read address | raiseCpu bits | raiseError bits =>
    rw [after, same]
    rfl

theorem boot_after_reset (reset : x.happening = .reset) : x.after.boot.done = false := by
  rw [after, reset]
  rfl

/-- **The bootloader is done** when it is told so in a message. -/
theorem done_iff (before : x.before.boot.done = false) :
    x.after.boot.done = true ↔ x.Commands .done := by
  unfold Commands
  cases completes : x.message? with
  | none =>
    have stays : x.after.boot.done = false := by
      by_cases reset : x.happening = .reset
      · exact boot_after_reset reset
      · rw [boot_after completes reset, before]
    simp [stays]
  | some message =>
    obtain ⟨m, length⟩ := message
    let t : Target := { x.before with host := x.written }
    rw [after_of_message completes]
    by_cases control : m = .control
    · subst control
      have boots : t.Boots .control := ⟨rfl, before⟩
      rw [(Target.completeMessage_boots boots length).1, Bootloader.handle_session]
      by_cases told : Bootloader.Commands .done (x.written.mailbox .control).window length
      · simp [t, told]
      · simp [t, told, before]
    · have unread : ¬ t.Boots m := fun boots => control boots.1
      rw [(Target.completeMessage_unread unread length).1]
      simp [t, before, control]

/-- Only a reset leads back to the bootloader. -/
theorem undone_iff (before : x.before.boot.done = true) :
    x.after.boot.done = false ↔ x.happening = .reset := by
  refine ⟨fun undone => Decidable.byContradiction fun noReset => ?_, boot_after_reset⟩
  have stays : x.after.boot = x.before.boot := by
    cases completes : x.message? with
    | none => exact boot_after completes noReset
    | some message =>
      rw [after_of_message completes]
      refine (Target.completeMessage_unread (fun boots => ?_) message.2).1
      exact Bool.false_ne_true (boots.2.symm.trans before)
  rw [stays, before] at undone
  cases undone

/-! ## The mailboxes -/

/-- **A message that the bootloader does not read** leaves the mailboxes to the host. -/
theorem leavesMailboxes (completes : x.message? = some (m, length)) (unread : ¬ x.before.Boots m) :
    x.LeavesMailboxes := by
  obtain ⟨address, value, same, -⟩ := write_of_message completes
  have host : x.after.host = (x.written.dropCredits m).2 := by
    rw [after_of_message completes]
    let t : Target := { x.before with host := x.written }
    exact (t.completeMessage_unread unread length).2.1
  intro n
  rw [host, written_of_write same]
  refine ⟨?_, fun i apart => ?_⟩
  · exact (HostInterface.available_setCredits ..).trans (HostInterface.available_write ..)
  · refine (HostInterface.byte_setCredits ..).trans
      ((HostInterface.byte_write ..).trans (if_neg fun stands => ?_))
    exact apart value ⟨address, same, stands⟩

end Moment

/-! ## What the firmware counts -/

namespace Target

/-- The number of messages that the firmware has counted, if there is one. -/
def counted (t : Target) : Option Nat :=
  t.firmware.map Firmware.unhandled

theorem counted_eq_none_iff {t : Target} : t.counted = none ↔ t.firmware = none :=
  Option.map_eq_none_iff

theorem counted_fire (t : Target) (event : Deferred) : (t.fire event).counted = t.counted := by
  by_cases announcing : event = .alive
  · subst announcing
    show t.announce.counted = _
    unfold announce
    split
    · rfl
    next f loaded =>
      unfold Firmware.announce
      unfold counted
      rw [loaded]
      cases f.announced <;> simp [loaded]
  · exact congrArg (Option.map Firmware.unhandled) (fire_other announcing).1

theorem counted_doneBy (t : Target) (tick : Nat) : (t.doneBy tick).counted = t.counted :=
  apply_drain counted (fun _ _ => rfl) counted_fire t tick

end Target

namespace Moment

variable {x : Moment}

/-- Where no message is completed, only a handover and a reset change what is counted. -/
theorem counted_after_silent (silent : x.message? = none) (noReset : x.happening ≠ .reset) :
    x.after.counted = x.before.counted ∨ x.before.counted = none ∧ x.after.counted = some 0 := by
  cases same : x.happening with
  | reset => exact absurd same noReset
  | write address value =>
    rcases after_of_write same silent with led | ⟨unloaded, led⟩
    · rw [led]
      exact .inl rfl
    · rw [led]
      exact .inr ⟨Target.counted_eq_none_iff.mpr unloaded, rfl⟩
  | advance ticks =>
    rw [after, same]
    exact .inl (Target.counted_doneBy ..)
  | read address | raiseCpu bits | raiseError bits =>
    rw [after, same]
    exact .inl rfl

/-- **The firmware counts** the messages that are for it. -/
theorem counted_after_message {m : MailboxNumber} {length : Nat}
    (completes : x.message? = some (m, length)) :
    x.after.counted = x.before.counted.map (· + if x.isCounted then 1 else 0) := by
  let t : Target := { x.before with host := x.written }
  unfold Target.counted isCounted
  rw [after_of_message completes, completes]
  by_cases boots : t.Boots m
  · have undone : x.before.boot.done = false := boots.2
    rw [(Target.completeMessage_boots boots length).2.1]
    simp [t, undone, Function.comp_def]
  · rw [(Target.completeMessage_unread boots length).2.2]
    by_cases control : m = .control
    · have done : x.before.boot.done = true := by simpa [Target.Boots, t, control] using boots
      rw [if_pos control, Option.map_map, Option.map_map]
      simp [t, control, done, Function.comp_def, Firmware.unhandled_receive]
    · simp [t, control, Function.comp_def]

/-- **One moment of a firmware** that is there before and after it. -/
theorem counted_after {count : Nat} (loaded : x.before.counted = some count)
    (there : x.after.firmware ≠ none) :
    x.after.counted = some (count + if x.isCounted then 1 else 0) := by
  have noReset : x.happening ≠ .reset := fun reset => there (by rw [after, reset]; rfl)
  cases completes : x.message? with
  | none =>
    have uncounted : x.isCounted = false := by
      unfold isCounted
      rw [completes]
    rcases counted_after_silent completes noReset with same | ⟨none, -⟩
    · rw [same, loaded, uncounted]
      rfl
    · rw [none] at loaded
      cases loaded
  | some message => rw [counted_after_message completes, loaded, Option.map_some]

/-- **The moment of a handover** leaves a firmware that has counted nothing. -/
theorem counted_of_handover {count : Nat} (unloaded : x.before.firmware = none)
    (counted : x.after.counted = some count) : count = 0 := by
  have before := Target.counted_eq_none_iff.mpr unloaded
  have noReset : x.happening ≠ .reset := by
    intro reset
    rw [after, reset] at counted
    cases counted
  cases completes : x.message? with
  | none =>
    rcases counted_after_silent completes noReset with same | ⟨-, zero⟩
    · rw [same, before] at counted
      cases counted
    · rw [zero] at counted
      exact (Option.some.inj counted).symm
  | some message =>
    rw [counted_after_message completes, before] at counted
    cases counted

end Moment

/-- **What a firmware has counted** is told by the moments since it has taken over, or since the
beginning if it was there then. -/
theorem Passes.counted {t u : Target} {later : List Moment} (passes : Passes t later u) :
    u.firmware = none ∨
    (∃ earlier first rest, later = earlier ++ first :: rest ∧ first.before.firmware = none ∧
      (∀ x ∈ rest, x.before.firmware ≠ none) ∧
      u.counted = some (rest.countP Moment.isCounted)) ∨
    ∃ count, t.counted = some count ∧ (∀ x ∈ later, x.before.firmware ≠ none) ∧
      u.counted = some (count + later.countP Moment.isCounted) := by
  induction passes with
  | nil t =>
    cases counted : t.counted with
    | none => exact .inl (Target.counted_eq_none_iff.mp counted)
    | some count => exact .inr (.inr ⟨count, rfl, fun _ mem => (nomatch mem), rfl⟩)
  | @cons x rest u _ ih =>
    rcases ih with gone | ⟨earlier, first, later, rfl, counted⟩ | ⟨count, after, loaded, counted⟩
    · exact .inl gone
    · exact .inr (.inl ⟨x :: earlier, first, later, rfl, counted⟩)
    · cases before : x.before.counted with
      | none =>
        have unloaded := Target.counted_eq_none_iff.mp before
        obtain rfl := Moment.counted_of_handover unloaded after
        rw [Nat.zero_add] at counted
        exact .inr (.inl ⟨[], x, rest, rfl, unloaded, loaded, counted⟩)
      | some start =>
        have there : x.before.firmware ≠ none := fun none => by
          rw [Target.counted_eq_none_iff.mpr none] at before
          cases before
        have stays : x.after.firmware ≠ none := fun none => by
          rw [Target.counted_eq_none_iff.mpr none] at after
          cases after
        have step := Moment.counted_after before stays
        rw [after] at step
        refine .inr (.inr ⟨start, rfl, List.forall_mem_cons.mpr ⟨there, loaded⟩, ?_⟩)
        rw [counted, Option.some.inj step, List.countP_cons, Nat.add_assoc,
          Nat.add_comm (rest.countP _)]

namespace Chip

/-- **Every message has one reader.** In every run of a chip the bootloader gets done in the moment in
which the host completes a message in the control mailbox that says so, and at no other time, and stays
done until the next reset. From then on no completed message changes what the mailboxes hold for the
host, but for the bytes that the host itself has written; and a message in another mailbox never
reaches the bootloader or the firmware, nor does it change what the mailboxes hold. What the firmware
has counted are the messages in the control mailbox, long enough to carry a command number, that have
been completed since it has taken over, with the bootloader done by then. -/
theorem messages_routed {config : Config} {chip : Chip} (attached : attach config = .ok chip)
    (ops : List Operation) :
    let t := (chip.run ops).target
    chip.target.boot.done = false ∧
    (∀ x ∈ chip.history ops,
      (x.before.boot.done = false → (x.after.boot.done = true ↔ x.Commands .done)) ∧
      (x.before.boot.done = true → (x.after.boot.done = false ↔ x.happening = .reset)) ∧
      ∀ m length, x.message? = some (m, length) →
        (x.before.boot.done = true → x.LeavesMailboxes) ∧
        (m ≠ .control →
          x.LeavesMailboxes ∧ x.after.boot = x.before.boot ∧
            x.after.firmware = x.before.firmware)) ∧
    (t.firmware = none → t.unhandledCommands = 0) ∧
    (t.firmware ≠ none → ∃ earlier first later, chip.history ops = earlier ++ first :: later ∧
      first.before.firmware = none ∧ (∀ x ∈ later, x.before.firmware ≠ none) ∧
      t.unhandledCommands = later.countP Moment.isCounted) := by
  intro t
  have fresh := fresh_attach attached
  have undone : chip.target.boot.done = false := by
    rw [target_attach attached]
    rfl
  refine ⟨undone, fun x _ => ⟨Moment.done_iff, Moment.undone_iff, fun m length completes =>
    ⟨?_, ?_⟩⟩, ?_, ?_⟩
  · intro done
    exact Moment.leavesMailboxes completes fun boots => Bool.false_ne_true (boots.2.symm.trans done)
  · intro other
    have unread : ¬ x.before.Boots m := fun boots => other boots.1
    obtain ⟨boot, -, firmware⟩ := Target.completeMessage_unread
      (t := { x.before with host := x.written }) unread length
    refine ⟨Moment.leavesMailboxes completes unread, ?_⟩
    rw [Moment.after_of_message completes]
    exact ⟨boot, firmware.trans (if_neg other)⟩
  · intro none
    unfold Target.unhandledCommands
    rw [none]
    rfl
  · intro loaded
    have told : ∀ {count : Nat}, t.counted = some count → t.unhandledCommands = count := by
      intro count counted
      obtain ⟨f, there, same⟩ := Option.map_eq_some_iff.mp counted
      unfold Target.unhandledCommands
      rw [there]
      exact same
    rcases (passes_run ops chip).counted with none | ⟨earlier, first, later, split, unloaded, stays,
      counted⟩ | ⟨count, counted, -, -⟩
    · exact absurd none loaded
    · exact ⟨earlier, first, later, split, unloaded, stays, told counted⟩
    · rw [Target.counted_eq_none_iff.mpr fresh.unloaded] at counted
      cases counted

/-- The host selects a card, and writes the four bytes that tell the bootloader that it is done. -/
def finishing : List Operation :=
  [.command 5 0x10fe0000, .command 3 0, .command 7 0x45670000, .command 52 0x901ff801,
    .command 52 0x901ffa00, .command 52 0x901ffc00, .command 52 0x901ffe00]

theorem messages_routed_finishing :
    attach {} = .ok (assemble {}).reset ∧
      ∃ last ∈ (assemble {}).reset.history finishing,
        last.message? = some (.control, 4) ∧ last.before.boot.done = false ∧
          last.after.boot.done = true := by
  have attached : attach {} = .ok (assemble {}).reset := rfl
  let t := (assemble {}).reset.target
  let last : Moment :=
    ⟨t.undergone [.write 0xffc 1, .write 0xffd 0, .write 0xffe 0], .write 0xfff 0⟩
  have course : (assemble {}).reset.course finishing =
      [.write 0xffc 1, .write 0xffd 0, .write 0xffe 0, .write 0xfff 0] := by
    decide +kernel
  have mem : last ∈ (assemble {}).reset.history finishing := by
    unfold history
    rw [course]
    simp [Target.history, Target.undergone, last, t]
  have told : last.message? = some (.control, 4) := by decide +kernel
  have commands : last.Commands .done := ⟨4, told, by decide +kernel⟩
  have before : last.before.boot.done = false := by decide +kernel
  obtain ⟨-, each, -⟩ := messages_routed attached finishing
  exact ⟨attached, last, mem, told, before, ((each last mem).1 before).mpr commands⟩

end Chip

end WlanCard
