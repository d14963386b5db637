import WlanCard.Proofs.Card.Writers
import WlanCard.Proofs.Chip.Isolation
import WlanCard.Proofs.Chip.Routing

/-!
# Mailboxes as memory

A byte of a mailbox is the one that the host has written there last, whatever else has happened since.
The target writes to the end of the control mailbox alone (`Moment.Overwrites`): the bootloader answers
the question for the target's identity there (`Moment.byte_after_of_asked`), and the firmware announces
itself.

`Moment.byte_after` is the step, and `Passes.byte` follows a byte through any number of moments: it is
the last value written, or the target has overwritten it, and nobody has written it since.
-/

namespace WlanCard

/-! ## Values written -/

/-- The value that a happening writes to a register, if it does. -/
def Happening.value? (r : HostRegister) : Happening → Option UInt8
  | .write address value => if address.toNat = r.address then some value else none
  | _ => none

/-- The last value that a course writes to a register, or `initial` if it writes none. -/
def lastWritten (r : HostRegister) (initial : UInt8) (course : List Happening) : UInt8 :=
  (course.filterMap (·.value? r)).getLastD initial

variable {r : HostRegister} {initial : UInt8} {h : Happening} {course : List Happening}

theorem lastWritten_cons (r : HostRegister) (initial : UInt8) (h : Happening)
    (course : List Happening) :
    lastWritten r initial (h :: course) = lastWritten r ((h.value? r).getD initial) course := by
  unfold lastWritten
  cases written : h.value? r with
  | none => rw [List.filterMap_cons_none written, Option.getD_none]
  | some value => rw [List.filterMap_cons_some written, List.getLastD_cons, Option.getD_some]

/-- What was there before the last value does not matter. -/
theorem lastWritten_of_written (other : UInt8) (written : ∃ h ∈ course, h.value? r ≠ none) :
    lastWritten r initial course = lastWritten r other course := by
  obtain ⟨h, mem, some⟩ := written
  obtain ⟨value, this⟩ := Option.ne_none_iff_exists'.mp some
  have mem := List.mem_filterMap.mpr ⟨h, mem, this⟩
  unfold lastWritten
  cases values : course.filterMap (·.value? r) with
  | nil =>
    rw [values] at mem
    cases mem
  | cons first rest => rw [List.getLastD_cons, List.getLastD_cons]

/-- Only an access that writes is a write for the target. -/
theorem Access.isWrite_of_happening {access : Access} {address : UInt32} {value : UInt8}
    (mem : .write address value ∈ access.happenings) : access.isWrite = true := by
  cases access with
  | write f address bytes how => rfl
  | reset => cases List.mem_singleton.mp mem
  | read f address length how =>
    obtain ⟨_, other⟩ := Happening.mem_reads mem
    cases other
  | readStorage f address | writeStorage f address value => cases mem

/-! ## The target's own writes -/

namespace IdentityForm

/-- Where the identity begins at the end of a window: it takes four bytes, or sixteen. -/
def start : IdentityForm → Nat
  | .legacy => 2044
  | .extended => 2032

theorem le_start (form : IdentityForm) : 2032 ≤ form.start := by
  cases form <;> decide

end IdentityForm

theorem Bootloader.start_add_length_identity (form : IdentityForm) :
    form.start + (identity form).length = 2048 := by
  cases form <;> decide

namespace Firmware

/-- Where the frame of the ready event begins at the end of a window. -/
def readyStart : Nat := 2037

/-- The ready event is nine bytes long, and eleven in a frame. -/
theorem start_add_length_readyMessage (f : Firmware) :
    readyStart + (HostInterface.frameHeaderLength + f.readyMessage.length) = 2048 := by
  have payload : (f.station.toList ++ [f.capability]).length = 7 := by
    rw [List.length_append, Vector.length_toList]
    rfl
  unfold readyMessage FirmwareEvent.message
  rw [List.length_append, Word.length_littleEndian, List.length_take, payload]
  decide

end Firmware

namespace Target

variable {t : Target} {m : MailboxNumber} {i : Fin 2048} {limit : Nat}

/-- Work that sends nothing leaves the bytes of the mailboxes alone, and so does any for a byte in front
of the frame of the ready event. -/
theorem byte_fire (event : Deferred)
    (spared : m = .control → Firing.messages ⟨event, t⟩ = [] ∨ i.val < Firmware.readyStart) :
    (t.fire event).host.byte m i = t.host.byte m i := by
  cases event with
  | counterUpdate => rfl
  | creditGrant n =>
    show (t.settleCredits _).host.byte m i = _
    rw [settleCredits_eq]
    exact HostInterface.byte_setCredits ..
  | alive =>
    show t.announce.host.byte m i = _
    have fired : Firing.done ⟨.alive, t⟩ = t.announce := rfl
    unfold Firing.messages at spared
    rw [fired] at spared
    unfold announce at spared ⊢
    cases loaded : t.firmware with
    | none => rfl
    | some f =>
      rw [loaded] at spared
      cases announced : f.announced with
      | true =>
        have silent : f.announce = (none, f) := if_pos announced
        dsimp only
        rw [silent]
      | false =>
        have told : f.announce = (some f.readyMessage, { f with announced := true }) :=
          if_neg (by rw [announced]; exact Bool.false_ne_true)
        dsimp only at spared ⊢
        rw [told] at spared ⊢
        refine HostInterface.byte_deliver _ _ _ fun here => ?_
        rcases spared here with silent | front
        · simp at silent
        · have whole := f.start_add_length_readyMessage
          omega

theorem byte_drain
    (spared : m = .control →
      (t.drain limit).1.flatMap Firing.messages = [] ∨ i.val < Firmware.readyStart) :
    (t.drain limit).2.host.byte m i = t.host.byte m i := by
  induction t using drain.induct limit with
  | case1 t u popped =>
    rw [drain_of_none popped]
    exact congrArg (HostInterface.byte · m i) (popDue_host popped)
  | case2 t event u popped ih =>
    rw [drain_of_some popped] at spared ⊢
    simp only [List.flatMap_cons, List.append_eq_nil_iff] at spared
    have later := ih fun here => (spared here).imp_left And.right
    have first := byte_fire (t := u) event fun here => (spared here).imp_left And.left
    exact later.trans (first.trans (congrArg (HostInterface.byte · m i) (popDue_host popped)))

/-- What the bootloader leaves in the window of the control mailbox stands there. -/
theorem byte_completeMessage_boots {n : MailboxNumber} (boots : t.Boots n) (length : Nat) :
    (t.completeMessage n length).host.byte m i =
      if m = .control then
        (t.boot.handle (t.host.mailbox .control).window length).window.get i
      else t.host.byte m i := by
  have placed (w : Window) :
      ((t.host.dropCredits .control).2.setWindow .control w).byte m i =
        if m = .control then w.get i else t.host.byte m i := by
    rw [HostInterface.byte_setWindow]
    split
    · rfl
    · exact HostInterface.byte_setCredits ..
  rw [(completeMessage_boots boots length).2.2, ← placed]
  split
  · exact HostInterface.byte_setAvailable ..
  · rfl

/-- A message leaves the bytes of the mailboxes alone, but where the identity is told. -/
theorem byte_completeMessage (t : Target) (n : MailboxNumber) (length : Nat)
    (spared : m = .control → t.Boots n →
      Bootloader.Commands .getTargetId (t.host.mailbox .control).window length →
      i.val < t.boot.form.start) :
    (t.completeMessage n length).host.byte m i = t.host.byte m i := by
  by_cases boots : t.Boots n
  · rw [byte_completeMessage_boots boots]
    by_cases here : m = .control
    · subst here
      rw [if_pos rfl, Bootloader.handle_window]
      split
      next told =>
        refine Window.get_placeAtEnd _ ?_
        have front := spared rfl boots told
        have whole := Bootloader.start_add_length_identity t.boot.form
        omega
      · rfl
    · rw [if_neg here]
  · rw [(completeMessage_unread boots length).2.1]
    exact HostInterface.byte_setCredits ..

end Target

/-! ## Moments -/

namespace Moment

variable {x : Moment} {m : MailboxNumber} {i : Fin 2048}

/-- The target writes to a byte of the control mailbox in a moment: the bootloader tells the identity
there, or the firmware that it is ready. -/
def Overwrites (x : Moment) (i : Fin 2048) : Prop :=
  (x.before.boot.done = false ∧ x.Commands .getTargetId ∧ x.before.boot.form.start ≤ i.val) ∨
    (x.messages ≠ [] ∧ Firmware.readyStart ≤ i.val)

/-- What the host writes in a moment. -/
theorem byte_written (x : Moment) (m : MailboxNumber) (i : Fin 2048) :
    x.written.byte m i = (x.happening.value? (.mailbox m i)).getD (x.before.host.byte m i) := by
  cases same : x.happening with
  | write address value =>
    rw [written_of_write same, HostInterface.byte_write]
    show _ = (if address.toNat = _ then some value else none).getD _
    by_cases stands : address.toNat = (HostRegister.mailbox m i).address
    · rw [if_pos stands, if_pos stands, Option.getD_some]
    · rw [if_neg stands, if_neg stands, Option.getD_none]
  | reset | read address | raiseCpu bits | raiseError bits | advance ticks =>
    unfold written
    rw [same]
    rfl

/-- **One moment**: a byte holds what the host has written in it, or what it held before, unless the
target writes to it. -/
theorem byte_after (spared : m = .control → ¬ x.Overwrites i) :
    x.after.host.byte m i =
      (x.happening.value? (.mailbox m i)).getD (x.before.host.byte m i) := by
  rw [← byte_written]
  cases completes : x.message? with
  | some message =>
    rw [after_of_message completes]
    refine Target.byte_completeMessage (t := { x.before with host := x.written }) _ _ ?_
    rintro here ⟨control, undone⟩ told
    refine Nat.lt_of_not_le fun behind => spared here (.inl ⟨undone, ⟨message.2, ?_, told⟩, behind⟩)
    rw [completes, ← control]
  | none =>
    cases same : x.happening with
    | write address value =>
      rcases after_of_write same completes with led | ⟨-, led⟩ <;> rw [led]
      rfl
    | advance ticks =>
      unfold written after
      rw [same]
      refine Target.byte_drain fun here => ?_
      rw [or_iff_not_imp_left]
      intro sends
      refine Nat.lt_of_not_le fun behind => spared here (.inr ⟨?_, behind⟩)
      unfold messages firings
      rw [same]
      exact sends
    | reset =>
      unfold written after
      rw [same]
      exact HostInterface.byte_reset ..
    | read address =>
      unfold written after
      rw [same]
      exact HostInterface.byte_read ..
    | raiseCpu bits | raiseError bits =>
      unfold written after
      rw [same]
      rfl

/-- **The identity** stands at the end of the control mailbox once the bootloader has been asked for
it. -/
theorem byte_after_of_asked (undone : x.before.boot.done = false) (asked : x.Commands .getTargetId)
    (behind : x.before.boot.form.start ≤ i.val) :
    x.after.host.byte .control i =
      (Bootloader.identity x.before.boot.form).getD (i.val - x.before.boot.form.start) 0 := by
  obtain ⟨length, completes, told⟩ := asked
  have whole := Bootloader.start_add_length_identity x.before.boot.form
  have inside : (Bootloader.identity x.before.boot.form).length ≤ 2048 := by omega
  have start : 2048 - (Bootloader.identity x.before.boot.form).length =
      x.before.boot.form.start := by
    omega
  have boots : Target.Boots { x.before with host := x.written } .control := ⟨rfl, undone⟩
  rw [after_of_message completes, Target.byte_completeMessage_boots boots, if_pos rfl,
    Bootloader.handle_window, if_pos told, ← start]
  exact Window.get_placeAtEnd_of_le _ inside (start ▸ behind)

end Moment

/-- **A byte of a mailbox** holds what was written there last, or the target has written to it
since. -/
theorem Passes.byte {t u : Target} {later : List Moment} (passes : Passes t later u)
    (m : MailboxNumber) (i : Fin 2048) :
    u.host.byte m i =
        lastWritten (.mailbox m i) (t.host.byte m i) (later.map (·.happening)) ∨
      m = .control ∧ ∃ earlier x rest, later = earlier ++ x :: rest ∧ x.Overwrites i ∧
        ∀ y ∈ rest, y.happening.value? (.mailbox m i) = none := by
  induction passes with
  | nil t => exact .inl rfl
  | @cons x rest u _ ih =>
    rcases ih with same | ⟨here, earlier, y, later, rfl, split⟩
    · rw [List.map_cons, lastWritten_cons]
      by_cases overwritten : m = .control ∧ x.Overwrites i
      · by_cases silent : ∀ y ∈ rest, y.happening.value? (.mailbox m i) = none
        · exact .inr ⟨overwritten.1, [], x, rest, rfl, overwritten.2, silent⟩
        · refine .inl (same.trans (lastWritten_of_written _ ?_))
          simpa using silent
      · rw [same, Moment.byte_after fun here both => overwritten ⟨here, both⟩]
        exact .inl rfl
    · exact .inr ⟨here, x :: earlier, y, later, rfl, split⟩

namespace Chip

variable {config : Config} {chip : Chip} {m : MailboxNumber} {i : Fin 2048}

/-- A direct access writes to the target, and a byte that completes a block of data. -/
theorem writer_of_happening {op : Operation} {address : UInt32} {value : UInt8}
    (mem : .write address value ∈ chip.happenings op) :
    (∃ argument, op = .command 52 argument) ∨ ∃ byte, op = .writeData byte := by
  have exchanged : ∀ {cardOp : Card.Operation}, .write address value ∈ chip.accessed cardOp →
      (∃ argument, cardOp = .command 52 argument) ∨ ∃ byte, cardOp = .writeData byte := by
    intro cardOp mem
    obtain ⟨exchange, exchanged, mem⟩ := List.mem_flatMap.mp mem
    exact Attached.writer_of_exchange Target.functions cardOp exchanged
      (Access.isWrite_of_happening mem)
  cases op with
  | command number argument =>
    rcases exchanged mem with ⟨other, same⟩ | ⟨_, same⟩
    · cases same
      exact .inl ⟨argument, rfl⟩
    · cases same
  | writeData byte => exact .inr ⟨byte, rfl⟩
  | readData => rcases exchanged mem with ⟨_, same⟩ | ⟨_, same⟩ <;> cases same
  | reset => rcases exchanged mem with ⟨_, same⟩ | ⟨_, same⟩ <;> cases same
  | raiseCpu bits | raiseError bits | advance ticks => cases List.mem_singleton.mp mem

/-- **What is written** to the target of a chip in a run is delivered by a direct access, or with the
byte that completes a block of data. -/
theorem writer_of_course {ops : List Operation} {address : UInt32} {value : UInt8}
    (mem : .write address value ∈ chip.course ops) :
    ∃ earlier op later, ops = earlier ++ op :: later ∧
      .write address value ∈ (chip.run earlier).happenings op ∧
      ((∃ argument, op = .command 52 argument) ∨ ∃ byte, op = .writeData byte) := by
  induction ops generalizing chip with
  | nil => cases mem
  | cons op ops ih =>
    rcases List.mem_append.mp mem with mem | mem
    · exact ⟨[], op, ops, rfl, mem, writer_of_happening mem⟩
    · obtain ⟨earlier, other, later, rfl, found⟩ := ih mem
      exact ⟨op :: earlier, other, later, rfl, found⟩

/-- **A byte that is not the last one written** is in the control mailbox, and the target has written it:
the bootloader, when it was asked for the identity, or the firmware, when it announced itself. -/
theorem overwritten_of_ne (attached : attach config = .ok chip) (ops : List Operation)
    (differs : (chip.run ops).target.host.byte m i ≠
      lastWritten (.mailbox m i) 0 (chip.course ops)) :
    m = .control ∧ ∃ earlier x later, chip.history ops = earlier ++ x :: later ∧
      (∀ y ∈ later, y.happening.value? (.mailbox m i) = none) ∧
      (x.before.boot.done = false ∧ x.Commands .getTargetId ∧ config.identity.start ≤ i.val ∨
        (∃ tick, (tick, config.readyFrame) ∈ x.messages) ∧ Firmware.readyStart ≤ i.val) := by
  have fresh := fresh_attach attached
  have zero : chip.target.host.byte m i = 0 := by
    rw [target_attach attached]
    exact (HostInterface.byte_reset ..).trans (HostInterface.byte_powerOn ..)
  have form : chip.target.boot.form = config.identity := by
    rw [target_attach attached]
    rfl
  have passes := passes_run ops chip
  have each := (passes.keeps
    (fun t => t.Sound config ∧ t.Announcing config ∧ t.boot.form = config.identity)
    (fun x _ ⟨sound, announcing, form⟩ =>
      ⟨sound.undergo x.happening, (x.announcing sound announcing).1,
        (x.before.undergo_form x.happening).trans form⟩)
    ⟨fresh.toSound, fresh.announcing, form⟩).2
  have told := passes.byte m i
  rw [zero, history, map_happening_history, ← history] at told
  obtain ⟨here, earlier, x, later, split, overwrites, silent⟩ := told.resolve_left differs
  obtain ⟨sound, announcing, form⟩ := each x (by simp [split])
  refine ⟨here, earlier, x, later, split, silent, ?_⟩
  rcases overwrites with ⟨undone, asked, behind⟩ | ⟨sends, behind⟩
  · exact .inl ⟨undone, asked, form ▸ behind⟩
  · have frames := (x.announcing sound announcing).2.1
    obtain ⟨tick, ticks⟩ := List.exists_mem_of_ne_nil (x.ticksOf .alive) fun none =>
      sends (by rw [frames, none]; rfl)
    refine .inr ⟨⟨tick, ?_⟩, behind⟩
    rw [frames]
    exact List.mem_map_of_mem ticks

/-- **The mailboxes hold what the host has written.** After every run of a chip, a byte of a mailbox
is the last one that the host has written there, or zero if it has written none, whatever else has
been done; but for the last sixteen bytes of the control mailbox. One of these is another only if the
target has written there since: the bootloader, before it was done, when it was asked for the target's
identity, or the firmware when it announced itself. What the host writes it writes by direct accesses
and blocks of data. -/
theorem mailboxes_hold_writes (attached : attach config = .ok chip) (ops : List Operation)
    (m : MailboxNumber) (i : Fin 2048) :
    let byte := (chip.run ops).target.host.byte m i
    let last := lastWritten (.mailbox m i) 0 (chip.course ops)
    (m ≠ .control ∨ i.val < 0x7f0 → byte = last) ∧
    (byte ≠ last → m = .control ∧ ∃ earlier x later, chip.history ops = earlier ++ x :: later ∧
      (∀ y ∈ later, y.happening.value? (.mailbox m i) = none) ∧
      (x.before.boot.done = false ∧ x.Commands .getTargetId ∧ config.identity.start ≤ i.val ∨
        (∃ tick, (tick, config.readyFrame) ∈ x.messages) ∧ Firmware.readyStart ≤ i.val)) ∧
    ∀ address value, .write address value ∈ chip.course ops →
      ∃ earlier op later, ops = earlier ++ op :: later ∧
        .write address value ∈ (chip.run earlier).happenings op ∧
        ((∃ argument, op = .command 52 argument) ∨ ∃ byte, op = .writeData byte) := by
  intro byte last
  refine ⟨fun front => Decidable.byContradiction fun differs => ?_, overwritten_of_ne attached ops,
    fun _ _ => writer_of_course⟩
  obtain ⟨here, -, x, -, -, -, overwrites⟩ := overwritten_of_ne attached ops differs
  have front := front.resolve_left fun other => other here
  have start := config.identity.le_start
  unfold Firmware.readyStart at overwrites
  omega

/-- The host writes a byte in another mailbox, asks the bootloader for the target's identity, and resets
the card. -/
def asking : List Operation :=
  [.command 5 0x10fe0000, .command 3 0, .command 7 0x45670000, .command 52 0x9020005a,
    .command 52 0x901ff808, .command 52 0x901ffa00, .command 52 0x901ffc00, .command 52 0x901ffe00,
    .reset]

theorem mailboxes_hold_writes_asking :
    let t := ((assemble {}).reset.run asking).target
    attach {} = .ok (assemble {}).reset ∧ t.host.byte 1 0 = 0x5a ∧
      t.host.byte .control 2044 = 0x44 ∧
      ∃ x ∈ (assemble {}).reset.history asking,
        x.before.boot.done = false ∧ x.Commands .getTargetId ∨
          ∃ tick, (tick, ({} : Config).readyFrame) ∈ x.messages := by
  intro t
  have attached : attach {} = .ok (assemble {}).reset := rfl
  let question : List Happening :=
    [.write 0x1000 0x5a, .write 0xffc 8, .write 0xffd 0, .write 0xffe 0]
  have course : (assemble {}).reset.course asking = question ++ [.write 0xfff 0, .reset] := by
    decide +kernel
  let last : Moment := ⟨(assemble {}).reset.target.undergone question, .write 0xfff 0⟩
  have asked : last.Commands .getTargetId := ⟨4, by decide +kernel, by decide +kernel⟩
  have form : last.before.boot.form = .legacy := by decide +kernel
  have told : t.host.byte .control 2044 = 0x44 := by
    have after : t = last.after.reset := by
      rw [show t = _ from target_run .., course, Target.undergone_append]
      rfl
    rw [after]
    refine (HostInterface.byte_reset ..).trans ?_
    rw [Moment.byte_after_of_asked (by decide +kernel) asked (by rw [form]; decide), form]
    decide
  have spared := (mailboxes_hold_writes attached asking 1 0).1 (.inl (by decide))
  have differs := (mailboxes_hold_writes attached asking .control 2044).2.1
  rw [course] at spared differs
  have written :
      lastWritten (.mailbox .control 2044) 0 (question ++ [.write 0xfff 0, .reset]) = 8 := by
    decide
  obtain ⟨-, earlier, x, later, split, -, overwrites⟩ :=
    differs (by rw [show _ = _ from told, written]; decide)
  exact ⟨attached, spared.trans (by decide), told, x, by simp [split],
    overwrites.imp (fun told => ⟨told.1, told.2.1⟩) And.left⟩

end Chip

end WlanCard
