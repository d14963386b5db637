import WlanCard.Proofs.Card.Bookkeeping
import WlanCard.Proofs.Card.IdleCommand
import WlanCard.Proofs.Card.Reports

/-!
# Opening a transfer

An extended command on a selected card opens the transfer that its argument asks for, or it opens
nothing and leaves the card as it was. Which of the two it does, what transfer that is and what the
host is told depends on the fields of the argument, which are digits of it as a number
(`extendedArgument_eq`), on the number of functions and on the block length that the registers hold
(`command_extended_eq`).

A card on which no transfer runs ignores data: its bytes are lost, and everything else goes on as if
they had not come (`Attached.IgnoresData`). That lasts until a command opens a transfer
(`ignoresData_of_idle`).
-/

namespace WlanCard

/-! ## The request of an argument -/

/-- The transfer that a number asks for as an argument, its fields side by side. -/
def ExtendedRequest.ofWord (n : Nat) : ExtendedRequest where
  function := ⟨n / 2 ^ 28 % 8, Nat.mod_lt _ (by decide)⟩
  direction := if n / 2 ^ 31 % 2 = 1 then .write else .read
  addressing := if n / 2 ^ 26 % 2 = 1 then .incrementing else .fixed
  address := UInt32.ofNat (n / 2 ^ 9 % 2 ^ 17)
  blockMode := n / 2 ^ 27 % 2 = 1
  count := n % 2 ^ 9

/-- A field of one bit is set if its digit is one. -/
theorem ArgumentField.isSet_eq (field : ArgumentField) (argument : UInt32) (shift : Nat)
    (placed : field.shift.toNat % 32 = shift) (single : field.mask.toNat = 2 ^ 1 - 1) :
    field.isSet argument = decide (argument.toNat / 2 ^ shift % 2 = 1) := by
  have digit := field.toNat_get argument shift 1 placed single
  rw [Nat.pow_one] at digit
  apply isSet_of_digit
  rw [digit]
  rcases Nat.mod_two_eq_zero_or_one (argument.toNat / 2 ^ shift) with zero | one
  · rw [zero]
    rfl
  · rw [one]
    rfl

/-- **The fields of an extended command** are digits of its argument. -/
theorem Command.extendedArgument_eq (argument : UInt32) :
    extendedArgument argument = .ofWord argument.toNat := by
  have function : functionArgument argument = ⟨argument.toNat / 2 ^ 28 % 8, Nat.mod_lt _ (by decide)⟩ :=
    functionArgument_of_digit rfl
  have address : ArgumentField.address.get argument =
      UInt32.ofNat (argument.toNat / 2 ^ 9 % 2 ^ 17) := by
    rw [← ArgumentField.address.toNat_get argument 9 17 rfl rfl]
    exact (UInt32.ofNat_toNat).symm
  have count : (ArgumentField.count.get argument).toNat = argument.toNat % 2 ^ 9 := by
    rw [ArgumentField.count.toNat_get argument 0 9 rfl rfl, Nat.pow_zero, Nat.div_one]
  unfold extendedArgument ExtendedRequest.ofWord
  rw [function, address, count, ArgumentField.write.isSet_eq argument 31 rfl rfl,
    ArgumentField.blockMode.isSet_eq argument 27 rfl rfl,
    ArgumentField.incrementing.isSet_eq argument 26 rfl rfl]
  simp only [decide_eq_true_eq]

/-- The number of functions is a digit of the operating conditions. -/
theorem Card.functionCountOf_val (conditions : UInt32) :
    (functionCountOf conditions).val = conditions.toNat / 2 ^ 28 % 8 := by
  show (conditions >>> 28).toUInt8.toNat % 8 = _
  rw [UInt32.toNat_toUInt8, UInt32.toNat_shiftRight, Nat.shiftRight_eq_div_pow]
  have shift : (28 : UInt32).toNat % 32 = 28 := rfl
  rw [shift]
  omega

/-! ## What an extended command does -/

namespace Card

/-- Whether a transfer is opened, in terms of the block mode. -/
theorem opens_iff (c : Card) (q : ExtendedRequest) :
    c.Opens q ↔ q.function ≤ c.functionCount ∧
      (q.blockMode = false ∨
        1 ≤ c.area.blockLength q.function ∧ c.area.blockLength q.function ≤ 2048) := by
  unfold Opens blockLengthFor Transfer.maxBlockLength
  cases q.blockMode with
  | false => simp
  | true => simp

/-- Where no transfer is opened, the function is missing or its block length is unusable. -/
theorem openTransfer_of_not_opens {c : Card} {q : ExtendedRequest} (closed : ¬ c.Opens q) :
    c.openTransfer q =
      if c.functionCount < q.function then
        (.r5, { c with directData := 0, status := c.status.raise Status.Flag.addressError.mask })
      else (.r1, { c with directData := 0 }) := by
  let noted : Card := { c with directData := 0 }
  unfold openTransfer
  by_cases missing : c.functionCount < q.function
  · rw [if_pos missing]
    exact if_pos missing
  · have length : noted.transferBlockLength? q = none := by
      rw [transferBlockLength_eq]
      exact if_neg fun usable => closed ⟨Fin.not_lt.mp missing, usable⟩
    rw [if_neg missing]
    refine (if_neg missing).trans ?_
    rw [length]

end Card

/-- The response to a register access tells the phase, and whether a function was missing. -/
theorem Response.expected_r5 {c : Card} {missing : Bool} {flags : UInt8} (phase : Phase)
    (standing : c.phase = phase)
    (told : phase.code <<< 4 ||| (if missing then 2 else 0) = flags) (data : UInt8) :
    Response.expected c missing data .r5 = [0x00, 0x00, flags, data] := by
  rw [← told, ← standing]
  rfl

namespace Attached

variable {σ : Type} {a : Attached σ}

/-- The card that an extended command finds. -/
theorem prepare_extended (regular : a.card.Regular) (q : ExtendedRequest) :
    a.prepare Card.extendedNumber (.extended q) =
      { a with card := { a.card with status := .powerOn, activeCommand := 53 } } :=
  congrArg (fun status => ({ a with
    card := { a.card with status := status, activeCommand := 53 } } : Attached σ))
    regular.clear_status

/-- **An extended command** opens the transfer that its argument asks for, or it leaves the card as it
was. The status and the number of the last command are noted either way. -/
theorem command_extended_eq (fs : Functions σ) (argument : UInt32)
    (idle : a.card.phase = .command) (regular : a.card.Regular) :
    let q := Command.extendedArgument argument
    let left : Card := { a.card with status := .powerOn, activeCommand := 53, directData := 0 }
    a.command fs Card.extendedNumber argument =
      if a.card.Opens q then
        (⟨.r5, [0x00, 0x00, 0x20, 0x00]⟩,
          { a with
            card :=
              { left with
                phase := .transfer
                area := { left.area with functionSelect := q.function }
                transfer := some (Card.transferFor q (a.card.blockLengthFor q)) } })
      else
        (if a.card.functionCount < q.function then ⟨.r5, [0x00, 0x00, 0x12, 0x00]⟩
          else ⟨.r1, [0x00, 0x00, 0x1e, 0x00]⟩,
          { a with card := left }) := by
  intro q left
  have native : a.card.mode = .native := regular.native (.inl idle)
  let found : Card := { a.card with status := .powerOn, activeCommand := 53 }
  have executed : a.execute fs Card.extendedNumber argument =
      ((found.openTransfer q).1, { a with card := (found.openTransfer q).2 }) := by
    rw [execute_extended fs argument idle]
    dsimp only
    rw [prepare_extended regular]
  by_cases opens : a.card.Opens q
  · have opened : found.openTransfer q = _ := Card.openTransfer_of_opens (by exact opens)
    rw [opened] at executed
    rw [if_pos opens, command_of_executed false executed regular.status rfl fun _ => native]
    dsimp only
    rw [Response.expected_r5 .transfer rfl rfl]
    rfl
  · have closed : found.openTransfer q = _ := Card.openTransfer_of_not_opens (by exact opens)
    rw [if_neg opens]
    by_cases missing : a.card.functionCount < q.function
    · rw [closed, if_pos (by exact missing)] at executed
      rw [if_pos missing, command_of_executed true executed regular.status rfl fun _ => native]
      dsimp only
      rw [Response.expected_r5 .command ?_ rfl]
      · rfl
      · exact idle
    · rw [closed, if_neg (by exact missing)] at executed
      rw [if_neg missing, command_of_executed false executed regular.status rfl nofun]
      rfl

end Attached

/-! ## Cards without a transfer -/

/-- A turn opens a transfer. -/
def Turn.Opens {σ : Type} (t : Turn σ) : Prop :=
  ∃ argument, t.operation = .command Card.extendedNumber argument ∧ t.found.card.phase = .command ∧
    t.found.card.Opens (Command.extendedArgument argument)

namespace Attached

open Card

variable {σ : Type}

/-- A card ignores data: the bytes of data among operations are lost, and everything else goes on as
if they had not come. -/
structure IgnoresData (fs : Functions σ) (ops : List Operation) (a : Attached σ) : Prop where
  lost : ∀ event ∈ a.trace fs ops, event.operation.isData → event.Lost
  trace : Event.withoutData (a.trace fs ops) = a.trace fs (Operation.withoutData ops)
  run : a.run fs ops = a.run fs (Operation.withoutData ops)

variable {fs : Functions σ} {a : Attached σ}

/-- Data does nothing to a card without a transfer. -/
theorem perform_data_idle (fs : Functions σ) (idle : a.card.phase ≠ .transfer) {op : Operation}
    (data : op.isData = true) : (a.event fs op).Lost ∧ (a.perform fs op).2 = a := by
  cases op with
  | writeData value =>
    have watched := writeData_idle fs.observed value (a := a.watched) idle
    exact ⟨⟨exchanges_writeData_lost fs value watched, .inl rfl⟩, writeData_idle fs value idle⟩
  | readData =>
    have kept := readData_idle fs idle
    have watched := readData_idle fs.observed (a := a.watched) idle
    refine ⟨⟨exchanges_readData_lost fs watched, .inr ?_⟩, congrArg Prod.snd kept⟩
    exact congrArg (Answer.byte ·.1) kept
  | command _ _ | setFunctionIrq _ _ | setHandler _ _ | reset => cases data

/-- **No other turn** than one that opens a transfer starts one. -/
theorem perform_idle (fs : Functions σ) {op : Operation} (idle : a.card.phase ≠ .transfer)
    (closed : ¬ Turn.Opens ⟨a, op⟩) : (a.perform fs op).2.card.phase ≠ .transfer := by
  intro started
  rcases perform_moves fs op a with ⟨-, restarted⟩ | ⟨-, moves⟩
  · have phase : (a.perform fs op).2.card.phase = .initialization :=
      congrArg Standing.phase restarted
    cases started.symm.trans phase
  · change (a.perform fs op).2.card.standing.phase = .transfer at started
    generalize after : (a.perform fs op).2.card.standing = s at moves
    rw [after] at started
    cases moves with
    | lasts lasts =>
      rcases lasts with rfl | ⟨running, -⟩
      · exact idle started
      · exact idle running
    | agrees legal some => exact idle started
    | publishes | selects | deselects | deactivates => cases started
    | opens legal =>
      have opened : (a.command fs extendedNumber _).2.card.phase = .transfer :=
        congrArg Standing.phase after
      exact closed ⟨_, rfl, legal, (command_extended_opens_iff fs _ legal).mp opened⟩

/-- **Without a transfer** a card ignores data, until a turn opens one. -/
theorem ignoresData_of_idle (fs : Functions σ) {ops : List Operation}
    (closed : ∀ t ∈ a.history fs ops, ¬ t.Opens) (idle : a.card.phase ≠ .transfer) :
    a.IgnoresData fs ops := by
  induction ops generalizing a with
  | nil => exact ⟨nofun, rfl, rfl⟩
  | cons op ops ih =>
    have here : ¬ Turn.Opens ⟨a, op⟩ := closed _ List.mem_cons_self
    have later : ∀ t ∈ (a.perform fs op).2.history fs ops, ¬ t.Opens :=
      fun t mem => closed t (List.mem_cons_of_mem _ mem)
    have rest := ih later (perform_idle fs idle here)
    refine ⟨?_, ?_, ?_⟩
    · intro event mem data
      rcases List.mem_cons.mp mem with rfl | mem
      · exact (perform_data_idle fs idle data).1
      · exact rest.lost event mem data
    · rw [Attached.trace, Event.withoutData_cons, Operation.withoutData_cons]
      by_cases data : op.isData = true
      · have kept := (perform_data_idle fs idle data).2
        have trace := rest.trace
        rw [kept] at trace ⊢
        rw [if_pos (by exact data), if_pos data, trace]
      · rw [if_neg (by exact data), if_neg data, Attached.trace, rest.trace]
    · rw [Attached.run, Operation.withoutData_cons]
      by_cases data : op.isData = true
      · have kept := (perform_data_idle fs idle data).2
        have run := rest.run
        rw [kept] at run ⊢
        rw [if_pos data, run]
      · rw [if_neg data, Attached.run, rest.run]

/-- **An extended command opens the transfer that its argument asks for, or it changes nothing.** For
every argument and every card in the command phase: a transfer begins exactly if the card has the
function and its block length, if the transfer goes by blocks, is between 1 and 2048. The transfer then
has the fields of the argument, its digits, starts at its first byte with a buffer of zeros, and its
function is the one selected. Otherwise the card is left with all its registers as it was, the response
tells of a missing function or brings a clean status, and data is ignored until another command opens a
transfer. No function is called either way. -/
theorem extended_opens_or_leaves (fs : Functions σ) (model : CardModel) (s : σ)
    (ops : List Operation) (argument : UInt32) :
    let now := Attached.run fs ops ⟨Card.new model, s⟩
    let done := now.command fs 53 argument
    let q := ExtendedRequest.ofWord argument.toNat
    let length := if q.blockMode then now.card.area.blockLength q.function else 1
    let missing := model.conditions.toNat / 2 ^ 28 % 8 < q.function.val
    let left : Card := { now.card with status := .powerOn, activeCommand := 53, directData := 0 }
    now.card.phase = .command →
      (done.2.card.phase = .transfer ↔
        ¬ missing ∧ (q.blockMode = false ∨
          1 ≤ now.card.area.blockLength q.function ∧ now.card.area.blockLength q.function ≤ 2048)) ∧
      (done.2.card.phase = .transfer →
        done.1 = ⟨.r5, [0x00, 0x00, 0x20, 0x00]⟩ ∧
        done.2.card =
          { left with
            phase := .transfer
            area := { now.card.area with functionSelect := q.function }
            transfer := some {
              function := q.function
              direction := q.direction
              addressing := q.addressing
              blockLength := length
              blocks :=
                if q.count = 0 then if q.blockMode then .infinite else .finite 512
                else .finite q.count
              start := q.address
              offset := 0
              staging := Array.replicate length 0 } }) ∧
      (done.2.card.phase ≠ .transfer →
        done.1 = (if missing then ⟨.r5, [0x00, 0x00, 0x12, 0x00]⟩
          else ⟨.r1, [0x00, 0x00, 0x1e, 0x00]⟩) ∧
        done.2.card = left ∧ left.transfer = none ∧
        ∀ later, (∀ t ∈ done.2.history fs later, ¬ t.Opens) → done.2.IgnoresData fs later) ∧
      now.exchanges fs (.command 53 argument) = [] ∧ done.2.device = now.device := by
  intro now done q length missing left idle
  have asked : Command.extendedArgument argument = q := Command.extendedArgument_eq argument
  have regular : now.card.Regular := (run_reached fs model s ops).regular
  have conditions : now.card.conditions = model.conditions := run_conditions ..
  have few : now.card.functionCount < q.function ↔ missing := by
    rw [Fin.lt_def, functionCount, functionCountOf_val, conditions]
  have opens := now.card.opens_iff q
  rw [← Fin.not_lt, few] at opens
  have eq := command_extended_eq fs argument idle regular
  rw [asked] at eq
  have started : done.2.card.phase = .transfer ↔ now.card.Opens q := by
    rw [← asked]
    exact command_extended_opens_iff fs argument idle
  refine ⟨started.trans opens, fun running => ?_, fun ended => ?_, ?_, ?_⟩
  · have done_eq : done = _ := eq.trans (if_pos (started.mp running))
    rw [done_eq]
    exact ⟨rfl, rfl⟩
  · have done_eq : done = _ := eq.trans (if_neg (mt started.mpr ended))
    have none : left.transfer = none := by
      have kept : now.card.Bookkept := run_bookkept fs ops (new_bookkept model)
      exact kept.transfer_eq_none (by rw [idle]; decide)
    refine ⟨?_, by rw [done_eq], none, fun later closed => ignoresData_of_idle fs closed ended⟩
    rw [done_eq]
    exact if_congr few rfl rfl
  · have device := command_extended_device fs.observed argument (a := now.watched) idle
    exact congrArg Prod.snd device
  · exact command_extended_device fs argument idle

/-- A function whose blocks have no length yet takes bytes, but no blocks. -/
theorem extended_opens_or_leaves_plain :
    let now := Attached.run .numbered selecting ⟨Card.new plainModel, ()⟩
    now.card.phase = .command ∧
      (now.command .numbered 53 0x90000000).1 = ⟨.r5, [0x00, 0x00, 0x20, 0x00]⟩ ∧
      ((now.command .numbered 53 0x90000000).2.card.transfer.map (·.blocks)) = some (.finite 512) ∧
      (now.command .numbered 53 0x98000002).1 = ⟨.r1, [0x00, 0x00, 0x1e, 0x00]⟩ ∧
      (now.command .numbered 53 0x98000002).2.IgnoresData .numbered [.writeData 0xa5, .readData] := by
  intro now
  have idle : now.card.phase = .command := by decide +kernel
  obtain ⟨-, opened, -⟩ :=
    extended_opens_or_leaves .numbered plainModel () selecting 0x90000000 idle
  obtain ⟨-, -, rejected, -⟩ :=
    extended_opens_or_leaves .numbered plainModel () selecting 0x98000002 idle
  obtain ⟨bytes, card⟩ := opened (by decide +kernel)
  obtain ⟨clean, -, -, ignores⟩ := rejected (by decide +kernel)
  refine ⟨idle, bytes, ?_, clean.trans (by decide +kernel), ignores _ ?_⟩
  · rw [card]
    rfl
  · rintro t mem ⟨_, command, -⟩
    simp only [history, List.mem_cons, List.not_mem_nil, or_false] at mem
    rcases mem with rfl | rfl <;> cases command

end Attached

end WlanCard
