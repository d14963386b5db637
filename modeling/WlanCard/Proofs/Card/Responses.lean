import WlanCard.Proofs.Card.Enumeration

/-!
# The status and the responses of every run

The status of a card is one of two values in every run: that of power-on, and the same with the flag of
an illegal command. The second is there exactly if the last command was refused and nothing has reset
the card since (`RejectedLast`). No other error outlives the response that reports it.

So every response is exact. `Response.expected` says what an accepted command is answered, by the kind of
its response; the byte of a direct access is `dataByte`. `responses_exact` puts both together.
-/

namespace WlanCard

/-- The status of a card that has refused its last command. -/
def Status.refused : Status := ⟨0x00401e00⟩

/-- The last command was refused, and the card has not been reset since. -/
def RejectedLast {σ : Type} (fs : Functions σ) (log : List (Turn σ)) : Prop :=
  Since (fun _ t => t.Refuses) (fun t => ¬ t.IsCommand ∧ ¬ t.Resets fs) log

instance {σ : Type} (fs : Functions σ) (t : Turn σ) : Decidable (t.Resets fs) :=
  inferInstanceAs (Decidable (∃ exchange ∈ t.found.exchanges fs t.operation, exchange.access = .reset))

/-! ## What a response should be -/

/-- The bytes of the response to an accepted command, by its kind, from the card that the command
leaves. A register access may have asked for a function that is missing. -/
def Response.expected (c : Card) (missing : Bool) (data : UInt8) : ResponseKind → List UInt8
  | .r0 => []
  | .r1 | .r1b => [0x00, 0x00, 0x1e, 0x00]
  | .r4 =>
    let ready : UInt32 := if c.ready then 0x80000000 else 0
    Word.bigEndian 4 (c.conditions ||| ready).toBitVec
  | .r5 => [0x00, 0x00, c.phase.code <<< 4 ||| (if missing then 2 else 0), data]
  | .r6 => Word.bigEndian 2 c.address.toBitVec ++ [0x00, 0x00]

namespace Attached

variable {σ : Type}

/-- The byte that the response to a register access brings. An extended access brings none. A direct
access brings the byte of its argument, unless it reads one, after what it writes, or its write has
reset the card. -/
def dataByte (fs : Functions σ) (number : UInt8) (argument : UInt32) (a : Attached σ) : UInt8 :=
  let q := Command.directArgument argument
  if number ≠ Card.directNumber then 0
  else if a.card.functionCount < q.function then q.value
  else if Turn.Resets fs ⟨a, .command number argument⟩ then 0
  else if readsBack q then
    (((a.asked q).directWrite fs q).read fs q.function q.address 1 .incrementing).1.headD 0
  else q.value

/-! ## The byte of a direct access -/

section

variable {fs : Functions σ} {marked : σ → Prop} {a : Attached σ} {q : DirectRequest}

/-- A byte written to the abort register of a card resets it, if it asks for that. -/
theorem directWrite_of_resets (fs : Functions σ) (resets : q.Resets a.card) :
    a.directWrite fs q = a.reset fs := by
  obtain ⟨⟨writes, -, own, here⟩, set⟩ := resets
  have inside : ¬ CommonArea.registersEnd ≤ q.address.toNat := by rw [here]; decide
  unfold directWrite
  rw [if_pos writes, write_own fs own, CommonArea.placed, if_neg inside]
  exact writeCommonByte_reset fs here set a

/-- Of what a register write asks for, only a reset reaches the functions, or the byte of the response. -/
theorem apply_of_ne_reset (fs : Functions σ) {effect : CommonArea.Effect} (other : effect ≠ .reset)
    (a : Attached σ) :
    (a.apply fs effect).card.directData = a.card.directData ∧
      (a.apply fs effect).device = a.device := by
  cases effect with
  | nothing | interrupts => exact ⟨rfl, rfl⟩
  | busControl =>
    unfold apply
    dsimp only
    split <;> exact ⟨rfl, rfl⟩
  | reset => exact absurd rfl other
  | abort f =>
    refine ⟨?_, rfl⟩
    show (a.card.abort f).directData = _
    unfold Card.abort Card.endTransfer
    split
    · split <;> rfl
    · rfl

/-- No other direct write resets the card, or changes the byte of the response. -/
theorem directWrite_of_spared (fs : Functions σ) (present : q.function ≤ a.card.functionCount)
    (spared : ¬ q.Resets a.card) :
    (a.directWrite fs q).card.directData = a.card.directData ∧
      ∀ {marked : σ → Prop}, fs.Marks marked →
        (marked (a.directWrite fs q).device ↔ marked a.device) := by
  unfold directWrite
  split
  next writes =>
    unfold write
    split
    next own =>
      unfold writeCommon
      split
      · exact ⟨rfl, fun _ => .rfl⟩
      · let answer := a.card.area.writeByte fs q.address.toNat q.value a.device
        have other : answer.1 ≠ .reset := fun asked =>
          have asks := (CommonArea.writeByte_reset_iff ..).mp asked
          spared ⟨⟨writes, present, own, asks.1⟩, asks.2⟩
        obtain ⟨data, device⟩ := apply_of_ne_reset fs other
          { card := { a.card with area := answer.2.1 }, device := answer.2.2 }
        exact ⟨data, fun marks => device ▸ CommonArea.writeByte_marked marks ..⟩
    · exact ⟨rfl, fun marks => marks.write ..⟩
    · exact ⟨rfl, fun _ => .rfl⟩
  · exact ⟨rfl, fun _ => .rfl⟩

/-- The abort register reads as zero, also right after the reset that it has brought about. -/
theorem read_of_resets (fs : Functions σ) (resets : q.Resets a.card) :
    ((a.reset fs).read fs q.function q.address 1 .incrementing).1 = [0] := by
  obtain ⟨⟨-, -, own, here⟩, -⟩ := resets
  have own' : (a.reset fs).card.handlers.get q.function = .common := own
  unfold read
  rw [own', here]
  rfl

/-- **The byte of a direct access**, carried out on a card that has the function. -/
theorem directRead_directData (fs : Functions σ) (q : DirectRequest) (a : Attached σ) :
    (a.directRead fs q).card.directData =
      if readsBack q then (a.read fs q.function q.address 1 .incrementing).1.headD 0
      else a.card.directData := by
  unfold directRead
  split <;> rfl

theorem directRead_spared (marks : fs.Marks marked) (q : DirectRequest) (a : Attached σ) :
    marked (a.directRead fs q).device ↔ marked a.device := by
  unfold directRead
  split
  · exact read_spared marks ..
  · rfl

/-- **A direct access**, in its two halves. -/
theorem directDone_of_present (fs : Functions σ) {argument : UInt32}
    (present : ¬ a.card.functionCount < (Command.directArgument argument).function) :
    a.directDone fs argument =
      ((a.asked (Command.directArgument argument)).directWrite fs
        (Command.directArgument argument)).directRead fs (Command.directArgument argument) := by
  have count := (prepare_keepsWiring Card.directNumber (.direct (Command.directArgument argument)) a)
    |>.functionCount
  exact direct_of_present fs (by rwa [count])

theorem asked_keepsWiring (q : DirectRequest) (a : Attached σ) :
    a.card.KeepsWiring (a.asked q).card :=
  (prepare_keepsWiring Card.directNumber (.direct q) a).trans ⟨rfl, rfl, rfl⟩

/-- A direct access resets the card exactly if its request says so. -/
theorem resets_direct_iff (fs : Functions σ) {argument : UInt32} (reached : a.card.phase.Open)
    (present : ¬ a.card.functionCount < (Command.directArgument argument).function) :
    Turn.Resets fs ⟨a, .command Card.directNumber argument⟩ ↔
      (Command.directArgument argument).Resets a.card := by
  let q := Command.directArgument argument
  have marks := fs.observed_marks
  have unmarked : ¬ ∃ exchange ∈ (a.watched.asked q).device.2, exchange.access = .reset := by
    rintro ⟨_, mem, -⟩
    cases mem
  have wiring : a.card.KeepsWiring (a.watched.asked q).card := asked_keepsWiring q a.watched
  have found : q.function ≤ (a.watched.asked q).card.functionCount := by
    rw [wiring.functionCount]
    exact Fin.not_lt.mp present
  show (∃ exchange ∈ (a.watched.command fs.observed _ _).2.device.2, exchange.access = .reset) ↔ _
  rw [command_direct fs.observed argument (a := a.watched) reached,
    directDone_of_present fs.observed (a := a.watched) present, ← wiring.resets_iff]
  show (∃ exchange ∈ (((a.watched.asked q).directWrite fs.observed q).directRead fs.observed
    q).device.2, exchange.access = .reset) ↔ _
  rw [directRead_spared marks]
  by_cases resets : q.Resets (a.watched.asked q).card
  · rw [directWrite_of_resets fs.observed resets]
    exact iff_of_true (marks.reset _) resets
  · rw [(directWrite_of_spared fs.observed found resets).2 marks]
    exact iff_of_false unmarked resets

/-- The byte that a direct access leaves for its response. -/
theorem directDone_directData (fs : Functions σ) (argument : UInt32) (reached : a.card.phase.Open) :
    (a.directDone fs argument).card.directData = a.dataByte fs Card.directNumber argument := by
  let q := Command.directArgument argument
  have wiring := asked_keepsWiring q a
  unfold dataByte
  rw [if_neg (not_not.mpr rfl)]
  by_cases missing : a.card.functionCount < q.function
  · have count := (prepare_keepsWiring Card.directNumber (.direct q) a).functionCount
    rw [if_pos missing, directDone, direct_of_missing fs (by rwa [count])]
  · have told := (resets_direct_iff fs reached missing).trans (wiring.resets_iff q).symm
    rw [if_neg missing, directDone_of_present fs missing, directRead_directData]
    by_cases resets : q.Resets (a.asked q).card
    · have zero := read_of_resets fs resets
      rw [if_pos (told.mpr resets), directWrite_of_resets fs resets, zero]
      split <;> rfl
    · have present : q.function ≤ (a.asked q).card.functionCount := by
        rw [wiring.functionCount]
        exact Fin.not_lt.mp missing
      rw [if_neg (mt told.mp resets), (directWrite_of_spared fs present resets).1]
      rfl

/-! ## The status that a command leaves -/

/-- The status from which the response to an accepted command is built: an access to a function that is
missing has raised an error, and nothing else has. -/
def statusFor : ResponseKind → (missing : Bool) → Status
  | .r5, true => Status.powerOn.raise Status.Flag.addressError.mask
  | _, _ => .powerOn

/-- Only the response to a register access reports an error. -/
theorem statusFor_of_ne {kind : ResponseKind} (other : kind ≠ .r5) (missing : Bool) :
    statusFor kind missing = .powerOn := by
  cases kind with
  | r5 => exact absurd rfl other
  | r0 | r1 | r1b | r4 | r6 => rfl

/-- The status is reported without an error. -/
theorem normal_powerOn (kind : ResponseKind) {last : Status}
    (before : last = .powerOn ∨ last = .refused) :
    Response.normal kind last .powerOn = (⟨kind, [0x00, 0x00, 0x1e, 0x00]⟩, .powerOn) := by
  rcases before with rfl | rfl <;> cases kind <;> decide

theorem publishedAddress_powerOn (address : UInt16) :
    Response.publishedAddress .powerOn address =
      ⟨.r6, Word.bigEndian 2 address.toBitVec ++ [0x00, 0x00]⟩ := by
  have down : Status.powerOn.has .commandCrcError = false ∧ Status.powerOn.has .illegalCommand = false ∧
      Status.powerOn.has .generalError = false := by decide
  simp only [Response.publishedAddress, down]
  rfl

/-- The response to a register access reports its phase and whether the function is missing. -/
theorem directFlags_statusFor (missing : Bool) (phase : Phase) :
    Response.directFlags (statusFor .r5 missing) phase .native =
      phase.code <<< 4 ||| (if missing then 2 else 0) := by
  cases missing <;> cases phase <;> decide

/-- What it reports, it clears. -/
theorem statusFor_clear (missing : Bool) :
    (statusFor .r5 missing).clear Response.directClearMask = .powerOn := by
  cases missing <;> decide

/-- A command that is no register access leaves the status alone, and its response brings no byte. -/
theorem carryOut_status_of_plain (fs : Functions σ) {command : Command}
    (plain : (∀ q, command ≠ .direct q) ∧ ∀ q, command ≠ .extended q) (a : Attached σ) :
    (a.carryOut fs command).1 ≠ .r5 ∧ (a.carryOut fs command).2.card.status = a.card.status := by
  cases command with
  | direct q => exact absurd rfl (plain.1 q)
  | extended q => exact absurd rfl (plain.2 q)
  | goIdle | sendRelativeAddress | crcSwitch | unknown => exact ⟨ResponseKind.noConfusion, rfl⟩
  | sendOperatingConditions conditions =>
    refine ⟨ResponseKind.noConfusion, ?_⟩
    simp only [carryOut, Card.agree]
    split <;> rfl
  | select address =>
    simp only [carryOut, Card.select]
    split <;> split <;> exact ⟨ResponseKind.noConfusion, rfl⟩
  | goInactive address =>
    refine ⟨ResponseKind.noConfusion, ?_⟩
    simp only [carryOut, Card.goInactive]
    split <;> rfl

theorem direct_status (fs : Functions σ) (q : DirectRequest) (clean : a.card.status = .powerOn) :
    (a.direct fs q).card.status = statusFor .r5 (a.card.functionCount < q.function) := by
  by_cases missing : a.card.functionCount < q.function
  · rw [direct_of_missing fs missing, clean, decide_eq_true missing]
    rfl
  · have led := (directWrite_led fs.marks_true q { a with card.directData := q.value }).trans
      (directRead_led fs.marks_true q _)
    rw [direct_of_present fs missing, decide_eq_false missing]
    cases led with
    | stays _ _ status => exact status.trans clean
    | restarts _ _ status => exact status

theorem openTransfer_status (q : ExtendedRequest) {c : Card} (clean : c.status = .powerOn) :
    (c.openTransfer q).2.status = statusFor (c.openTransfer q).1 (c.functionCount < q.function) := by
  unfold Card.openTransfer
  dsimp only
  split
  next missing =>
    have told : decide (c.functionCount < q.function) = true := decide_eq_true missing
    rw [clean, told]
    rfl
  next present =>
    have told : decide (c.functionCount < q.function) = false := decide_eq_false present
    rw [told]
    split <;> exact clean

/-- **Carrying out a command** raises an error for a missing function only. -/
theorem carryOut_status (fs : Functions σ) (number : UInt8) (argument : UInt32)
    (clean : a.card.status = .powerOn) :
    let done := a.carryOut fs (Command.ofWire number argument)
    done.2.card.status =
      statusFor done.1 (a.card.functionCount < Command.functionArgument argument) := by
  have plain : ∀ command : Command, ((∀ q, command ≠ .direct q) ∧ ∀ q, command ≠ .extended q) →
      (a.carryOut fs command).2.card.status = statusFor (a.carryOut fs command).1
        (a.card.functionCount < Command.functionArgument argument) := by
    intro command other
    obtain ⟨kind, status⟩ := carryOut_status_of_plain fs other a
    rw [status, clean, statusFor_of_ne kind]
  unfold Command.ofWire
  split
  case h_6 => exact direct_status fs (Command.directArgument argument) clean
  case h_7 => exact openTransfer_status (Command.extendedArgument argument) clean
  all_goals exact plain _ ⟨fun _ => nofun, fun _ => nofun⟩

/-- **The response to an accepted command** is the one expected, and leaves a clean status. -/
theorem respond_expected {kind : ResponseKind} {last : Status} {c : Card} {missing : Bool}
    (before : last = .powerOn ∨ last = .refused) (status : c.status = statusFor kind missing)
    (native : kind = .r5 → c.mode = .native) :
    respond kind last c =
      (⟨kind, Response.expected c missing c.directData kind⟩, { c with status := .powerOn }) := by
  obtain ⟨phase, conditions, address, found, ready, mode, activeCommand, area, transfer, data,
    handlers, irq⟩ := c
  dsimp only at status native
  subst status
  by_cases access : kind = .r5
  · subst access
    rw [native rfl, respond_r5]
    simp only [Response.direct, directFlags_statusFor, Card.reported, statusFor_clear,
      Response.expected]
  · have down : Status.powerOn.has .illegalCommand = false := by decide
    rw [statusFor_of_ne access]
    cases kind with
    | r5 => exact absurd rfl access
    | r0 => exact respond_r0 ..
    | r1 | r1b =>
      simp only [respond, normal_powerOn _ before, down, Bool.false_eq_true, ↓reduceIte,
        Response.expected]
    | r4 =>
      simp only [respond, Response.operatingConditions, down, Bool.false_eq_true, ↓reduceIte,
        Response.expected]
      cases ready <;> simp only [Bool.false_eq_true, ↓reduceIte, UInt32.or_zero]
    | r6 =>
      simp only [respond, publishedAddress_powerOn, down, Bool.false_eq_true, ↓reduceIte,
        Response.expected]

/-- **A command that has been carried out** is answered as expected for the card that it has left. -/
theorem command_of_executed {number : UInt8} {argument : UInt32} {kind : ResponseKind}
    {done : Attached σ} (missing : Bool) (executed : a.execute fs number argument = (kind, done))
    (before : a.card.status = .powerOn ∨ a.card.status = .refused)
    (status : done.card.status = statusFor kind missing)
    (native : kind = .r5 → done.card.mode = .native) :
    a.command fs number argument =
      (⟨kind, Response.expected done.card missing done.card.directData kind⟩,
        { done with card.status := .powerOn }) := by
  unfold Attached.command
  rw [executed]
  dsimp only
  rw [respond_expected before status native]

/-- A response that brings a byte is one to a register access, and the byte is the one that it asks
for. -/
theorem carryOut_r5 (fs : Functions σ) {number : UInt8} (argument : UInt32)
    (legal : a.card.Legal number) :
    let done := (a.prepare number (Command.ofWire number argument)).carryOut fs
      (Command.ofWire number argument)
    done.1 = .r5 →
      a.card.phase.Open ∧ done.2.card.directData = a.dataByte fs number argument := by
  have plain : ∀ (found : Attached σ) (command : Command),
      ((∀ q, command ≠ .direct q) ∧ ∀ q, command ≠ .extended q) →
      (found.carryOut fs command).1 ≠ .r5 := fun found _ other =>
    (carryOut_status_of_plain fs other found).1
  unfold Command.ofWire
  split
  case h_6 here =>
    obtain rfl : number = 52 := UInt8.toNat_inj.mp here
    exact fun _ => ⟨legal, directDone_directData fs argument legal⟩
  case h_7 here =>
    obtain rfl : number = 53 := UInt8.toNat_inj.mp here
    intro done _
    refine ⟨.inl legal, ?_⟩
    have other : (53 : UInt8) ≠ Card.directNumber := by decide
    have zero : a.dataByte fs 53 argument = 0 := by
      unfold dataByte
      exact if_pos other
    rw [zero]
    show (Card.openTransfer _ _).2.directData = 0
    unfold Card.openTransfer
    dsimp only
    split
    · rfl
    · split <;> rfl
  all_goals exact fun access => absurd access (plain _ _ ⟨fun _ => nofun, fun _ => nofun⟩)

/-- Only a response that brings a byte depends on it. -/
theorem expected_congr {kind : ResponseKind} {data data' : UInt8} (same : kind = .r5 → data = data')
    (c : Card) (missing : Bool) :
    Response.expected c missing data kind = Response.expected c missing data' kind := by
  cases kind with
  | r5 => rw [same rfl]
  | r0 | r1 | r1b | r4 | r6 => rfl

/-- **An accepted command** is answered as expected and leaves no error. -/
theorem command_expected (fs : Functions σ) {number : UInt8} (argument : UInt32)
    (legal : a.card.Legal number) (before : a.card.status = .powerOn ∨ a.card.status = .refused)
    (native : a.card.phase.Open → a.card.mode = .native) :
    let done := a.command fs number argument
    done.1.bytes = Response.expected done.2.card
        (a.card.functionCount < Command.functionArgument argument) (a.dataByte fs number argument)
        done.1.kind ∧
      done.2.card.status = .powerOn := by
  intro done
  let command := Command.ofWire number argument
  let found := a.prepare number command
  have wiring : a.card.KeepsWiring found.card := prepare_keepsWiring ..
  have clean : found.card.status = .powerOn := by
    have cleared : found.card.status = a.card.status.clear Status.forgotten := by
      simp only [found, prepare, noteCommand]
      split <;> rfl
    rw [cleared]
    rcases before with same | same <;> rw [same] <;> decide
  let carried := found.carryOut fs command
  let missing : Bool := a.card.functionCount < Command.functionArgument argument
  have status : carried.2.card.status = statusFor carried.1 missing := by
    have raised := carryOut_status fs number argument clean
    rw [wiring.functionCount] at raised
    exact raised
  have access := carryOut_r5 fs argument legal
  have bus : carried.1 = .r5 → carried.2.card.mode = .native := fun asked =>
    (carryOut_keepsWiring fs found command).mode.trans (wiring.mode.trans (native (access asked).1))
  have answered : done = (⟨carried.1, Response.expected carried.2.card missing
      carried.2.card.directData carried.1⟩, { carried.2 with card.status := .powerOn }) :=
    command_of_executed missing (execute_of_legal fs argument legal) before status bus
  rw [answered]
  exact ⟨expected_congr (fun asked => (access asked).2) _ _, rfl⟩

/-- Every kind of response but one has bytes. -/
theorem expected_eq_nil_iff (c : Card) (missing : Bool) (data : UInt8) (kind : ResponseKind) :
    Response.expected c missing data kind = [] ↔ kind = .r0 := by
  cases kind with
  | r0 => exact iff_of_true rfl rfl
  | r1 | r1b | r5 => exact iff_of_false (List.cons_ne_nil _ _) nofun
  | r4 =>
    refine iff_of_false (fun none => ?_) nofun
    have length := congrArg List.length none
    rw [Response.expected, Word.length_bigEndian] at length
    cases length
  | r6 => exact iff_of_false (List.append_ne_nil_of_right_ne_nil _ (List.cons_ne_nil _ _)) nofun

/-! ## Runs -/

/-- The status tells whether the last command was refused. -/
def Told (fs : Functions σ) (log : List (Turn σ)) (status : Status) : Prop :=
  RejectedLast fs log ∧ status = .refused ∨ ¬ RejectedLast fs log ∧ status = .powerOn

/-- **The status is kept exact** by every operation. -/
theorem perform_told (fs : Functions σ) {log : List (Turn σ)} (op : Card.Operation)
    (native : a.card.phase.Open → a.card.mode = .native) (now : Told fs log a.card.status) :
    Told fs (log ++ [⟨a, op⟩]) (a.perform fs op).2.card.status := by
  have before : a.card.status = .powerOn ∨ a.card.status = .refused :=
    now.symm.imp And.right And.right
  by_cases asked : ∃ number argument, op = .command number argument
  · obtain ⟨number, argument, rfl⟩ := asked
    by_cases legal : a.card.Legal number
    · refine .inr ⟨fun rejected => ?_, (command_expected fs argument legal before native).2⟩
      rcases since_concat.mp rejected with ⟨_, _, same, illegal⟩ | ⟨-, other, -⟩
      · cases same
        exact illegal legal
      · exact other ⟨number, argument, rfl⟩
    · refine .inl ⟨since_concat.mpr (.inl ⟨number, argument, rfl, legal⟩), ?_⟩
      show (a.command fs number argument).2.card.status = _
      rw [command_of_not_legal fs argument legal]
      dsimp only
      rcases before with same | same <;> rw [same] <;> cases a.card.mode <;> decide
  · have other : ∀ number argument, op ≠ .command number argument := fun number argument same =>
      asked ⟨number, argument, same⟩
    have observed : (a.watched.perform fs.observed op).2.card = (a.perform fs op).2.card :=
      congrArg (·.2.card) (perform_observed fs op a [])
    have led := perform_led fs.observed_marks other a.watched
    cases led with
    | stays spared _ status =>
      have unmarked : ¬ Turn.Resets fs ⟨a, op⟩ := fun resets => by
        obtain ⟨_, mem, -⟩ := spared.mp resets
        cases mem
      have same : RejectedLast fs (log ++ [⟨a, op⟩]) ↔ RejectedLast fs log := by
        refine since_concat.trans ⟨fun rejected => ?_, fun rejected => .inr ⟨rejected, asked, unmarked⟩⟩
        rcases rejected with ⟨number, argument, same, -⟩ | ⟨rejected, -⟩
        · exact absurd same (other number argument)
        · exact rejected
      rw [observed] at status
      unfold Told
      rw [status, same]
      exact now
    | restarts resets _ status =>
      rw [observed] at status
      refine .inr ⟨fun rejected => ?_, status⟩
      rcases since_concat.mp rejected with ⟨number, argument, same, -⟩ | ⟨-, -, spared⟩
      · exact other number argument same
      · exact spared resets

theorem run_told (fs : Functions σ) (model : CardModel) (s : σ) (ops : List Card.Operation) :
    let start : Attached σ := ⟨Card.new model, s⟩
    Told fs (start.history fs ops) (start.run fs ops).card.status := by
  intro start
  induction ops using List.reverseRecOn with
  | nil => exact .inr ⟨not_since_nil, rfl⟩
  | append_singleton ops op told =>
    rw [history_concat, run_concat]
    exact perform_told fs op (run_enumerated fs model s ops).native_of_open told

/-- Nothing changes the operating conditions of a card. -/
theorem run_conditions (fs : Functions σ) (ops : List Card.Operation) (a : Attached σ) :
    (a.run fs ops).card.conditions = a.card.conditions := by
  induction ops generalizing a with
  | nil => rfl
  | cons op ops ih =>
    refine (ih _).trans ?_
    by_cases rewires : ∃ f handler, op = .setHandler f handler
    · obtain ⟨f, handler, rfl⟩ := rewires
      show (a.card.setHandler f handler).conditions = _
      unfold Card.setHandler
      split <;> rfl
    · exact (perform_keepsWiring fs a op fun f handler same => rewires ⟨f, handler, same⟩).conditions

/-- **The status and the responses are exact** in every run of a new card. The status is that of
power-on, with the flag of an illegal command exactly if the last command was refused and the card has
not been reset since. A response has no bytes exactly if it is of the kind that has none, or the
command is refused; else its bytes are the ones expected. -/
theorem responses_exact (fs : Functions σ) (model : CardModel) (s : σ) (ops : List Card.Operation) :
    let start : Attached σ := ⟨Card.new model, s⟩
    let now := start.run fs ops
    (RejectedLast fs (start.history fs ops) → now.card.status = ⟨0x00401e00⟩) ∧
    (¬ RejectedLast fs (start.history fs ops) → now.card.status = ⟨0x00001e00⟩) ∧
    now.card.conditions = model.conditions ∧
    ∀ number argument,
      let done := now.command fs number argument
      (done.1.bytes = [] ↔ done.1.kind = .r0 ∨ ¬ now.card.Legal number) ∧
      (now.card.Legal number →
        done.1.bytes = Response.expected done.2.card
          (now.card.functionCount < Command.functionArgument argument)
          (now.dataByte fs number argument) done.1.kind) := by
  intro start now
  have told : Told fs (start.history fs ops) now.card.status := run_told fs model s ops
  have native : now.card.phase.Open → now.card.mode = .native :=
    (run_enumerated fs model s ops).native_of_open
  have before : now.card.status = .powerOn ∨ now.card.status = .refused :=
    told.symm.imp And.right And.right
  refine ⟨fun rejected => ?_, fun accepted => ?_, run_conditions .., fun number argument => ?_⟩
  · exact (told.resolve_right fun other => other.1 rejected).2
  · exact (told.resolve_left fun other => accepted other.1).2
  · by_cases legal : now.card.Legal number
    · have bytes := (command_expected fs argument legal before native).1
      refine ⟨?_, fun _ => bytes⟩
      rw [bytes, expected_eq_nil_iff]
      exact (or_iff_left (not_not.mpr legal)).symm
    · refine ⟨iff_of_true ?_ (.inr legal), fun other => absurd other legal⟩
      rw [command_of_not_legal fs argument legal]

/-- A new card publishes no address before operating conditions have been agreed. -/
theorem responses_exact_plain :
    let start : Attached Unit := ⟨Card.new plainModel, ()⟩
    RejectedLast .numbered (start.history .numbered [.command 3 0]) ∧
      (start.run .numbered [.command 3 0]).card.status = ⟨0x00401e00⟩ := by
  intro start
  have illegal : ¬ (Card.new plainModel).Legal 3 := by decide +kernel
  have rejected : RejectedLast .numbered (start.history .numbered [.command 3 0]) :=
    ⟨[], ⟨start, .command 3 0⟩, [], rfl, ⟨3, 0, rfl, illegal⟩,
      fun _ mem => absurd mem List.not_mem_nil⟩
  obtain ⟨refused, -⟩ := responses_exact .numbered plainModel () [.command 3 0]
  exact ⟨rejected, refused rejected⟩

end

end Attached

end WlanCard
