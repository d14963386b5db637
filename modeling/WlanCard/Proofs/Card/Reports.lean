import WlanCard.Proofs.Card.Enumeration
import WlanCard.Proofs.Card.Responses

/-!
# What a card only reports

The status of a card and the byte of its next response are there to be reported. A regular card, one
whose status says nothing but whether its last command was refused (`Card.Regular`), goes the same way
whatever they are: `Attached.unreported` is the card without them, and two regular cards that are the
same without them answer every operation alike and stay so (`perform_unreported`,
`trace_unreported`).

Regular cards are those that a run leads to (`Attached.Reached`, `run_reached`).
-/

namespace WlanCard

/-! ## Regular cards -/

/-- A card has nothing to report but that its last command was refused, and its registers can be reached
on a native bus only. -/
structure Card.Regular (c : Card) : Prop where
  status : c.status = .powerOn ∨ c.status = .refused
  native : c.phase.Open → c.mode = .native

/-- What a regular card has to report is forgotten with the next command. -/
theorem Card.Regular.clear_status {c : Card} (regular : c.Regular) :
    c.status.clear Status.forgotten = .powerOn := by
  rcases regular.status with same | same <;> rw [same] <;> decide

/-- The labels of a card with nothing to report. -/
def Card.nothingToReport : Relabelling where
  status _ := .powerOn
  number := id
  data _ := 0

theorem Card.nothingToReport_keepsReset : Card.nothingToReport.KeepsReset := ⟨rfl, rfl, rfl⟩

/-- Nothing that a regular card has to report stops data. -/
theorem Card.Regular.openDataPath {c : Card} (regular : c.Regular) :
    (c.relabel nothingToReport).openDataPath? = c.openDataPath? := by
  have clean : Status.powerOn.meets Status.dataErrors = false := by decide
  have status : c.status.meets Status.dataErrors = false := by
    rcases regular.status with same | same <;> rw [same] <;> decide
  have same : (c.relabel nothingToReport).status.meets Status.dataErrors =
      c.status.meets Status.dataErrors := clean.trans status.symm
  unfold openDataPath?
  rw [same]
  rfl

namespace Attached

variable {σ : Type} {fs : Functions σ} {a b : Attached σ}

/-- A card as a run may lead to it. -/
def Reached (fs : Functions σ) (a : Attached σ) : Prop :=
  ∃ log, Told fs log a.card.status ∧ Enumerated fs log a.card.mode a.card.standing

theorem Reached.regular (reached : a.Reached fs) : a.card.Regular := by
  obtain ⟨log, told, enumerated⟩ := reached
  exact ⟨told.symm.imp And.right And.right, enumerated.native_of_open⟩

theorem Reached.perform (reached : a.Reached fs) (op : Card.Operation) :
    (a.perform fs op).2.Reached fs := by
  have regular := reached.regular
  obtain ⟨log, told, enumerated⟩ := reached
  exact ⟨_, perform_told fs op regular.native told, perform_enumerated fs op enumerated⟩

theorem run_reached (fs : Functions σ) (model : CardModel) (s : σ) (ops : List Card.Operation) :
    (Attached.run fs ops ⟨Card.new model, s⟩).Reached fs :=
  ⟨_, run_told fs model s ops, run_enumerated fs model s ops⟩

/-- A command finds nothing to report on a regular card. -/
theorem prepare_status (regular : a.card.Regular) (number : UInt8) (command : Command) :
    (a.prepare number command).card.status = .powerOn := by
  rw [← regular.clear_status]
  simp only [prepare, noteCommand]
  split <;> rfl

/-! ## Cards that differ in what they report -/

/-- The card with nothing to report. -/
def unreported (a : Attached σ) : Attached σ :=
  a.relabel Card.nothingToReport

/-- The card with another byte for its next response. -/
def setData (data : UInt8) (a : Attached σ) : Attached σ :=
  a.relabel { status := id, number := id, data := fun _ => data }

/-- Cards that are the same with nothing to report differ in what they report. -/
theorem eq_of_unreported (alike : a.unreported = b.unreported) :
    b = { a with card.status := b.card.status, card.directData := b.card.directData } := by
  obtain ⟨⟨_, _, _, _, _, _, _, _, _, _, _, _⟩, _⟩ := a
  obtain ⟨⟨_, _, _, _, _, _, _, _, _, _, _, _⟩, _⟩ := b
  cases alike
  rfl

/-- A command finds them alike but for the byte of the last response. -/
theorem prepare_alike (ra : a.card.Regular) (rb : b.card.Regular)
    (alike : a.unreported = b.unreported) (number : UInt8) (command : Command) :
    b.prepare number command = (a.prepare number command).setData b.card.directData := by
  have sa := prepare_status ra number command
  have sb := prepare_status rb number command
  have same : (a.prepare number command).unreported = (b.prepare number command).unreported := by
    rw [eq_of_unreported alike]
    unfold prepare noteCommand
    dsimp only
    split <;> rfl
  have data : (b.prepare number command).card.directData = b.card.directData := by
    simp only [prepare, noteCommand]
    split <;> rfl
  have eq := eq_of_unreported same
  rw [sb, data] at eq
  rw [eq, ← sa]
  rfl

/-- **Carrying out a command** replaces the byte of the last response, or leaves it alone. -/
theorem carryOut_setData (fs : Functions σ) (data : UInt8) (command : Command) (a : Attached σ) :
    (a.setData data).carryOut fs command = a.carryOut fs command ∨
      (a.carryOut fs command).1 ≠ .r5 ∧
        (a.setData data).carryOut fs command =
          ((a.carryOut fs command).1, (a.carryOut fs command).2.setData data) := by
  cases command with
  | direct q => exact .inl rfl
  | extended q => exact .inl rfl
  | goIdle | sendRelativeAddress | crcSwitch | unknown => exact .inr ⟨nofun, rfl⟩
  | sendOperatingConditions conditions =>
    exact .inr ⟨nofun, congrArg (fun c => (_, Attached.mk c a.device)) (Card.agree_relabel ..)⟩
  | select address =>
    have kind : (a.card.select address).1 ≠ .r5 := by
      unfold Card.select
      split <;> split <;> nofun
    exact .inr ⟨kind, congrArg (fun done => (done.1, Attached.mk done.2 a.device))
      (Card.select_relabel ..)⟩
  | goInactive address =>
    exact .inr ⟨nofun, congrArg (fun c => (_, Attached.mk c a.device)) (Card.goInactive_relabel ..)⟩

/-- What the last command has left to report does not show in a response. -/
theorem respond_last {last last' : Status} (before : last = .powerOn ∨ last = .refused)
    (before' : last' = .powerOn ∨ last' = .refused) (kind : ResponseKind) (c : Card) :
    respond kind last c = respond kind last' c := by
  have carried : last.meet Response.carryMask = last'.meet Response.carryMask := by
    rcases before with rfl | rfl <;> rcases before' with rfl | rfl <;> decide
  cases kind with
  | r0 | r4 | r5 | r6 => rfl
  | r1 | r1b =>
    unfold respond Response.normal
    rw [carried]

/-- The byte shows in the response to a register access only. -/
theorem respond_setData {kind : ResponseKind} (other : kind ≠ .r5) (last : Status) (data : UInt8)
    (a : Attached σ) :
    respond kind last (a.setData data).card =
      ((respond kind last a.card).1, { (respond kind last a.card).2 with directData := data }) := by
  cases kind with
  | r5 => exact absurd rfl other
  | r0 | r1 | r1b | r4 | r6 => rfl

/-- **Commands** are answered alike, and leave alike what is alike but for reports. -/
theorem command_unreported (fs : Functions σ) (ra : a.card.Regular) (rb : b.card.Regular)
    (alike : a.unreported = b.unreported) (number : UInt8) (argument : UInt32) :
    (a.command fs number argument).1 = (b.command fs number argument).1 ∧
      (a.command fs number argument).2.unreported = (b.command fs number argument).2.unreported := by
  let command := Command.ofWire number argument
  have legal : a.card.Legal number ↔ b.card.Legal number := by
    rw [eq_of_unreported alike]
    rfl
  by_cases accepted : a.card.Legal number
  · let carried := (a.prepare number command).carryOut fs command
    have executed : a.execute fs number argument = carried := execute_of_legal fs argument accepted
    have executed' : b.execute fs number argument =
        ((a.prepare number command).setData b.card.directData).carryOut fs command := by
      rw [execute_of_legal fs argument (legal.mp accepted), prepare_alike ra rb alike]
    unfold Attached.command
    rw [executed, executed']
    dsimp only
    rw [respond_last ra.status rb.status]
    rcases carryOut_setData fs b.card.directData command (a.prepare number command) with
      same | ⟨kind, same⟩
    · rw [same]
      exact ⟨rfl, rfl⟩
    · rw [same]
      dsimp only
      rw [respond_setData kind]
      exact ⟨rfl, rfl⟩
  · rw [command_of_not_legal fs argument accepted,
      command_of_not_legal fs argument (mt legal.mpr accepted), eq_of_unreported alike]
    exact ⟨rfl, rfl⟩

/-- **Every operation** is answered alike, and leaves alike what is alike but for reports. -/
theorem perform_unreported (fs : Functions σ) (ra : a.card.Regular) (rb : b.card.Regular)
    (alike : a.unreported = b.unreported) (op : Card.Operation) :
    (a.perform fs op).1 = (b.perform fs op).1 ∧
      (a.perform fs op).2.unreported = (b.perform fs op).2.unreported := by
  have keeps := Card.nothingToReport_keepsReset
  cases op with
  | command number argument =>
    obtain ⟨response, after⟩ := command_unreported fs ra rb alike number argument
    exact ⟨congrArg Card.Answer.response response, after⟩
  | writeData value =>
    have left := writeData_relabel keeps fs value ra.openDataPath
    have right := writeData_relabel keeps fs value rb.openDataPath
    refine ⟨rfl, ?_⟩
    show (a.writeData fs value).unreported = (b.writeData fs value).unreported
    unfold unreported at alike ⊢
    rw [← left, ← right, alike]
  | readData =>
    have left := readData_relabel fs ra.openDataPath
    have right := readData_relabel fs rb.openDataPath
    unfold unreported at alike
    rw [alike, right] at left
    obtain ⟨byte, after⟩ := Prod.mk.inj left
    exact ⟨congrArg Card.Answer.byte byte.symm, after.symm⟩
  | setFunctionIrq line level =>
    rw [eq_of_unreported alike]
    exact ⟨rfl, rfl⟩
  | setHandler f handler =>
    refine ⟨rfl, ?_⟩
    have left := a.card.setHandler_relabel Card.nothingToReport f handler
    have right := b.card.setHandler_relabel Card.nothingToReport f handler
    have card : a.card.relabel Card.nothingToReport = b.card.relabel Card.nothingToReport :=
      congrArg Attached.card alike
    have device : a.device = b.device := (congrArg Attached.device alike :)
    show (⟨(a.card.setHandler f handler).relabel _, a.device⟩ : Attached σ) =
      ⟨(b.card.setHandler f handler).relabel _, b.device⟩
    rw [← left, ← right, card, device]
  | reset =>
    rw [eq_of_unreported alike]
    exact ⟨rfl, rfl⟩

theorem event_unreported (fs : Functions σ) (ra : a.card.Regular) (rb : b.card.Regular)
    (alike : a.unreported = b.unreported) (op : Card.Operation) : a.event fs op = b.event fs op := by
  have watched : a.watched.unreported = b.watched.unreported := by
    rw [eq_of_unreported alike]
    rfl
  have answer := (perform_unreported fs ra rb alike op).1
  have noted := (perform_unreported fs.observed (a := a.watched) ra rb watched op).2
  have exchanges : a.exchanges fs op = b.exchanges fs op := (congrArg (·.device.2) noted :)
  rw [event, event, answer, exchanges]

/-- **Runs** of cards that are alike but for reports show nothing of what is reported. -/
theorem trace_unreported (ra : a.Reached fs) (rb : b.Reached fs)
    (alike : a.unreported = b.unreported) (ops : List Card.Operation) :
    a.trace fs ops = b.trace fs ops ∧ (a.run fs ops).unreported = (b.run fs ops).unreported := by
  induction ops generalizing a b with
  | nil => exact ⟨rfl, alike⟩
  | cons op ops ih =>
    have event := event_unreported fs ra.regular rb.regular alike op
    have next := (perform_unreported fs ra.regular rb.regular alike op).2
    obtain ⟨trace, run⟩ := ih (ra.perform op) (rb.perform op) next
    refine ⟨?_, run⟩
    rw [Attached.trace, Attached.trace, event, trace]

end Attached

end WlanCard
