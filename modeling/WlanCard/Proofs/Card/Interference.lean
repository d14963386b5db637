import WlanCard.Proofs.Card.DataPath
import WlanCard.Proofs.Card.Observation

/-!
# Functions do not steer the card

What the functions behind a card answer ends up in two places: in the data byte of the next response, and
in the staging buffer of a transfer towards the host. `Card.withoutData` is the card without them, and
nothing else of a card depends on either.

To say so of a run, it is compared with the run of functions that answer nothing and only note what is
asked of them (`Functions.mute`). Each step of an operation leads to the same card, but for its data, and to
the same notes (`perform_heard`), so whatever stands behind a card, it goes the same way.
-/

namespace WlanCard

/-! ## Data -/

/-- The transfer without what functions have answered: the bytes of a block for the host. -/
def Transfer.withoutData (t : Transfer) : Transfer :=
  { t with staging := if t.direction = .read then #[] else t.staging }

/-- The card without what functions have answered. -/
def Card.withoutData (c : Card) : Card :=
  { c with directData := 0, transfer := c.transfer.map Transfer.withoutData }

/-- The response with zero for its data byte, the last one of the response to a register access. -/
def Response.withoutData (r : Response) : Response :=
  if r.kind = .r5 then { r with bytes := r.bytes.set (r.bytes.length - 1) 0 } else r

/-- The answer with zeros for data. -/
def Card.Answer.withoutData : Card.Answer → Card.Answer
  | .nothing => .nothing
  | .response r => .response r.withoutData
  | .byte _ => .byte 0

/-- What of an event is not data: the operation, its answer without data, and the accesses that the
functions have seen. -/
def Card.Event.control (e : Card.Event) : Card.Operation × Card.Answer × List Access :=
  (e.operation, e.answer.withoutData, e.exchanges.map (·.access))

/-! ## Functions that answer nothing -/

/-- Functions that note what is asked of them and answer nothing but zeros. -/
def Functions.mute : Functions (List Access) where
  reset s := s ++ [.reset]
  read f address length how s := (List.replicate length 0, s ++ [.read f address length how])
  write f address bytes how s := s ++ [.write f address bytes how]
  readStorage f address s := (none, s ++ [.readStorage f address])
  writeStorage f address value s := s ++ [.writeStorage f address value]
  length_read _ _ _ _ _ := List.length_replicate

variable {σ τ : Type}

/-- A view of some functions shows the accesses to them, each one as it is made. -/
structure Functions.NotedBy (fs : Functions σ) (view : σ → List Access) : Prop where
  reset : ∀ s, Functions.mute.reset (view s) = view (fs.reset s)
  read : ∀ f address length how s,
    (Functions.mute.read f address length how (view s)).2 = view (fs.read f address length how s).2
  write : ∀ f address bytes how s,
    Functions.mute.write f address bytes how (view s) = view (fs.write f address bytes how s)
  readStorage : ∀ f address s,
    (Functions.mute.readStorage f address (view s)).2 = view (fs.readStorage f address s).2
  writeStorage : ∀ f address value s,
    Functions.mute.writeStorage f address value (view s) = view (fs.writeStorage f address value s)

theorem Functions.mute_noted : Functions.mute.NotedBy id where
  reset _ := rfl
  read _ _ _ _ _ := rfl
  write _ _ _ _ _ := rfl
  readStorage _ _ _ := rfl
  writeStorage _ _ _ _ := rfl

/-- The accesses among the notes of some functions. -/
def accesses (s : σ × List Exchange) : List Access :=
  s.2.map (·.access)

theorem Functions.observed_noted (fs : Functions σ) : fs.observed.NotedBy accesses := by
  have next : ∀ (s : σ × List Exchange) (now : σ) (last : Exchange),
      accesses s ++ [last.access] = accesses (now, s.2 ++ [last]) := by
    intro s now last
    unfold accesses
    rw [List.map_append]
    rfl
  exact {
    reset := fun s => next s _ ⟨.reset, _⟩
    read := fun f address length how s => next s _ ⟨.read f address length how, _⟩
    write := fun f address bytes how s => next s _ ⟨.write f address bytes how, _⟩
    readStorage := fun f address s => next s _ ⟨.readStorage f address, _⟩
    writeStorage := fun f address value s => next s _ ⟨.writeStorage f address value, _⟩ }

/-! ## The card -/

namespace Transfer

variable (t : Transfer)

theorem withoutData_withoutData : t.withoutData.withoutData = t.withoutData := by
  unfold withoutData
  dsimp only
  split <;> rfl

theorem withoutData_of_write (direction : t.direction = .write) : t.withoutData = t := by
  unfold withoutData
  rw [if_neg (by rw [direction]; nofun)]

/-- Where a transfer goes does not depend on the bytes that it moves. -/
theorem next?_withoutData : t.withoutData.next? = t.next?.map withoutData := by
  have finished : t.withoutData.finishBlock = t.finishBlock.map id withoutData := by
    unfold finishBlock
    have same : t.withoutData.blocks = t.blocks := rfl
    rw [same]
    cases t.blocks with
    | infinite => rfl
    | finite count =>
      dsimp only
      split <;> rfl
  have done : t.withoutData.blockDone = t.blockDone := rfl
  unfold next?
  rw [finished, done]
  dsimp only [Prod.map, id]
  split
  · split <;> rfl
  · rfl

end Transfer

namespace Card

variable (c : Card)

theorem withoutData_withoutData : c.withoutData.withoutData = c.withoutData := by
  unfold withoutData
  dsimp only
  rw [Option.map_map]
  congr 2
  exact funext Transfer.withoutData_withoutData

theorem endTransfer_withoutData : c.withoutData.endTransfer = c.endTransfer.withoutData := by
  unfold endTransfer
  have same : c.withoutData.area.isFourBit = c.area.isFourBit := rfl
  rw [same]
  split <;> rfl

theorem abort_withoutData (f : FunctionNumber) :
    c.withoutData.abort f = (c.abort f).withoutData := by
  unfold abort
  have same : c.withoutData.canAbort f = c.canAbort f := rfl
  rw [same]
  split
  · exact endTransfer_withoutData c
  · rfl

theorem openDataPath_withoutData :
    c.withoutData.openDataPath? = c.openDataPath?.map Transfer.withoutData := by
  unfold openDataPath?
  show (if c.phase = .transfer ∧ !c.status.meets Status.dataErrors ∧
      c.activeCommand = extendedNumber then c.transfer.map Transfer.withoutData else none) = _
  split <;> rfl

theorem proceed_withoutData (t : Transfer) :
    c.withoutData.proceed t.withoutData = (c.proceed t).withoutData := by
  unfold proceed
  rw [t.next?_withoutData]
  cases t.next? with
  | none => exact endTransfer_withoutData c
  | some next => rfl

theorem agree_withoutData (conditions : UInt32) :
    c.withoutData.agree conditions = (c.agree conditions).withoutData := by
  unfold agree
  split <;> rfl

theorem select_withoutData (address : UInt16) :
    c.withoutData.select address = (c.select address).map id withoutData := by
  unfold select
  have phase : c.withoutData.phase = c.phase := rfl
  have meant : c.withoutData.address = c.address := rfl
  rw [phase, meant]
  split <;> split <;> rfl

theorem goInactive_withoutData (address : UInt16) :
    c.withoutData.goInactive address = (c.goInactive address).withoutData := by
  unfold goInactive
  have own : c.withoutData.address = c.address := rfl
  rw [own]
  split <;> rfl

theorem noteCommand_withoutData (number : UInt8) (command : Command) :
    Attached.noteCommand number command c.withoutData =
      (Attached.noteCommand number command c).withoutData := by
  unfold Attached.noteCommand
  have phase : c.withoutData.phase = c.phase := rfl
  rw [phase]
  split <;> rfl

theorem openTransfer_withoutData (q : ExtendedRequest) :
    (c.withoutData.openTransfer q).map id withoutData = (c.openTransfer q).map id withoutData := by
  unfold openTransfer
  have count : ({ c.withoutData with directData := 0 } : Card).functionCount =
      ({ c with directData := 0 } : Card).functionCount := rfl
  have length : ({ c.withoutData with directData := 0 } : Card).transferBlockLength? q =
      ({ c with directData := 0 } : Card).transferBlockLength? q := rfl
  have gone : (c.transfer.map Transfer.withoutData).map Transfer.withoutData =
      c.transfer.map Transfer.withoutData := congrArg Card.transfer c.withoutData_withoutData
  dsimp only
  rw [count, length]
  split
  · simp only [Prod.map, withoutData, gone]
  · split
    · simp only [Prod.map, withoutData, gone]
    · rfl

end Card

/-- A data byte does not show in a response without data. -/
theorem Response.direct_withoutData (status : Status) (phase : Phase) (mode : BusMode) (x y : UInt8) :
    (direct status phase mode x).1.withoutData = (direct status phase mode y).1.withoutData := by
  cases mode <;> rfl

/-- **Responses** without data do not depend on data, and building them leaves it alone. -/
theorem Attached.respond_withoutData (kind : ResponseKind) (last : Status) (c : Card) :
    (respond kind last c.withoutData).1.withoutData = (respond kind last c).1.withoutData ∧
      (respond kind last c.withoutData).2 = (respond kind last c).2.withoutData := by
  cases kind with
  | r5 =>
    refine ⟨?_, rfl⟩
    let built (data : UInt8) := Response.direct c.status c.phase c.mode data
    show (if (built 0).2.has .illegalCommand then (built 0).1.suppress else (built 0).1).withoutData =
      (if (built c.directData).2.has .illegalCommand then (built c.directData).1.suppress
        else (built c.directData).1).withoutData
    have cleared : (built 0).2 = (built c.directData).2 := rfl
    rw [cleared]
    split
    · rfl
    · exact Response.direct_withoutData ..
  | r0 | r1 | r1b | r4 | r6 => exact ⟨rfl, rfl⟩

theorem Attached.respond_congr (kind : ResponseKind) (last : Status) {c d : Card}
    (same : c.withoutData = d.withoutData) :
    (respond kind last c).1.withoutData = (respond kind last d).1.withoutData ∧
      (respond kind last c).2.withoutData = (respond kind last d).2.withoutData := by
  obtain ⟨shownC, leftC⟩ := respond_withoutData kind last c
  obtain ⟨shownD, leftD⟩ := respond_withoutData kind last d
  rw [← shownC, ← leftC, ← shownD, ← leftD, same]
  exact ⟨rfl, rfl⟩

/-! ## Registers -/

section

variable {fs : Functions σ} {view : σ → List Access} (noted : fs.NotedBy view)
include noted

namespace CommonArea

theorem readByte_mute (address : Nat) (area : CommonArea) (s : σ) :
    (area.readByte .mute address (view s)).2 = (area.readByte fs address s).2.map id view := by
  unfold readByte
  cases Region.ofAddress address with
  | function i offset =>
    dsimp only [readFunction]
    split
    · exact Prod.ext rfl (noted.readStorage ..)
    · rfl
  | common | memory => rfl

theorem read_mute (how : Addressing) (address length : Nat) (area : CommonArea) (s : σ) :
    (read .mute how address length area (view s)).2 =
      (read fs how address length area s).2.map id view := by
  induction length generalizing address area s with
  | zero => rfl
  | succ length ih =>
    unfold read
    split
    · have byte := readByte_mute noted address area s
      dsimp only
      rw [byte]
      exact ih ..
    · rfl

theorem writeByte_mute (address : Nat) (value : UInt8) (area : CommonArea) (s : σ) :
    area.writeByte .mute address value (view s) =
      (area.writeByte fs address value s).map id (Prod.map id view) := by
  unfold writeByte
  cases Region.ofAddress address with
  | function i offset =>
    dsimp only [writeFunction]
    split
    · exact Prod.ext rfl (Prod.ext rfl (noted.writeStorage ..))
    · rfl
  | common | memory => rfl

end CommonArea

namespace Attached

omit noted

/-- The card without data, with its functions. -/
def withoutData (a : Attached σ) : Attached σ :=
  { a with card := a.card.withoutData }

/-- The card without data, and the accesses that its functions have noted. -/
def heard (view : σ → List Access) (a : Attached σ) : Attached (List Access) :=
  { card := a.card.withoutData, device := view a.device }

theorem withoutData_heard (a : Attached σ) : (a.heard view).withoutData = a.heard view :=
  congrArg (Attached.mk · _) a.card.withoutData_withoutData

include noted

/-! ## Accesses -/

theorem apply_heard (effect : CommonArea.Effect) (a : Attached σ) :
    (a.heard view).apply .mute effect = (a.apply fs effect).heard view := by
  cases effect with
  | nothing | interrupts => rfl
  | busControl =>
    unfold apply
    dsimp only
    have same : (a.heard view).card.mode = a.card.mode := rfl
    rw [same]
    cases a.card.mode <;> rfl
  | reset => exact congrArg (Attached.mk _) (noted.reset ..)
  | abort f => exact congrArg (Attached.mk · _) (a.card.abort_withoutData f)

theorem writeCommonByte_heard (address : UInt32) (value : UInt8) (a : Attached σ) :
    (a.heard view).writeCommonByte .mute address value =
      (a.writeCommonByte fs address value).heard view := by
  let answer := a.card.area.writeByte fs address.toNat value a.device
  have written : (a.heard view).card.area.writeByte .mute address.toNat value (a.heard view).device =
      answer.map id (Prod.map id view) :=
    CommonArea.writeByte_mute noted address.toNat value a.card.area a.device
  unfold writeCommonByte
  rw [written]
  exact apply_heard noted answer.1 { card := { a.card with area := answer.2.1 }, device := answer.2.2 }

theorem writeCommon_heard (how : Addressing) (address : UInt32) (bytes : List UInt8)
    (a : Attached σ) :
    (a.heard view).writeCommon .mute how address bytes =
      (a.writeCommon fs how address bytes).heard view := by
  induction bytes generalizing address a with
  | nil => rfl
  | cons value rest ih =>
    unfold writeCommon
    split
    · rfl
    · rw [writeCommonByte_heard noted, ih]

/-- **Write accesses** take the same course. -/
theorem write_heard (f : FunctionNumber) (address : UInt32) (bytes : List UInt8) (how : Addressing)
    (a : Attached σ) :
    (a.heard view).write .mute f address bytes how = (a.write fs f address bytes how).heard view := by
  unfold write
  have same : (a.heard view).card.handlers.get f = a.card.handlers.get f := rfl
  rw [same]
  cases a.card.handlers.get f with
  | common => exact writeCommon_heard noted how address bytes a
  | attached => exact congrArg (Attached.mk _) (noted.write ..)
  | absent => rfl

/-- **Read accesses** do, whatever they answer. -/
theorem read_heard (f : FunctionNumber) (address : UInt32) (length : Nat) (how : Addressing)
    (a : Attached σ) :
    ((a.heard view).read .mute f address length how).2 =
      (a.read fs f address length how).2.heard view := by
  unfold read
  have same : (a.heard view).card.handlers.get f = a.card.handlers.get f := rfl
  rw [same]
  cases a.card.handlers.get f with
  | common =>
    have answered := CommonArea.read_mute noted how address.toNat length a.card.area a.device
    dsimp only [heard]
    rw [show a.card.withoutData.area = a.card.area from rfl, answered]
    rfl
  | attached => exact congrArg (Attached.mk _) (noted.read ..)
  | absent => rfl

theorem directWrite_heard (q : DirectRequest) (a : Attached σ) :
    (a.heard view).directWrite .mute q = (a.directWrite fs q).heard view := by
  unfold directWrite
  split
  · exact write_heard noted ..
  · rfl

/-- What is read goes into the data byte, and no further. -/
theorem directRead_heard (q : DirectRequest) (a : Attached σ) :
    ((a.heard view).directRead .mute q).withoutData = (a.directRead fs q).heard view := by
  unfold directRead
  split
  · let left := (a.read fs q.function q.address 1 .incrementing).2
    have answered := read_heard noted q.function q.address 1 .incrementing a
    dsimp only
    rw [answered]
    exact congrArg (Attached.mk · (view left.device)) left.card.withoutData_withoutData
  · exact withoutData_heard a

/-- **Direct accesses** take the same course, but for the data byte that they bring. -/
theorem direct_heard (q : DirectRequest) (a : Attached σ) :
    ((a.heard view).direct .mute q).withoutData = (a.direct fs q).heard view := by
  let told : Attached σ := { a with card.directData := q.value }
  let heardTold : Attached (List Access) := { a.heard view with card.directData := q.value }
  have start : heardTold.withoutData = told.heard view :=
    congrArg (Attached.mk · (view a.device)) a.card.withoutData_withoutData
  have written : (heardTold.directWrite .mute q).withoutData = (told.directWrite fs q).heard view := by
    have alone : heardTold.withoutData.directWrite .mute q = (heardTold.directWrite .mute q).withoutData :=
      directWrite_heard Functions.mute_noted q heardTold
    rw [← alone, start, directWrite_heard noted]
  have read : ((heardTold.directWrite .mute q).directRead .mute q).withoutData =
      ((told.directWrite fs q).directRead fs q).heard view := by
    have alone : ((heardTold.directWrite .mute q).withoutData.directRead .mute q).withoutData =
        ((heardTold.directWrite .mute q).directRead .mute q).withoutData :=
      directRead_heard Functions.mute_noted q (heardTold.directWrite .mute q)
    rw [← alone, written, directRead_heard noted]
  unfold direct
  have count : heardTold.card.functionCount = told.card.functionCount := rfl
  show (if heardTold.card.functionCount < q.function then _
    else (heardTold.directWrite .mute q).directRead .mute q : Attached (List Access)).withoutData =
    (if told.card.functionCount < q.function then _
      else (told.directWrite fs q).directRead fs q : Attached σ).heard view
  rw [count]
  split
  · exact congrArg
      (fun c => Attached.mk { c with status := a.card.status.raise Status.Flag.addressError.mask }
        (view a.device)) (congrArg Attached.card start)
  · exact read

/-! ## Operations -/

theorem carryOut_heard (command : Command) (a : Attached σ) :
    ((a.heard view).carryOut .mute command).map id withoutData =
      (a.carryOut fs command).map id (heard view) := by
  -- what is only done to the card
  have inside : ∀ {c d : Card}, c = d.withoutData →
      (⟨c, view a.device⟩ : Attached (List Access)).withoutData = ⟨d.withoutData, view a.device⟩ := by
    rintro c d rfl
    exact congrArg (Attached.mk · (view a.device)) d.withoutData_withoutData
  cases command with
  | direct q => exact congrArg (Prod.mk _) (direct_heard noted q a)
  | extended q =>
    have opened := a.card.openTransfer_withoutData q
    exact congrArg (Prod.map id (Attached.mk · (view a.device))) opened
  | goIdle | crcSwitch | unknown | sendRelativeAddress => exact congrArg (Prod.mk _) (inside rfl)
  | sendOperatingConditions conditions =>
    exact congrArg (Prod.mk _) (inside (a.card.agree_withoutData conditions))
  | select address =>
    have selected := a.card.select_withoutData address
    exact Prod.ext (congrArg (·.1) selected :) (inside (congrArg (·.2) selected :))
  | goInactive address =>
    exact congrArg (Prod.mk _) (inside (a.card.goInactive_withoutData address))

theorem execute_heard (number : UInt8) (argument : UInt32) (a : Attached σ) :
    ((a.heard view).execute .mute number argument).map id withoutData =
      (a.execute fs number argument).map id (heard view) := by
  let command := Command.ofWire number argument
  let found := a.prepare number command
  have prepared : (a.heard view).prepare number command = found.heard view :=
    congrArg (Attached.mk · (view a.device)) (Card.noteCommand_withoutData { a.card with status := _ } ..)
  cases refused : a.refusal command with
  | none =>
    rw [execute_of_accepted .mute (a := a.heard view) rfl refused, execute_of_accepted fs rfl refused,
      prepared]
    exact carryOut_heard noted command found
  | some why =>
    rw [execute_of_refused .mute (a := a.heard view) rfl refused, execute_of_refused fs rfl refused,
      prepared]
    exact congrArg (Prod.mk _ <| Attached.mk · (view a.device)) found.card.refuse.2.withoutData_withoutData

/-- **Commands** are answered alike, but for the data byte. -/
theorem command_heard (number : UInt8) (argument : UInt32) (a : Attached σ) :
    ((a.heard view).command .mute number argument).map Response.withoutData withoutData =
      (a.command fs number argument).map Response.withoutData (heard view) := by
  have executed := execute_heard noted number argument a
  have kind : ((a.heard view).execute .mute number argument).1 = (a.execute fs number argument).1 :=
    (congrArg (·.1) executed :)
  have card : ((a.heard view).execute .mute number argument).2.card.withoutData =
      (a.execute fs number argument).2.card.withoutData := (congrArg (·.2.card) executed :)
  have device : ((a.heard view).execute .mute number argument).2.device =
      view (a.execute fs number argument).2.device := (congrArg (·.2.device) executed :)
  have responded := respond_congr (a.execute fs number argument).1 a.card.status card
  unfold command
  dsimp only
  rw [kind]
  refine Prod.ext responded.1 ?_
  show (⟨_, _⟩ : Attached (List Access)) = ⟨_, _⟩
  rw [device]
  exact congrArg (Attached.mk · (view (a.execute fs number argument).2.device)) responded.2

/-! ## Data -/

/-- A block written by the host takes the same course. -/
theorem flush_heard {t : Transfer} (toCard : t.withoutData = t) (full : t.blockDone = true)
    (a : Attached σ) : (a.heard view).flush .mute t = (a.flush fs t).heard view := by
  have written := write_heard noted t.function t.start t.staging.toList t.addressing a
  unfold flush
  rw [written]
  generalize a.write fs t.function t.start t.staging.toList t.addressing = left
  have phase : (left.heard view).card.phase = left.card.phase := rfl
  dsimp only
  rw [phase]
  split
  · have booked := left.card.proceed_withoutData t
    rw [toCard] at booked
    rw [finish_eq _ full, finish_eq _ full]
    exact congrArg (Attached.mk · (view left.device)) booked
  · rfl

/-- **Written bytes** take the same course. -/
theorem writeData_heard (value : UInt8) (a : Attached σ) :
    ((a.heard view).writeData .mute value).withoutData = (a.writeData fs value).heard view := by
  have flowing : (a.heard view).card.openDataPath? = a.card.openDataPath?.map Transfer.withoutData :=
    a.card.openDataPath_withoutData
  unfold writeData
  rw [flowing]
  cases a.card.openDataPath? with
  | none => exact withoutData_heard a
  | some t =>
    have direction : t.withoutData.direction = t.direction := rfl
    dsimp only [Option.map]
    rw [direction]
    cases toCard : t.direction with
    | read => exact withoutData_heard a
    | write =>
      rw [t.withoutData_of_write toCard]
      dsimp only
      split
      next full =>
        rw [flush_heard noted ((t.put value).withoutData_of_write toCard) full]
        exact withoutData_heard _
      · rfl

omit noted in
/-- Where a transfer moves on to does not depend on the bytes that it moves. -/
theorem moveOn_congr {t u : Transfer} (alike : t.withoutData = u.withoutData) (a : Attached σ) :
    ((a.heard view).moveOn t).withoutData = (a.moveOn u).heard view := by
  have booked : (a.card.withoutData.proceed t.advance).withoutData =
      (a.card.proceed u.advance).withoutData := by
    have next : t.advance.withoutData = u.advance.withoutData := congrArg Transfer.advance alike
    rw [← a.card.withoutData.proceed_withoutData, a.card.withoutData_withoutData, next,
      a.card.proceed_withoutData]
  rw [moveOn_eq, moveOn_eq]
  exact congrArg (Attached.mk · (view a.device)) booked

theorem fetch_heard {t : Transfer} (toHost : t.direction = .read) (a : Attached σ) :
    ((a.heard view).fetch .mute t.withoutData).1.withoutData = (a.fetch fs t).1.withoutData ∧
      ((a.heard view).fetch .mute t.withoutData).2 = (a.fetch fs t).2.heard view := by
  have offset : t.withoutData.offset = t.offset := rfl
  unfold fetch
  rw [offset]
  split
  · refine ⟨?_, read_heard noted ..⟩
    unfold Transfer.withoutData
    dsimp only
    rw [if_pos toHost, if_pos toHost]
  · exact ⟨t.withoutData_withoutData, rfl⟩

/-- **Read bytes** take the same course, whatever they are. -/
theorem readData_heard (a : Attached σ) :
    ((a.heard view).readData .mute).2.withoutData = (a.readData fs).2.heard view := by
  have flowing : (a.heard view).card.openDataPath? = a.card.openDataPath?.map Transfer.withoutData :=
    a.card.openDataPath_withoutData
  unfold readData
  rw [flowing]
  cases a.card.openDataPath? with
  | none => exact withoutData_heard a
  | some t =>
    have direction : t.withoutData.direction = t.direction := rfl
    dsimp only [Option.map]
    rw [direction]
    cases toHost : t.direction with
    | write => exact withoutData_heard a
    | read =>
      obtain ⟨block, left⟩ := fetch_heard noted toHost a
      dsimp only
      rw [left]
      exact moveOn_congr block _

/-- **Every operation** takes the same course with functions that answer nothing, and answers the same but
for data. -/
theorem perform_heard (op : Card.Operation) (a : Attached σ) :
    ((a.heard view).perform .mute op).map Card.Answer.withoutData withoutData =
      (a.perform fs op).map Card.Answer.withoutData (heard view) := by
  cases op with
  | command number argument =>
    have done := command_heard noted number argument a
    exact congrArg (Prod.map Card.Answer.response id) done
  | writeData value => exact congrArg (Prod.mk _) (writeData_heard noted value a)
  | readData => exact congrArg (Prod.mk _) (readData_heard noted a)
  | setFunctionIrq line level =>
    exact congrArg (Prod.mk _) (withoutData_heard (a.setFunctionIrq line level))
  | setHandler f handler =>
    have replaced : a.card.withoutData.setHandler f handler =
        (a.card.setHandler f handler).withoutData := by
      unfold Card.setHandler
      split <;> rfl
    let left : Attached σ := { a with card := a.card.setHandler f handler }
    have hidden : (left.heard view).withoutData = left.heard view := withoutData_heard left
    refine congrArg (Prod.mk _) (Eq.trans ?_ hidden)
    exact congrArg (fun c => (Attached.mk c (view a.device)).withoutData) replaced
  | reset =>
    refine congrArg (Prod.mk _) ?_
    show ((a.heard view).apply .mute .reset).withoutData = (a.apply fs .reset).heard view
    rw [apply_heard noted]
    exact withoutData_heard _

end Attached

end

namespace Attached

/-! ## Two runs -/

variable {fs : Functions σ} {gs : Functions τ} {a : Attached σ} {b : Attached τ}

/-- **One operation** on cards that differ in data only, whatever functions stand behind them. -/
theorem perform_alike (op : Card.Operation) (alike : a.card.withoutData = b.card.withoutData) :
    (a.event fs op).control = (b.event gs op).control ∧
      (a.perform fs op).2.card.withoutData = (b.perform gs op).2.card.withoutData := by
  have first := perform_heard fs.observed_noted op a.watched
  have second := perform_heard gs.observed_noted op b.watched
  have start : a.watched.heard accesses = b.watched.heard accesses := congrArg (Attached.mk · []) alike
  have notedFirst : a.watched.perform fs.observed op =
      ((a.perform fs op).1, (a.perform fs op).2.noting (a.exchanges fs op)) :=
    perform_observed fs op a []
  have notedSecond : b.watched.perform gs.observed op =
      ((b.perform gs op).1, (b.perform gs op).2.noting (b.exchanges gs op)) :=
    perform_observed gs op b []
  rw [start, second, notedFirst, notedSecond] at first
  have answer : (b.perform gs op).1.withoutData = (a.perform fs op).1.withoutData :=
    (congrArg (·.1) first :)
  have card : (b.perform gs op).2.card.withoutData = (a.perform fs op).2.card.withoutData :=
    (congrArg (·.2.card) first :)
  have calls : (b.exchanges gs op).map (·.access) = (a.exchanges fs op).map (·.access) :=
    (congrArg (·.2.device) first :)
  exact ⟨Prod.ext rfl (Prod.ext answer.symm calls.symm), card.symm⟩

theorem run_alike (ops : List Card.Operation) (alike : a.card.withoutData = b.card.withoutData) :
    (a.trace fs ops).map Card.Event.control = (b.trace gs ops).map Card.Event.control ∧
      (a.run fs ops).card.withoutData = (b.run gs ops).card.withoutData := by
  induction ops generalizing a b with
  | nil => exact ⟨rfl, alike⟩
  | cons op ops ih =>
    obtain ⟨event, left⟩ := perform_alike op alike
    obtain ⟨rest, now⟩ := ih left
    refine ⟨?_, now⟩
    rw [trace, trace, List.map_cons, List.map_cons, event, rest]

/-- **Functions cannot steer the card.** Whatever functions stand behind a card, in whatever state, and
whatever is done to it, the same sequence of operations leaves it in the same state, all but the data byte
of the next response and the bytes of a block for the host: phase, relative address, status, registers,
interrupt line and transfer are the same. Every response has the same kind and the same bytes, all but the
data byte of a register access, and with every operation the functions see the same accesses in the same
order: to the same functions, at the same addresses, of the same length and step, with the same bytes
written. -/
theorem functions_cannot_steer (fs : Functions σ) (gs : Functions τ) (card : Card) (s : σ) (t : τ)
    (ops : List Card.Operation) :
    let first : Attached σ := ⟨card, s⟩
    let second : Attached τ := ⟨card, t⟩
    (first.run fs ops).card.withoutData = (second.run gs ops).card.withoutData ∧
      (first.trace fs ops).map Card.Event.control = (second.trace gs ops).map Card.Event.control := by
  intro first second
  exact (run_alike (a := first) (b := second) ops rfl).symm

end Attached

end WlanCard
