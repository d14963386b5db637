import WlanCard.Proofs.Card.Run

/-!
# Functions seen through a view

Functions may keep more than others do and behave as they do on what a view shows of it
(`Functions.ShownBy`). A card does not look behind the view: every operation answers the same, and
leaves what the view shows of the state (`perform_view`).

Observed functions are such functions, and so are they with older notes put before theirs. So
`perform_observed`: an operation does what it does without notes, whatever has been noted before, and
the notes that it adds are its exchanges, in order.
-/

namespace WlanCard

variable {σ τ : Type}

/-- What a view shows of some functions is other functions. -/
structure Functions.ShownBy (fs : Functions σ) (view : τ → σ) (full : Functions τ) : Prop where
  reset : ∀ s, fs.reset (view s) = view (full.reset s)
  read : ∀ f address length how s,
    fs.read f address length how (view s) = (full.read f address length how s).map id view
  write : ∀ f address bytes how s,
    fs.write f address bytes how (view s) = view (full.write f address bytes how s)
  readStorage : ∀ f address s,
    fs.readStorage f address (view s) = (full.readStorage f address s).map id view
  writeStorage : ∀ f address value s,
    fs.writeStorage f address value (view s) = view (full.writeStorage f address value s)

/-- A view that hides the notes shows the functions themselves. -/
theorem Functions.observed_shown (fs : Functions σ) : fs.ShownBy Prod.fst fs.observed where
  reset _ := rfl
  read _ _ _ _ _ := rfl
  write _ _ _ _ _ := rfl
  readStorage _ _ _ := rfl
  writeStorage _ _ _ _ := rfl

/-- So does a view that puts older notes before them. -/
theorem Functions.observed_shown_behind (fs : Functions σ) (older : List Exchange) :
    fs.observed.ShownBy (fun s => (s.1, older ++ s.2)) fs.observed where
  reset _ := congrArg (Prod.mk _) (List.append_assoc ..)
  read _ _ _ _ _ := congrArg (Prod.mk _ <| Prod.mk _ ·) (List.append_assoc ..)
  write _ _ _ _ _ := congrArg (Prod.mk _) (List.append_assoc ..)
  readStorage _ _ _ := congrArg (Prod.mk _ <| Prod.mk _ ·) (List.append_assoc ..)
  writeStorage _ _ _ _ := congrArg (Prod.mk _) (List.append_assoc ..)

variable {fs : Functions σ} {full : Functions τ} {view : τ → σ}

/-! ## Registers -/

namespace CommonArea

theorem readByte_view (shown : fs.ShownBy view full) (address : Nat) (area : CommonArea) (s : τ) :
    area.readByte fs address (view s) =
      (area.readByte full address s).map id (Prod.map id view) := by
  unfold readByte
  cases Region.ofAddress address with
  | function i offset =>
    simp only [readFunction]
    split
    · rw [shown.readStorage]
      rfl
    · rfl
  | common | memory => rfl

theorem read_view (shown : fs.ShownBy view full) (how : Addressing) (address length : Nat)
    (area : CommonArea) (s : τ) :
    read fs how address length area (view s) =
      (read full how address length area s).map id (Prod.map id view) := by
  induction length generalizing address area s with
  | zero => rfl
  | succ length ih =>
    unfold read
    split
    · dsimp only
      rw [readByte_view shown]
      dsimp only [Prod.map]
      rw [ih]
      rfl
    · rfl

theorem writeByte_view (shown : fs.ShownBy view full) (address : Nat) (value : UInt8)
    (area : CommonArea) (s : τ) :
    area.writeByte fs address value (view s) =
      (area.writeByte full address value s).map id (Prod.map id view) := by
  unfold writeByte
  cases Region.ofAddress address with
  | function i offset =>
    simp only [writeFunction]
    split
    · rw [shown.writeStorage]
      rfl
    · rfl
  | common | memory => rfl

end CommonArea

/-! ## Accesses -/

namespace Attached

/-- The card, with what a view shows of the state of its functions. -/
def seen (view : τ → σ) (a : Attached τ) : Attached σ :=
  { card := a.card, device := view a.device }

variable (shown : fs.ShownBy view full)
include shown

theorem apply_view (effect : CommonArea.Effect) (a : Attached τ) :
    (a.seen view).apply fs effect = (a.apply full effect).seen view := by
  cases effect with
  | nothing | interrupts | abort => rfl
  | busControl =>
    unfold apply
    have same : (a.seen view).card.mode = a.card.mode := rfl
    dsimp only
    rw [same]
    cases a.card.mode <;> rfl
  | reset =>
    show (⟨a.card.reset.updateIrq, fs.reset (view a.device)⟩ : Attached σ) = _
    rw [shown.reset]
    rfl

theorem writeCommon_view (how : Addressing) (address : UInt32) (bytes : List UInt8)
    (a : Attached τ) :
    (a.seen view).writeCommon fs how address bytes =
      (a.writeCommon full how address bytes).seen view := by
  have byte : ∀ address value (b : Attached τ),
      (b.seen view).writeCommonByte fs address value =
        (b.writeCommonByte full address value).seen view := by
    intro address value b
    have written := CommonArea.writeByte_view shown address.toNat value b.card.area b.device
    unfold writeCommonByte
    dsimp only [seen]
    rw [written]
    exact apply_view shown _ ⟨_, _⟩
  induction bytes generalizing address a with
  | nil => rfl
  | cons value rest ih =>
    unfold writeCommon
    split
    · rfl
    · rw [byte, ih]

theorem write_view (f : FunctionNumber) (address : UInt32) (bytes : List UInt8) (how : Addressing)
    (a : Attached τ) :
    (a.seen view).write fs f address bytes how = (a.write full f address bytes how).seen view := by
  unfold write
  have same : (a.seen view).card.handlers.get f = a.card.handlers.get f := rfl
  rw [same]
  cases a.card.handlers.get f with
  | common => exact writeCommon_view shown how address bytes a
  | attached => exact congrArg (Attached.mk a.card) (shown.write ..)
  | absent => rfl

theorem read_view (f : FunctionNumber) (address : UInt32) (length : Nat) (how : Addressing)
    (a : Attached τ) :
    (a.seen view).read fs f address length how =
      (a.read full f address length how).map id (·.seen view) := by
  unfold read
  have same : (a.seen view).card.handlers.get f = a.card.handlers.get f := rfl
  rw [same]
  cases a.card.handlers.get f with
  | common =>
    have answered := CommonArea.read_view shown how address.toNat length a.card.area a.device
    dsimp only [seen]
    rw [answered]
    rfl
  | attached =>
    dsimp only [seen]
    rw [shown.read]
    rfl
  | absent => rfl

theorem direct_view (q : DirectRequest) (a : Attached τ) :
    (a.seen view).direct fs q = (a.direct full q).seen view := by
  let noted : Attached τ := { a with card.directData := q.value }
  have written : (noted.seen view).directWrite fs q = (noted.directWrite full q).seen view := by
    unfold directWrite
    split
    · exact write_view shown ..
    · rfl
  have answered : ∀ b : Attached τ,
      (b.seen view).directRead fs q = (b.directRead full q).seen view := by
    intro b
    unfold directRead
    rw [read_view shown]
    split <;> rfl
  show (if noted.card.functionCount < q.function then _
    else ((noted.seen view).directWrite fs q).directRead fs q) = _
  rw [written, answered]
  show _ = (if noted.card.functionCount < q.function then _
    else (noted.directWrite full q).directRead full q : Attached τ).seen view
  split <;> rfl

/-! ## Operations -/

theorem command_view (number : UInt8) (argument : UInt32) (a : Attached τ) :
    (a.seen view).command fs number argument =
      (a.command full number argument).map id (·.seen view) := by
  have executed : (a.seen view).execute fs number argument =
      (a.execute full number argument).map id (·.seen view) := by
    have refused : ((a.seen view).prepare number (Command.ofWire number argument)).refusal
        (Command.ofWire number argument) =
        (a.prepare number (Command.ofWire number argument)).refusal
          (Command.ofWire number argument) := rfl
    unfold execute
    dsimp only
    rw [refused]
    split
    · cases Command.ofWire number argument with
      | direct q => exact congrArg (Prod.mk _) (direct_view shown q (a.prepare number (.direct q)))
      | _ => rfl
    · rfl
  unfold command
  rw [executed]
  rfl

theorem writeData_view (value : UInt8) (a : Attached τ) :
    (a.seen view).writeData fs value = (a.writeData full value).seen view := by
  unfold writeData
  have same : (a.seen view).card.openDataPath? = a.card.openDataPath? := rfl
  rw [same]
  cases a.card.openDataPath? with
  | none => rfl
  | some t =>
    dsimp only
    split
    · rfl
    · split
      · unfold flush
        rw [write_view shown]
        generalize a.write full _ _ _ _ = written
        dsimp only [seen]
        split
        · split <;> rfl
        · rfl
      · rfl

theorem readData_view (a : Attached τ) :
    (a.seen view).readData fs = (a.readData full).map id (·.seen view) := by
  unfold readData
  have same : (a.seen view).card.openDataPath? = a.card.openDataPath? := rfl
  rw [same]
  cases a.card.openDataPath? with
  | none => rfl
  | some t =>
    have moved : ∀ (t : Transfer) (b : Attached τ),
        (b.seen view).moveOn t = (b.moveOn t).seen view := by
      intro t b
      unfold moveOn
      dsimp only
      split
      · split <;> rfl
      · rfl
    have fetched : (a.seen view).fetch fs t = (a.fetch full t).map id (·.seen view) := by
      unfold fetch
      rw [read_view shown]
      split <;> rfl
    dsimp only
    split
    · rfl
    · rw [fetched]
      exact congrArg (Prod.mk _) (moved ..)

/-- **An operation** does not look behind a view. -/
theorem perform_view (op : Card.Operation) (a : Attached τ) :
    (a.seen view).perform fs op = (a.perform full op).map id (·.seen view) := by
  cases op with
  | command number argument =>
    unfold perform
    dsimp only
    rw [command_view shown]
    rfl
  | writeData value => exact congrArg (Prod.mk _) (writeData_view shown value a)
  | readData =>
    unfold perform
    dsimp only
    rw [readData_view shown]
    rfl
  | setFunctionIrq | setHandler => rfl
  | reset => exact congrArg (Prod.mk _) (apply_view shown .reset a)

omit shown

/-! ## Observed operations -/

/-- A card with notes of exchanges beside the state of its functions. -/
def noting (a : Attached σ) (notes : List Exchange) : Attached (σ × List Exchange) :=
  { card := a.card, device := (a.device, notes) }

/-- **Noting changes nothing**: an operation answers what it does without notes, and adds its own
exchanges to them. -/
theorem perform_observed (fs : Functions σ) (op : Card.Operation) (a : Attached σ)
    (notes : List Exchange) :
    (a.noting notes).perform fs.observed op =
      ((a.perform fs op).1, (a.perform fs op).2.noting (notes ++ a.exchanges fs op)) := by
  have behind := perform_view (fs.observed_shown_behind notes) op a.watched
  have fresh : a.watched.seen (fun s => (s.1, notes ++ s.2)) = a.noting notes :=
    congrArg (a.noting ·) (List.append_nil notes)
  have shown : a.perform fs op = (a.watched.perform fs.observed op).map id (·.seen Prod.fst) :=
    perform_view fs.observed_shown op a.watched
  rw [fresh] at behind
  rw [behind, shown]
  rfl

end Attached

end WlanCard
