import WlanCard.Proofs.Card.Observation

/-!
# Functions that a card cannot tell apart

Functions with states of different kinds may answer every access alike, from states that are related
and to states that are related again (`Functions.Match`). A card does not tell which of them it has
behind it: every operation gives the same answer, and leaves equal cards with related states
(`perform_matched`).

Both are views of the same functions, those on the pairs of related states.
-/

namespace WlanCard

variable {σ τ : Type}

/-- Functions answer every access alike, as long as their states are related. -/
structure Functions.Match (fs : Functions σ) (gs : Functions τ) (related : σ → τ → Prop) : Prop where
  reset : ∀ s t, related s t → related (fs.reset s) (gs.reset t)
  read : ∀ f address length how s t, related s t →
    (fs.read f address length how s).1 = (gs.read f address length how t).1 ∧
      related (fs.read f address length how s).2 (gs.read f address length how t).2
  write : ∀ f address bytes how s t, related s t →
    related (fs.write f address bytes how s) (gs.write f address bytes how t)
  readStorage : ∀ f address s t, related s t →
    (fs.readStorage f address s).1 = (gs.readStorage f address t).1 ∧
      related (fs.readStorage f address s).2 (gs.readStorage f address t).2
  writeStorage : ∀ f address value s t, related s t →
    related (fs.writeStorage f address value s) (gs.writeStorage f address value t)

variable {fs : Functions σ} {gs : Functions τ} {related : σ → τ → Prop}

namespace Functions

/-- Both functions at once, on pairs of related states; the answers are those of the first. -/
def paired (same : fs.Match gs related) : Functions {p : σ × τ // related p.1 p.2} where
  reset p := ⟨(fs.reset p.1.1, gs.reset p.1.2), same.reset _ _ p.2⟩
  read f address length how p :=
    ((fs.read f address length how p.1.1).1,
      ⟨((fs.read f address length how p.1.1).2, (gs.read f address length how p.1.2).2),
        (same.read f address length how _ _ p.2).2⟩)
  write f address bytes how p :=
    ⟨(fs.write f address bytes how p.1.1, gs.write f address bytes how p.1.2),
      same.write f address bytes how _ _ p.2⟩
  readStorage f address p :=
    ((fs.readStorage f address p.1.1).1,
      ⟨((fs.readStorage f address p.1.1).2, (gs.readStorage f address p.1.2).2),
        (same.readStorage f address _ _ p.2).2⟩)
  writeStorage f address value p :=
    ⟨(fs.writeStorage f address value p.1.1, gs.writeStorage f address value p.1.2),
      same.writeStorage f address value _ _ p.2⟩
  length_read f address length how p := fs.length_read f address length how p.1.1

theorem paired_shows_first (same : fs.Match gs related) :
    fs.ShownBy (fun p => p.1.1) (paired same) where
  reset _ := rfl
  read _ _ _ _ _ := rfl
  write _ _ _ _ _ := rfl
  readStorage _ _ _ := rfl
  writeStorage _ _ _ _ := rfl

theorem paired_shows_second (same : fs.Match gs related) :
    gs.ShownBy (fun p => p.1.2) (paired same) where
  reset _ := rfl
  read f address length how p :=
    Prod.ext (same.read f address length how _ _ p.2).1.symm rfl
  write _ _ _ _ _ := rfl
  readStorage f address p := Prod.ext (same.readStorage f address _ _ p.2).1.symm rfl
  writeStorage _ _ _ _ := rfl

end Functions

namespace Attached

/-- Equal cards with functions in related states. -/
structure Match (related : σ → τ → Prop) (a : Attached σ) (b : Attached τ) : Prop where
  card : a.card = b.card
  device : related a.device b.device

/-- **A card does not tell matching functions apart**: an operation answers the same, and the states
that it leaves are related. -/
theorem perform_matched (same : fs.Match gs related) {a : Attached σ} {b : Attached τ}
    (now : a.Match related b) (op : Card.Operation) :
    (a.perform fs op).1 = (b.perform gs op).1 ∧
      (a.perform fs op).2.Match related (b.perform gs op).2 := by
  let both : Attached {p : σ × τ // related p.1 p.2} :=
    { card := a.card, device := ⟨(a.device, b.device), now.device⟩ }
  have first : both.seen (fun p => p.1.1) = a := rfl
  have second : both.seen (fun p => p.1.2) = b := by
    show (⟨a.card, b.device⟩ : Attached τ) = b
    rw [now.card]
  have left := perform_view (Functions.paired_shows_first same) op both
  have right := perform_view (Functions.paired_shows_second same) op both
  rw [first] at left
  rw [second] at right
  rw [left, right]
  exact ⟨rfl, ⟨rfl, (both.perform (Functions.paired same) op).2.device.2⟩⟩

end Attached

end WlanCard
