import WlanCard.Proofs.Card.Observation

/-!
# What moves the functions behind a card

A card moves its functions by the accesses that it makes to them, and in no other way. What every
access keeps is kept by every operation (`perform_device`); and the state that an operation leaves is
the one that the accesses of its exchanges lead to, one after the other (`device_perform`).

The first is seen through a view: functions restricted to the states with a property are the functions
themselves, as far as a card can tell. The second is the first, for functions that note their
exchanges.
-/

namespace WlanCard

variable {σ : Type}

namespace Functions

/-- Every access keeps a property of the state of the functions. -/
structure Keeps (fs : Functions σ) (holds : σ → Prop) : Prop where
  reset : ∀ s, holds s → holds (fs.reset s)
  read : ∀ f address length how s, holds s → holds (fs.read f address length how s).2
  write : ∀ f address bytes how s, holds s → holds (fs.write f address bytes how s)
  readStorage : ∀ f address s, holds s → holds (fs.readStorage f address s).2
  writeStorage : ∀ f address value s, holds s → holds (fs.writeStorage f address value s)

variable {fs : Functions σ} {holds : σ → Prop}

/-- The same functions on the states with a property that every access keeps. -/
def restricted (fs : Functions σ) (kept : fs.Keeps holds) : Functions {s // holds s} where
  reset s := ⟨fs.reset s.1, kept.reset s.1 s.2⟩
  read f address length how s :=
    ((fs.read f address length how s.1).1, ⟨_, kept.read f address length how s.1 s.2⟩)
  write f address bytes how s := ⟨_, kept.write f address bytes how s.1 s.2⟩
  readStorage f address s :=
    ((fs.readStorage f address s.1).1, ⟨_, kept.readStorage f address s.1 s.2⟩)
  writeStorage f address value s := ⟨_, kept.writeStorage f address value s.1 s.2⟩
  length_read f address length how s := fs.length_read f address length how s.1

theorem restricted_shown (kept : fs.Keeps holds) :
    fs.ShownBy Subtype.val (fs.restricted kept) where
  reset _ := rfl
  read _ _ _ _ _ := rfl
  write _ _ _ _ _ := rfl
  readStorage _ _ _ := rfl
  writeStorage _ _ _ _ := rfl

/-- The state that one access leads to. -/
def accessed (fs : Functions σ) (s : σ) : Access → σ
  | .reset => fs.reset s
  | .read f address length how => (fs.read f address length how s).2
  | .write f address bytes how => fs.write f address bytes how s
  | .readStorage f address => (fs.readStorage f address s).2
  | .writeStorage f address value => fs.writeStorage f address value s

/-- The state that exchanges lead to, one after the other. -/
def replayed (fs : Functions σ) (s : σ) (exchanges : List Exchange) : σ :=
  exchanges.foldl (fun s exchange => fs.accessed s exchange.access) s

/-- One more exchange is one more access. -/
theorem replayed_concat (fs : Functions σ) {start s : σ} {exchanges : List Exchange}
    (now : s = fs.replayed start exchanges) (next : Exchange) :
    fs.accessed s next.access = fs.replayed start (exchanges ++ [next]) := by
  unfold replayed
  rw [List.foldl_append, now]
  rfl

/-- What observed functions have noted leads to the state that they are in. -/
theorem observed_keeps (fs : Functions σ) (start : σ) :
    fs.observed.Keeps (fun s => s.1 = fs.replayed start s.2) where
  reset _ now := fs.replayed_concat now ⟨.reset, _⟩
  read f address length how _ now := fs.replayed_concat now ⟨.read f address length how, _⟩
  write f address bytes how _ now := fs.replayed_concat now ⟨.write f address bytes how, _⟩
  readStorage f address _ now := fs.replayed_concat now ⟨.readStorage f address, _⟩
  writeStorage f address value _ now := fs.replayed_concat now ⟨.writeStorage f address value, _⟩

end Functions

namespace Attached

variable {fs : Functions σ}

/-- **What every access keeps** is kept by every operation. -/
theorem perform_device {holds : σ → Prop} (kept : fs.Keeps holds) {a : Attached σ}
    (now : holds a.device) (op : Card.Operation) : holds (a.perform fs op).2.device := by
  let full : Attached {s // holds s} := { card := a.card, device := ⟨a.device, now⟩ }
  have seen : a.perform fs op = (full.perform (fs.restricted kept) op).map id (·.seen Subtype.val) :=
    perform_view (Functions.restricted_shown kept) op full
  rw [seen]
  exact (full.perform (fs.restricted kept) op).2.device.2

/-- **Only accesses move the functions**: an operation leaves them as its exchanges do. -/
theorem device_perform (fs : Functions σ) (a : Attached σ) (op : Card.Operation) :
    (a.perform fs op).2.device = fs.replayed a.device (a.exchanges fs op) := by
  have shown : a.perform fs op = (a.watched.perform fs.observed op).map id (·.seen Prod.fst) :=
    perform_view fs.observed_shown op a.watched
  have noted := perform_device (fs.observed_keeps a.device) (a := a.watched) rfl op
  rw [shown]
  exact noted

end Attached

end WlanCard
