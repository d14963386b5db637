import Mathlib.Data.List.Induction
import WlanCard.Proofs.Card.Refusal

/-!
# What has happened to a card

`Attached.history` lists the turns of a run: each operation with the card that it found. What a card
is now often depends on something that happened once and on nothing having undone it since; `Since`
says so of a history, and `since_concat` is its law for one more turn.

`history_induction` is the induction over runs for properties of a history and of the card behind it.
-/

namespace WlanCard

/-! ## Since -/

/-- Something has begun, and every entry after it has kept it up. What begins it is an entry together
with those before it. -/
def Since {α : Type} (begins : List α → α → Prop) (keeps : α → Prop) (log : List α) : Prop :=
  ∃ before first after, log = before ++ first :: after ∧ begins before first ∧ ∀ e ∈ after, keeps e

section

variable {α : Type} {begins : List α → α → Prop} {keeps : α → Prop}

theorem not_since_nil : ¬ Since begins keeps [] := by
  rintro ⟨before, first, after, none, -⟩
  exact List.append_ne_nil_of_right_ne_nil before (List.cons_ne_nil first after) none.symm

/-- **One more entry** begins what is asked for, or keeps it up. -/
theorem since_concat {log : List α} {last : α} :
    Since begins keeps (log ++ [last]) ↔ begins log last ∨ Since begins keeps log ∧ keeps last := by
  constructor
  · rintro ⟨before, first, after, split, began, kept⟩
    cases after using List.reverseRecOn with
    | nil =>
      obtain ⟨rfl, same⟩ := List.append_inj' split rfl
      cases same
      exact .inl began
    | append_singleton after e =>
      rw [← List.cons_append, ← List.append_assoc] at split
      obtain ⟨rfl, same⟩ := List.append_inj' split rfl
      cases same
      have earlier : ∀ e ∈ after, keeps e := fun e mem => kept e (List.mem_append_left _ mem)
      exact .inr ⟨⟨before, first, after, rfl, began, earlier⟩,
        kept last (List.mem_append_right _ (List.mem_singleton_self last))⟩
  · rintro (began | ⟨⟨before, first, after, rfl, began, kept⟩, keep⟩)
    · exact ⟨log, last, [], rfl, began, fun _ mem => absurd mem List.not_mem_nil⟩
    · refine ⟨before, first, after ++ [last], List.append_assoc .., began, fun e mem => ?_⟩
      rcases List.mem_append.mp mem with earlier | now
      · exact kept e earlier
      · exact List.mem_singleton.mp now ▸ keep

end

/-! ## Turns -/

/-- One operation of a run, with the card that it finds. -/
structure Turn (σ : Type) where
  found : Attached σ
  operation : Card.Operation

namespace Turn

variable {σ : Type}

/-- The card that a turn leaves. -/
def left (fs : Functions σ) (t : Turn σ) : Attached σ :=
  (t.found.perform fs t.operation).2

/-- A turn resets the card, by itself or with a byte that it writes. -/
def Resets (fs : Functions σ) (t : Turn σ) : Prop :=
  ∃ exchange ∈ t.found.exchanges fs t.operation, exchange.access = .reset

/-- A turn is a command that the card accepts. -/
def Accepts (t : Turn σ) (number : UInt8) (argument : UInt32) : Prop :=
  t.operation = .command number argument ∧ t.found.card.Legal number

/-- A turn is a command that the card refuses. -/
def Refuses (t : Turn σ) : Prop :=
  ∃ number argument, t.operation = .command number argument ∧ ¬ t.found.card.Legal number

/-- A turn is a command, accepted or refused. -/
def IsCommand (t : Turn σ) : Prop :=
  ∃ number argument, t.operation = .command number argument

end Turn

namespace Attached

variable {σ : Type}

/-- The turns of a run, in order. -/
def history (fs : Functions σ) : List Card.Operation → Attached σ → List (Turn σ)
  | [], _ => []
  | op :: ops, a => ⟨a, op⟩ :: history fs ops (a.perform fs op).2

theorem history_concat (fs : Functions σ) (ops : List Card.Operation) (op : Card.Operation)
    (a : Attached σ) :
    a.history fs (ops ++ [op]) = a.history fs ops ++ [⟨a.run fs ops, op⟩] := by
  induction ops generalizing a with
  | nil => rfl
  | cons first ops ih => exact congrArg (List.cons _) (ih (a.perform fs first).2)

/-- **Histories by induction**: what holds of a card without a history and is kept by every turn holds
of every run. -/
theorem history_induction (inv : List (Turn σ) → Attached σ → Prop) {fs : Functions σ}
    (step : ∀ log b op, inv log b → inv (log ++ [⟨b, op⟩]) (b.perform fs op).2) {a : Attached σ}
    (start : inv [] a) (ops : List Card.Operation) : inv (a.history fs ops) (a.run fs ops) := by
  induction ops using List.reverseRecOn with
  | nil => exact start
  | append_singleton ops op ih =>
    rw [history_concat, run_concat]
    exact step _ _ op ih

end Attached

end WlanCard
