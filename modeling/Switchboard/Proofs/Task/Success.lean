import Switchboard.Error
/-!
# Results that come out

What a sequence of steps gives when it gives something (`bind_eq_ok_iff`). Two kinds of steps go
through sequencing. Of some, the result is known but for whether there is one: `YieldsIf` says when
there is, and a sequence of them has the conditions of all its steps. Of others, only the kind of
the result is known: `GivesOnly`, which every sequence has whose last step has it.
-/

namespace Switchboard

variable {ε α β : Type} {x : Except ε α} {f : α → Except ε β} {a : α} {b : β}

theorem bind_eq_ok_iff : (x >>= f) = .ok b ↔ ∃ a, x = .ok a ∧ f a = .ok b := by
  cases x with
  | ok a => exact ⟨fun h => ⟨a, rfl, h⟩, fun ⟨_, ha, h⟩ => Except.ok.inj ha ▸ h⟩
  | error e => exact ⟨fun h => (by cases h), fun ⟨_, ha, _⟩ => (by cases ha)⟩

theorem mapError_ok {ε' : Type} (g : ε → ε') (a : α) :
    (.ok a : Except ε α).mapError g = .ok a := rfl

/-! ## Results under a condition -/

/-- **The result is this one if the condition holds,** and otherwise an error. -/
def YieldsIf (C : Prop) (x : Except ε α) (a : α) : Prop := ∀ b, x = .ok b ↔ C ∧ b = a

namespace YieldsIf

variable {C D : Prop} {e : ε}

theorem ok (hC : C) (a : α) : YieldsIf C (.ok a : Except ε α) a := fun _ =>
  ⟨fun h => ⟨hC, (Except.ok.inj h).symm⟩, fun h => congrArg Except.ok h.2.symm⟩

theorem error (hC : ¬ C) (e : ε) (a : α) : YieldsIf C (.error e) a := fun _ =>
  ⟨fun h => (by cases h), fun h => absurd h.1 hC⟩

theorem eq_ok (h : YieldsIf C x a) (hC : C) : x = .ok a := (h a).2 ⟨hC, rfl⟩

theorem exists_error (h : YieldsIf C x a) (hC : ¬ C) : ∃ e, x = .error e := by
  cases x with
  | ok b => exact absurd ((h b).1 rfl).1 hC
  | error e => exact ⟨e, rfl⟩

theorem congr (h : YieldsIf C x a) (hC : C ↔ D) : YieldsIf D x a := fun b => by rw [h, hC]

theorem bind (hx : YieldsIf C x a) (hf : YieldsIf D (f a) b) : YieldsIf (C ∧ D) (x >>= f) b := by
  intro b'
  rw [bind_eq_ok_iff]
  constructor
  · rintro ⟨a', ha, h⟩
    obtain ⟨hC, rfl⟩ := (hx a').1 ha
    obtain ⟨hD, rfl⟩ := (hf b').1 h
    exact ⟨⟨hC, hD⟩, rfl⟩
  · rintro ⟨⟨hC, hD⟩, rfl⟩
    exact ⟨a, hx.eq_ok hC, hf.eq_ok hD⟩

/-- What always follows adds no condition. -/
theorem bind_ok (hx : YieldsIf C x a) (hf : f a = .ok b) : YieldsIf C (x >>= f) b := by
  have hlast : YieldsIf True (f a) b := hf ▸ ok trivial b
  exact (hx.bind hlast).congr (iff_of_eq (and_true C))

/-- Other errors are as good as any. -/
theorem mapError {ε' : Type} (g : ε → ε') (hx : YieldsIf C x a) : YieldsIf C (x.mapError g) a := by
  intro b
  rw [← hx]
  cases x with
  | ok a' => exact ⟨fun h => congrArg _ (Except.ok.inj h), fun h => congrArg _ (Except.ok.inj h)⟩
  | error e => exact ⟨fun h => (by cases h), fun h => (by cases h)⟩

end YieldsIf

/-! ## Results of a kind -/

/-- The result is of the kind, or it is an error. -/
def GivesOnly (Q : α → Prop) (x : Except ε α) : Prop := ∀ a, x = .ok a → Q a

variable {Q : α → Prop} {R : β → Prop}

theorem givesOnly_ok (h : Q a) : GivesOnly Q (.ok a : Except ε α) := by
  intro a' ha
  cases ha
  exact h

theorem givesOnly_error (e : ε) : GivesOnly Q (.error e) := by
  intro a ha
  cases ha

theorem GivesOnly.bind (hx : GivesOnly Q x) (hf : ∀ a, Q a → GivesOnly R (f a)) :
    GivesOnly R (x >>= f) := by
  cases x with
  | ok a => exact hf a (hx a rfl)
  | error e => exact givesOnly_error e

/-- Nothing need be known of the first step. -/
theorem givesOnly_bind (hf : ∀ a, GivesOnly R (f a)) : GivesOnly R (x >>= f) :=
  GivesOnly.bind (Q := fun _ => True) (fun _ _ => trivial) fun a _ => hf a

theorem GivesOnly.mapError {ε' : Type} (g : ε → ε') (h : GivesOnly Q x) :
    GivesOnly Q (x.mapError g) := by
  cases x with
  | ok a => exact givesOnly_ok (h a rfl)
  | error e => exact givesOnly_error _

end Switchboard
