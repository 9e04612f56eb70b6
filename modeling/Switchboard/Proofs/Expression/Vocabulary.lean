import Switchboard.Operation.Basic
import Switchboard.Proofs.Expression.Invocation
import Switchboard.Proofs.Expression.Parts
/-!
# The operators that an expression can use

An evaluation knows the operators on values, those that take expressions, and, if
there are operations to call, the two that compose operations
(`Reach.operators`). A call that it does not know was read from an object with a
single field, whose key is none of these names (`hasSoleKey_of_hasForeign`).
-/

namespace Switchboard

/-! ## Names -/

/-- Whether operations can be called. -/
def Reach.calls : Reach → Bool
  | .nothing => false
  | _ => true

/-- **The names of the operators that an expression can use.** -/
def Reach.operators (reach : Reach) : List String :=
  Builtin.all.map Builtin.name ++
    (Operator.special.filter fun s => reach.calls || !s.2.composes).map Prod.fst

variable {reach : Reach} {name : String}

/-- **They are the names of operators,** but for those that compose operations where there are none. -/
theorem mem_operators : name ∈ reach.operators ↔
    ∃ op, Operator.ofName? name = some op ∧ (reach.calls || !op.composes) = true := by
  have hbuiltin : ∀ b : Builtin, Operator.ofName? b.name = some (.builtin b) := by
    intro b
    cases b <;> decide
  have hspecial : ∀ s ∈ Operator.special, Operator.ofName? s.1 = some s.2 := by decide
  have hall : ∀ b : Builtin, b ∈ Builtin.all := by
    intro b
    cases b <;> decide
  rw [Reach.operators, List.mem_append, List.mem_map, List.mem_map]
  constructor
  · rintro (⟨b, -, rfl⟩ | ⟨s, hs, rfl⟩)
    · exact ⟨.builtin b, hbuiltin b, Bool.or_true _⟩
    · obtain ⟨hs, hused⟩ := List.mem_filter.1 hs
      exact ⟨s.2, hspecial s hs, hused⟩
  · rintro ⟨op, hop, hused⟩
    rcases Operator.ofName?_cases hop with ⟨b, rfl, rfl⟩ | hs
    · exact .inl ⟨b, hall b, rfl⟩
    · exact .inr ⟨(name, op), List.mem_filter.2 ⟨hs, hused⟩, rfl⟩

example : Reach.registry.operators.length = 37 ∧ Reach.nothing.operators.length = 35 := by decide

/-! ## Objects with a single field -/

/-- **Somewhere in the value there is an object with a single field,** of this name. -/
def Json.HasSoleKey (v : Json) (name : String) : Prop :=
  ∃ args, Json.Within (.object [(name, args)]) v

/-- In an object the sole key is its own, or stands in one of its values. -/
theorem hasSoleKey_object {fields : Json.Fields} (h : (Json.object fields).HasSoleKey name) :
    fields.map Prod.fst = [name] ∨ ∃ f ∈ fields, f.2.HasSoleKey name := by
  obtain ⟨args, h⟩ := h
  cases h with
  | self => exact .inl rfl
  | field mem within => exact .inr ⟨_, mem, args, within⟩

/-- A text has none. -/
theorem not_hasSoleKey_string (text : String) : ¬ (Json.string text).HasSoleKey name := by
  rintro ⟨args, h⟩
  cases h

/-- The sole keys of a call with literal parameters are the two names that make it one, and those of
the parameters. -/
theorem hasSoleKey_literalCallOf {method : String} {params : Json}
    (h : (literalCallOf method params).HasSoleKey name) :
    name = Operator.invocationName ∨ name = Expr.literalMarker ∨ params.HasSoleKey name := by
  rcases hasSoleKey_object h with hkey | ⟨f, hf, h⟩
  · exact .inl (List.cons.inj hkey).1.symm
  obtain rfl := List.mem_singleton.1 hf
  rcases hasSoleKey_object h with hkey | ⟨f, hf, h⟩
  · cases hkey
  obtain rfl | hf := List.mem_cons.1 hf
  · exact absurd h (not_hasSoleKey_string method)
  obtain rfl := List.mem_singleton.1 hf
  rcases hasSoleKey_object h with hkey | ⟨f, hf, h⟩
  · exact .inr (.inl (List.cons.inj hkey).1.symm)
  obtain rfl := List.mem_singleton.1 hf
  exact .inr (.inr h)

/-! ## Calls of what is no operator -/

namespace Expr

/-- The name of a call that an evaluation does not know, where operations can be called or not. -/
def foreign? (calls : Bool) : Expr → Option String
  | .unknown name => some name
  | .invoke _ _ => if calls then none else some Operator.invocationName
  | .sequence _ _ => if calls then none else some Operator.sequenceName
  | _ => none

/-- Somewhere in the expression there is a call that an evaluation does not know. -/
def HasForeign (calls : Bool) (name : String) (e : Expr) : Prop :=
  ∃ x, Part True x e ∧ x.foreign? calls = some name

variable {calls : Bool} {x e : Expr}

theorem HasForeign.self (h : e.foreign? calls = some name) : e.HasForeign calls name := ⟨e, .refl, h⟩

theorem HasForeign.beside (h : x.HasForeign calls name) (hx : Beside x e) :
    e.HasForeign calls name := by
  obtain ⟨y, hy, hforeign⟩ := h
  exact ⟨y, hy.beside hx, hforeign⟩

theorem HasForeign.apart (h : x.HasForeign calls name) (hx : Apart x e) :
    e.HasForeign calls name := by
  obtain ⟨y, hy, hforeign⟩ := h
  exact ⟨y, hy.apart trivial hx, hforeign⟩

theorem isCall_of_foreign? (h : x.foreign? calls = some name) : x.IsCall := by
  cases x with
  | literal v => cases h
  | list items => cases h
  | record fields => cases h
  | _ => trivial

/-- A call that composes operations is not known where there are none to call. -/
theorem eq_of_ite_eq_some {composing : String} (hcomposing : composing ∉ Reach.nothing.operators)
    (h : (if reach.calls then none else some composing) = some name) :
    name = composing ∧ name ∉ reach.operators := by
  cases reach with
  | nothing =>
    cases h
    exact ⟨rfl, hcomposing⟩
  | _ => cases h

/-- A call that is not known is under a name that is no operator's. -/
theorem eq_of_foreign?_ofCall {written : String} {args : Json}
    (h : (ofCall written args).foreign? reach.calls = some name) :
    name = written ∧ name ∉ reach.operators := by
  -- no operator's name, or one that composes operations where there are none
  cases hop : Operator.ofName? written with
  | none =>
    rw [ofCall, hop] at h
    cases h
    refine ⟨rfl, fun hmem => ?_⟩
    obtain ⟨op, hsome, -⟩ := mem_operators.1 hmem
    rw [hop] at hsome
    cases hsome
  | some op =>
    cases op with
    | invocation =>
      obtain ⟨target, params, hread⟩ := ofCall_invocation hop args
      obtain rfl := eq_invocationName hop
      rw [hread] at h
      exact eq_of_ite_eq_some (by decide) h
    | sequence =>
      obtain rfl := eq_sequenceName hop
      rw [ofCall, hop] at h
      exact eq_of_ite_eq_some (by decide) h
    | _ =>
      rw [ofCall, hop] at h
      cases h

/-- **What an evaluation does not know was written as the sole key of an object.** -/
theorem hasSoleKey_of_hasForeign {v : Json} (h : (ofJson v).HasForeign reach.calls name) :
    name ∉ reach.operators ∧ v.HasSoleKey name := by
  obtain ⟨x, hx, hforeign⟩ := h
  obtain ⟨written, args, hstands, rfl⟩ := writtenIn_of_part v hx (isCall_of_foreign? hforeign)
  obtain ⟨rfl, hname⟩ := eq_of_foreign?_ofCall hforeign
  exact ⟨hname, args, hstands.within⟩

end Expr

end Switchboard
