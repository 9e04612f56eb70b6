import Switchboard.Proofs.Expression.Parts
/-!
# The methods an expression calls

A call names its method as a text that is written in the expression, and only
expressions that stand as such are evaluated: not the data, not what `$literal`
holds, not what a call results in. So the methods that an expression can call
are those of the calls in it (`Expr.callees`), and each of them is written in
the value from which the expression was read (`writesCall_of_mem_callees`).
-/

namespace Switchboard

namespace Expr

mutual

/-- The methods of the calls in an expression, those in the parameters of other calls included. -/
def callees : Expr → List String
  | .literal _ => []
  | .list items => calleesAll items
  | .record fields => calleesFields fields
  | .apply _ operands => calleesAll operands
  | .choice operands => calleesAll operands
  | .conjunction operands => calleesAll operands
  | .disjunction operands => calleesAll operands
  | .iterate _ source body => callees source ++ callees body
  | .reduce source body initial => callees source ++ (callees body ++ callees initial)
  | .invoke (.ok method) params => method :: callees params
  | .invoke (.error _) _ => []
  | .sequence steps _ => calleesFields steps
  | .unknown _ => []

/-- The methods of the calls in several expressions. -/
def calleesAll : List Expr → List String
  | [] => []
  | e :: rest => callees e ++ calleesAll rest

/-- The methods of the calls in the fields of a record, or in the steps of a sequence. -/
def calleesFields : List (String × Expr) → List String
  | [] => []
  | (_, e) :: rest => callees e ++ calleesFields rest

end

theorem mem_calleesAll {method : String} {es : List Expr} :
    method ∈ calleesAll es ↔ ∃ e ∈ es, method ∈ e.callees := by
  induction es with
  | nil => simp [calleesAll]
  | cons e rest ih => simp [calleesAll, ih]

theorem mem_calleesFields {method : String} {fields : List (String × Expr)} :
    method ∈ calleesFields fields ↔ ∃ f ∈ fields, method ∈ f.2.callees := by
  induction fields with
  | nil => simp [calleesFields]
  | cons f rest ih => simp [calleesFields, ih]

/-! ## Callees and parts -/

variable {method : String} {x e : Expr}

/-- Parts that are evaluated against the same data call nothing that the whole does not. -/
theorem mem_callees_of_beside (h : Beside x e) (hm : method ∈ x.callees) : method ∈ e.callees := by
  cases h with
  | item mem => exact mem_calleesAll.2 ⟨_, mem, hm⟩
  | field mem => exact mem_calleesFields.2 ⟨_, mem, hm⟩
  | operand mem => exact mem_calleesAll.2 ⟨_, mem, hm⟩
  | choice mem => exact mem_calleesAll.2 ⟨_, mem, hm⟩
  | conjunct mem => exact mem_calleesAll.2 ⟨_, mem, hm⟩
  | disjunct mem => exact mem_calleesAll.2 ⟨_, mem, hm⟩
  | source kind source body => exact List.mem_append_left _ hm
  | reduced source body initial => exact List.mem_append_left _ hm
  | initial source body initial => exact List.mem_append_right _ (List.mem_append_right _ hm)
  | params method params => exact List.mem_cons_of_mem _ hm

/-- Nor do the others. -/
theorem mem_callees_of_apart (h : Apart x e) (hm : method ∈ x.callees) : method ∈ e.callees := by
  cases h with
  | body kind source body => exact List.mem_append_right _ hm
  | join source body initial => exact List.mem_append_right _ (List.mem_append_left _ hm)
  | step mem => exact mem_calleesFields.2 ⟨_, mem, hm⟩

/-- There is a call of the method among the parts. -/
def HasCall (method : String) (e : Expr) : Prop :=
  ∃ params, Part True (.invoke (.ok method) params) e

theorem HasCall.beside (h : HasCall method x) (hx : Beside x e) : HasCall method e := by
  obtain ⟨params, h⟩ := h
  exact ⟨params, h.beside hx⟩

theorem HasCall.apart (h : HasCall method x) (hx : Apart x e) : HasCall method e := by
  obtain ⟨params, h⟩ := h
  exact ⟨params, h.apart trivial hx⟩

mutual

/-- **Every callee is the method of a call that is a part.** -/
theorem hasCall_of_mem_callees : ∀ (e : Expr), method ∈ e.callees → HasCall method e
  | .literal _, hm => by cases hm
  | .list items, hm => by
    obtain ⟨x, hx, h⟩ := hasCall_of_mem_calleesAll items hm
    exact h.beside (.item hx)
  | .record fields, hm => by
    obtain ⟨f, hf, h⟩ := hasCall_of_mem_calleesFields fields hm
    exact h.beside (.field hf)
  | .apply _ operands, hm => by
    obtain ⟨x, hx, h⟩ := hasCall_of_mem_calleesAll operands hm
    exact h.beside (.operand hx)
  | .choice operands, hm => by
    obtain ⟨x, hx, h⟩ := hasCall_of_mem_calleesAll operands hm
    exact h.beside (.choice hx)
  | .conjunction operands, hm => by
    obtain ⟨x, hx, h⟩ := hasCall_of_mem_calleesAll operands hm
    exact h.beside (.conjunct hx)
  | .disjunction operands, hm => by
    obtain ⟨x, hx, h⟩ := hasCall_of_mem_calleesAll operands hm
    exact h.beside (.disjunct hx)
  | .iterate kind source body, hm => by
    rcases List.mem_append.1 hm with hm | hm
    · exact (hasCall_of_mem_callees source hm).beside (.source kind source body)
    · exact (hasCall_of_mem_callees body hm).apart (.body kind source body)
  | .reduce source body initial, hm => by
    rcases List.mem_append.1 hm with hm | hm
    · exact (hasCall_of_mem_callees source hm).beside (.reduced source body initial)
    · rcases List.mem_append.1 hm with hm | hm
      · exact (hasCall_of_mem_callees body hm).apart (.join source body initial)
      · exact (hasCall_of_mem_callees initial hm).beside (.initial source body initial)
  | .invoke (.ok callee) params, hm => by
    rcases List.mem_cons.1 hm with rfl | hm
    · exact ⟨params, .refl⟩
    · exact (hasCall_of_mem_callees params hm).beside (.params callee params)
  | .invoke (.error _) _, hm => by cases hm
  | .sequence steps _, hm => by
    obtain ⟨s, hs, h⟩ := hasCall_of_mem_calleesFields steps hm
    exact h.apart (.step hs)
  | .unknown _, hm => by cases hm

theorem hasCall_of_mem_calleesAll :
    ∀ (es : List Expr), method ∈ calleesAll es → ∃ e ∈ es, HasCall method e
  | [], hm => by cases hm
  | e :: rest, hm => by
    rcases List.mem_append.1 hm with hm | hm
    · exact ⟨e, List.mem_cons_self, hasCall_of_mem_callees e hm⟩
    · obtain ⟨x, hx, h⟩ := hasCall_of_mem_calleesAll rest hm
      exact ⟨x, List.mem_cons_of_mem _ hx, h⟩

theorem hasCall_of_mem_calleesFields :
    ∀ (fields : List (String × Expr)), method ∈ calleesFields fields →
      ∃ f ∈ fields, HasCall method f.2
  | [], hm => by cases hm
  | (name, e) :: rest, hm => by
    rcases List.mem_append.1 hm with hm | hm
    · exact ⟨(name, e), List.mem_cons_self, hasCall_of_mem_callees e hm⟩
    · obtain ⟨f, hf, h⟩ := hasCall_of_mem_calleesFields rest hm
      exact ⟨f, List.mem_cons_of_mem _ hf, h⟩

end

end Expr

/-! ## Where a call is written -/

namespace Json

/-- A call of the method is written somewhere inside the value. -/
def WritesCall (v : Json) (method : String) : Prop :=
  ∃ args params, Within (.object [(Operator.invocationName, args)]) v ∧
    invocationOf args = .ok (method, params)

end Json

namespace Expr

/-- Where a call was read from. -/
theorem invocationOf_of_ofCall {name method : String} {args : Json} {params : Expr}
    (h : .invoke (.ok method) params = ofCall name args) :
    name = Operator.invocationName ∧ ∃ template, invocationOf args = .ok (method, template) := by
  unfold ofCall at h
  split at h
  case h_7 hop =>
    split at h
    · next target template hof =>
      cases h
      exact ⟨eq_invocationName hop, template, hof⟩
    · cases h
  all_goals cases h

/-- **Whatever an expression can call is written in it:** each of its callees stands, as the
method of a call, in the value from which it was read. -/
theorem writesCall_of_mem_callees (v : Json) :
    ∀ method ∈ (ofJson v).callees, v.WritesCall method := by
  intro method hm
  obtain ⟨params, hpart⟩ := hasCall_of_mem_callees _ hm
  obtain ⟨name, args, hstands, hcall⟩ := writtenIn_of_part v hpart trivial
  obtain ⟨rfl, template, hof⟩ := invocationOf_of_ofCall hcall
  exact ⟨args, template, hstands.within, hof⟩

end Expr

end Switchboard
