import Switchboard.Proofs.Dispatch.Causes
import Switchboard.Proofs.Dispatch.Failures
import Switchboard.Proofs.Server.Batches
/-!
# Whose failure it is

What the code of an error says about a call that was posted (`attributionLaws`). Each code stands
for one cause: that there is no such method, that the arguments are no good, that the expression of
the called operation has no value, or that the operation's code has failed otherwise. Whatever goes
wrong within an expression is reported as the expression's failure. That takes own code which does
not pass its failures off as those of others (`Registry.Plain`). Bodies of any other kind are
answered, too, and whatever is answered has the form of responses (`IsAnswer`).
-/

namespace Switchboard

/-- An error that is neither that of an expression, nor about an operation that there is not or that
there is already. -/
def CallError.Plain : CallError → Prop
  | .evaluation _ => False
  | .unknownOperation _ => False
  | .duplicateOperation _ => False
  | _ => True

theorem CallError.plain_of_operation? {e : CallError} {operation : String}
    (h : e.operation? = some operation) : e.Plain := by
  cases e with
  | missingParameter operation parameter => trivial
  | invalidParameter operation parameter reason => trivial
  | invalidParams operation reason => trivial
  | _ => cases h

namespace Registry

variable {r : Registry} {op : Operation} {method : String} {payload : Json} {e : CallError}

/-- **Own code is plain:** it ends with no other errors than plain ones. -/
def Plain (r : Registry) : Prop :=
  ∀ op ∈ r.operations, ∀ args e, op.Throws args e → e.Plain

/-- Built-in code is. -/
theorem CodeBuiltIn.plain (h : r.CodeBuiltIn) : r.Plain :=
  fun _ hop _ _ hthrows => CallError.plain_of_operation? (h.operation?_of_throws hop hthrows)

theorem Plain.of_codeFails (h : r.Plain) (hop : r.lookup? method = some op) {bits : Nat → Nat}
    {c : Task.Clock} (hfails : op.CodeFails bits c payload e) : e.Plain := by
  obtain ⟨args, hthrows⟩ := hfails.exists_throws
  exact h op (mem_of_lookup? hop) args e hthrows

end Registry

namespace Rpc

variable {s : Server} {body : List UInt8} {entry r : Json} {entries : List Json}
variable {fields : Json.Fields} {method : String} {id : Json} {code : Int} {e : CallError}

/-! ## Codes -/

/-- The codes that a response can report. -/
def codes : List Int :=
  [parseError, invalidRequest, methodNotFound, invalidParams, internalError, logicError,
    unavailable]

theorem codeOf_mem_codes (e : CallError) : codeOf e ∈ codes := by
  cases e <;> simp [codeOf, codes]

theorem fitsWord_of_mem_codes (h : code ∈ codes) : FitsWord code := by
  have hall : ∀ code ∈ codes, FitsWord code := by decide
  exact hall code h

theorem ofInt_inj {i j : Int} (hi : FitsWord i) (hj : FitsWord j)
    (h : Json.ofInt i = Json.ofInt j) : i = j := by
  rw [Json.ofInt, Json.ofInt, dif_pos hi, dif_pos hj] at h
  cases h
  rfl

theorem codeOf_eq_methodNotFound_iff :
    codeOf e = methodNotFound ↔ ∃ name, e = .unknownOperation name := by
  cases e <;> simp [codeOf, methodNotFound, invalidParams, logicError, unavailable, internalError]

theorem codeOf_eq_invalidParams_iff : codeOf e = invalidParams ↔ e.OfArguments := by
  cases e <;> simp [codeOf, CallError.OfArguments, methodNotFound, invalidParams, logicError,
    unavailable, internalError]

theorem codeOf_eq_logicError_iff : codeOf e = logicError ↔ ∃ cause, e = .evaluation cause := by
  cases e <;> simp [codeOf, methodNotFound, invalidParams, logicError, unavailable, internalError]

theorem codeOf_eq_internalError_iff :
    codeOf e = internalError ↔
      (∃ name, e = .duplicateOperation name) ∨ ∃ reason, e = .internal reason := by
  cases e <;> simp [codeOf, methodNotFound, invalidParams, logicError, unavailable, internalError]

/-! ## Responses -/

/-- **A response of the protocol:** it has the version, an id, and either a result or an error with
a code and a message, and nothing else. -/
inductive IsResponse : Json → Prop where
  | result (id v : Json) :
      IsResponse (.object [("id", id), ("jsonrpc", .string "2.0"), ("result", v)])
  | error (id : Json) (code : Int) (message : String) (known : code ∈ codes) :
      IsResponse (.object
        [("error", .object [("code", .ofInt code), ("message", .string message)]), ("id", id),
          ("jsonrpc", .string "2.0")])

/-- A response, or some in a batch. -/
def IsAnswer (v : Json) : Prop :=
  IsResponse v ∨ ∃ responses, v = .array responses ∧ responses ≠ [] ∧
    ∀ r ∈ responses, IsResponse r

theorem isResponse_errorResponse (id : Json) (message : String) (known : code ∈ codes) :
    IsResponse (errorResponse id code message) := by
  have hform : errorResponse id code message =
      .object [("error", .object [("code", .ofInt code), ("message", .string message)]), ("id", id),
        ("jsonrpc", .string "2.0")] := by
    simp only [errorResponse, response, version, Json.ofFields, Json.Fields.ofList,
      Json.insertField, List.foldl_cons, List.foldl_nil, String.reduceLT, String.reduceEq,
      reduceIte]
  rw [hform]
  exact .error id code message known

theorem isResponse_respond (id : Json) (outcome : Except CallError Json) :
    IsResponse (respond id outcome) := by
  cases outcome with
  | ok v =>
    have hform : respond id (.ok v) =
        .object [("id", id), ("jsonrpc", .string "2.0"), ("result", v)] := by
      simp only [respond, response, version, Json.ofFields, Json.Fields.ofList,
        Json.insertField, List.foldl_cons, List.foldl_nil, String.reduceLT, String.reduceEq,
        reduceIte]
    rw [hform]
    exact .result id v
  | error e => exact isResponse_errorResponse id e.message (codeOf_mem_codes e)

theorem isResponse_of_carryOut (h : (carryOut entry s).1 = some r) : IsResponse r := by
  rw [carryOut] at h
  cases hrequest : Request.ofJson entry with
  | error e =>
    rw [hrequest] at h
    cases h
    exact isResponse_errorResponse e.id e.reason (by decide)
  | ok request =>
    rw [hrequest] at h
    obtain ⟨id, -, rfl⟩ := Option.map_eq_some_iff.1 h
    exact isResponse_respond id _

theorem isResponse_of_mem_carryOutAll (h : r ∈ (carryOutAll entries s).1) : IsResponse r := by
  induction entries generalizing s with
  | nil => cases h
  | cons entry rest ih =>
    rw [carryOutAll, List.mem_append, Option.mem_toList] at h
    rcases h with hfirst | hrest
    · exact isResponse_of_carryOut hfirst
    · exact ih hrest

/-- **Whatever is posted, what is answered has the form of an answer.** -/
theorem isAnswer_of_answer {v : Json} (h : (answer none body s).1 = some (some v)) :
    IsAnswer v := by
  cases hread : Json.parseSource (.ofBytes body) with
  | error message =>
    rw [answer_of_unreadable hread] at h
    cases h
    exact .inl (isResponse_errorResponse _ _ (by decide))
  | ok value =>
    by_cases hsingle : Single value
    · rw [answer_of_single hread hsingle, Option.some_inj] at h
      exact .inl (isResponse_of_carryOut h)
    · obtain ⟨entries, hentries⟩ := not_forall_not.1 hsingle
      subst hentries
      by_cases hempty : entries = []
      · subst hempty
        rw [answer_of_empty hread] at h
        cases h
        exact .inl (isResponse_errorResponse _ _ (by decide))
      · rw [answer_of_batch hread hempty, Option.some_inj, batched] at h
        split at h
        · cases h
        · next hsome =>
          cases h
          refine .inr ⟨_, rfl, fun hnone => hsome ?_, fun r => isResponse_of_mem_carryOutAll⟩
          rw [hnone, List.isEmpty_nil]

/-! ## Calls that are posted -/

/-- **A call with an id is posted** to a server by itself, which has a permit for it, and its
operation is done in time. -/
structure Posted (s : Server) (body : List UInt8) (fields : Json.Fields) (method : String)
    (id : Json) : Prop where
  reads : Reads body (.object fields)
  call : IsCall fields method
  id : fields.lookup "id" = some id
  admitted : s.LetsIn .full
  timely : s.Timely .full s.settings.callTimeout method (paramsOf fields)

/-- It is answered with what the call comes to. -/
theorem Posted.answer_eq (h : Posted s body fields method id) :
    (answer none body s).1 =
      some (some (respond id (s.run (dispatch method (paramsOf fields))).1)) := by
  have hcall : s.call method (paramsOf fields) =
      s.takeCallId.2.run (dispatch method (paramsOf fields)) :=
    Server.guardedCall_of_timely (s := s.takeCallId.2) h.admitted h.timely
  rw [answer_of_single h.reads (fun _ => Json.noConfusion), carryOut_of_isCall h.call, h.id, hcall]
  rfl

/-- What is posted is answered with an error of the code. -/
def Reports (s : Server) (body : List UInt8) (code : Int) : Prop :=
  ∃ r, (answer none body s).1 = some (some r) ∧
    (r.field? "error").bind (Json.field? "code") = some (.ofInt code)

theorem reported_respond (id : Json) (e : CallError) :
    ((respond id (.error e)).field? "error").bind (Json.field? "code") =
      some (.ofInt (codeOf e)) := by
  simp [respond, errorResponse, response, Json.ofFields, Json.Fields.ofList, Json.field?]

/-- **The code that is reported is that of an error for which there is a cause.** -/
theorem Posted.reports_iff (h : Posted s body fields method id) (hcode : FitsWord code) :
    Reports s body code ↔
      ∃ e, FailsBecause s.see s.clock method (paramsOf fields) e ∧ codeOf e = code := by
  rw [Reports, h.answer_eq]
  constructor
  · rintro ⟨r, hr, hreported⟩
    cases hr
    cases hended : (s.run (dispatch method (paramsOf fields))).1 with
    | ok v =>
      rw [hended] at hreported
      simp [respond, response, Json.ofFields, Json.Fields.ofList, Json.field?] at hreported
    | error e =>
      rw [hended, reported_respond, Option.some_inj] at hreported
      have hfits := fitsWord_of_mem_codes (codeOf_mem_codes e)
      exact ⟨e, run_dispatch_eq_error_iff.1 hended, ofInt_inj hfits hcode hreported⟩
  · rintro ⟨e, hbecause, rfl⟩
    have hended : (s.run (dispatch method (paramsOf fields))).1 = .error e :=
      run_dispatch_eq_error_iff.2 hbecause
    rw [hended]
    exact ⟨_, rfl, reported_respond id e⟩

theorem Posted.reports_methodNotFound_iff (h : Posted s body fields method id)
    (hplain : s.registry.Plain) :
    Reports s body methodNotFound ↔ s.registry.lookup? method = none := by
  rw [h.reports_iff (by decide)]
  constructor
  · rintro ⟨e, hbecause, hcode⟩
    obtain ⟨name, rfl⟩ := codeOf_eq_methodNotFound_iff.1 hcode
    cases hbecause with
    | unregistered missing => exact missing
    | arguments found refused => exact refused.ofArguments.elim
    | code found fails => exact (hplain.of_codeFails found fails).elim
  · intro hmissing
    exact ⟨_, .unregistered hmissing, rfl⟩

theorem Posted.reports_invalidParams_iff (h : Posted s body fields method id) :
    Reports s body invalidParams ↔ ∃ op e, s.registry.lookup? method = some op ∧ e.OfArguments ∧
      (op.RefusesArguments (paramsOf fields) e ∨
        op.CodeFails s.randomBits s.clock.looked (paramsOf fields) e) := by
  rw [h.reports_iff (by decide)]
  constructor
  · rintro ⟨e, hbecause, hcode⟩
    have harguments := codeOf_eq_invalidParams_iff.1 hcode
    cases hbecause with
    | unregistered missing => exact harguments.elim
    | arguments found refused => exact ⟨_, e, found, harguments, .inl refused⟩
    | code found fails => exact ⟨_, e, found, harguments, .inr fails⟩
    | expression found fails => exact harguments.elim
  · rintro ⟨op, e, hop, harguments, hrefused | hfails⟩
    · exact ⟨e, .arguments hop hrefused, codeOf_eq_invalidParams_iff.2 harguments⟩
    · exact ⟨e, .code hop hfails, codeOf_eq_invalidParams_iff.2 harguments⟩

theorem Posted.reports_logicError_iff (h : Posted s body fields method id)
    (hplain : s.registry.Plain) :
    Reports s body logicError ↔ ∃ op cause, s.registry.lookup? method = some op ∧
      op.ExpressionFails s.see s.clock.looked (paramsOf fields) cause := by
  rw [h.reports_iff (by decide)]
  constructor
  · rintro ⟨e, hbecause, hcode⟩
    obtain ⟨cause, rfl⟩ := codeOf_eq_logicError_iff.1 hcode
    cases hbecause with
    | arguments found refused => exact refused.ofArguments.elim
    | code found fails => exact (hplain.of_codeFails found fails).elim
    | expression found fails => exact ⟨_, cause, found, fails⟩
  · rintro ⟨op, cause, hop, hfails⟩
    exact ⟨_, .expression hop hfails, rfl⟩

theorem Posted.reports_internalError_iff (h : Posted s body fields method id)
    (hplain : s.registry.Plain) :
    Reports s body internalError ↔ ∃ op reason, s.registry.lookup? method = some op ∧
      op.CodeFails s.randomBits s.clock.looked (paramsOf fields) (.internal reason) := by
  rw [h.reports_iff (by decide)]
  constructor
  · rintro ⟨e, hbecause, hcode⟩
    rcases codeOf_eq_internalError_iff.1 hcode with ⟨name, rfl⟩ | ⟨reason, rfl⟩
    · cases hbecause with
      | arguments found refused => exact refused.ofArguments.elim
      | code found fails => exact (hplain.of_codeFails found fails).elim
    · cases hbecause with
      | arguments found refused => exact refused.ofArguments.elim
      | code found fails => exact ⟨_, reason, found, fails⟩
  · rintro ⟨op, reason, hop, hfails⟩
    exact ⟨_, .code hop hfails, rfl⟩

/-! ## The laws of attribution -/

/-- **What a server reports of a failure,** whatever its state. By the time that the operation is
carried out, the call has looked once, for the operation. -/
structure AttributionLaws (s : Server) : Prop where
  /-- A call that is posted is answered to its id, with the value or the error that it comes to. -/
  answered : ∀ body fields method id, Posted s body fields method id →
    (answer none body s).1 =
      some (some (respond id (s.run (dispatch method (paramsOf fields))).1))
  /-- "Method not found" is reported if and only if the method that is called is not registered. -/
  method_not_found : ∀ body fields method id, Posted s body fields method id → s.registry.Plain →
    (Reports s body methodNotFound ↔ s.registry.lookup? method = none)
  /-- "Invalid params" is reported if and only if there is an error about the arguments of the call:
  its operation cannot take them, or its own code does not. -/
  invalid_params : ∀ body fields method id, Posted s body fields method id →
    (Reports s body invalidParams ↔ ∃ op e, s.registry.lookup? method = some op ∧ e.OfArguments ∧
      (op.RefusesArguments (paramsOf fields) e ∨
        op.CodeFails s.randomBits s.clock.looked (paramsOf fields) e))
  /-- "Logic error" is reported if and only if the operation that is called has an expression which
  fails, whatever it fails with, and however deep. -/
  logic_error : ∀ body fields method id, Posted s body fields method id → s.registry.Plain →
    (Reports s body logicError ↔ ∃ op cause, s.registry.lookup? method = some op ∧
      op.ExpressionFails s.see s.clock.looked (paramsOf fields) cause)
  /-- "Internal error" is reported if and only if the operation's own code fails with one. -/
  internal_error : ∀ body fields method id, Posted s body fields method id → s.registry.Plain →
    (Reports s body internalError ↔ ∃ op reason, s.registry.lookup? method = some op ∧
      op.CodeFails s.randomBits s.clock.looked (paramsOf fields) (.internal reason))
  /-- Built-in code ends with no error that would be reported as another's. -/
  plain : s.registry.CodeBuiltIn → s.registry.Plain
  /-- A body that cannot be read is answered with a parse error to no id, and nothing is done. -/
  unreadable : ∀ body message, Json.parseSource (.ofBytes body) = .error message →
    answer none body s = (some (some (errorResponse .null parseError message)), s)
  /-- Every body is answered: with nothing, with a response, or with some responses. -/
  in_form : ∀ body, (answer none body s).1 = some none ∨
    ∃ v, (answer none body s).1 = some (some v) ∧ IsAnswer v
  /-- On the web that is a response of status 204 without a body, or one of status 200 with the text
  of the answer, if the body is no longer than allowed and there is time enough. -/
  on_the_web : ∀ body limit uptime, body.length ≤ Http.bodyLimit →
    (answer none body s).2.clock.now ≤ limit →
    (Http.respond uptime limit body .remoteCalls s).1 = some ⟨204, [], ""⟩ ∨
    ∃ v, IsAnswer v ∧ (Http.respond uptime limit body .remoteCalls s).1 =
      some ⟨200, [("content-type", "application/json")], v.text⟩

theorem answer_in_form (body : List UInt8) (s : Server) : (answer none body s).1 = some none ∨
    ∃ v, (answer none body s).1 = some (some v) ∧ IsAnswer v := by
  obtain ⟨answered, hanswered⟩ := exists_answer body s
  cases answered with
  | none => exact .inl hanswered
  | some v => exact .inr ⟨v, hanswered, isAnswer_of_answer hanswered⟩

/-- **Failures are reported as whose they are.** -/
theorem attributionLaws (s : Server) : AttributionLaws s where
  answered _ _ _ _ h := h.answer_eq
  method_not_found _ _ _ _ h hplain := h.reports_methodNotFound_iff hplain
  invalid_params _ _ _ _ h := h.reports_invalidParams_iff
  logic_error _ _ _ _ h hplain := h.reports_logicError_iff hplain
  internal_error _ _ _ _ h hplain := h.reports_internalError_iff hplain
  plain h := h.plain
  unreadable _ _ h := answer_of_unreadable h
  in_form body := answer_in_form body s
  on_the_web body limit uptime hshort htimely := by
    rw [respond_eq hshort, answer_of_timely htimely]
    rcases answer_in_form body s with hnone | ⟨v, hv, hform⟩
    · rw [hnone]
      exact .inl rfl
    · rw [hv]
      exact .inr ⟨v, hform, rfl⟩

end Rpc

end Switchboard
