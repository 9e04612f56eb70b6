import Switchboard.Server.Basic
/-!
# Remote calls

The body of a request holds one call, or a batch of calls that are carried out in
order. Every entry is answered by a response with the entry's id; a call without id
is carried out and not answered. A request may have a limited time: when a call
would wait beyond it, the rest is given up.
-/

namespace Switchboard

namespace Rpc

/-! ## Requests and responses -/

/-- The version of the protocol, which every entry names. -/
def version : String := "2.0"

/-- A call as an entry asks for it. -/
structure Request where
  id : Option Json
  method : String
  params : Json

/-- Why an entry is no request, and the id to answer to. -/
structure Invalid where
  id : Json
  reason : String

/-- The request that an entry makes. -/
def Request.ofJson (entry : Json) : Except Invalid Request :=
  match entry with
  | .object fields =>
    let id := fields.lookup "id"
    let invalid (reason : String) : Except Invalid Request := .error ⟨id.getD .null, reason⟩
    match fields.lookup "jsonrpc", fields.lookup "method" with
    | some (.string v), method =>
      if v = version then
        match method with
        | some (.string m) => .ok ⟨id, m, (fields.lookup "params").getD .null⟩
        | _ => invalid "method must be a string"
      else invalid ("jsonrpc must be \"" ++ version ++ "\"")
    | _, _ => invalid ("jsonrpc must be \"" ++ version ++ "\"")
  | _ => .error ⟨.null, "request must be an object"⟩

/-- The codes of errors. -/
def parseError : Int := -32700
def invalidRequest : Int := -32600
def methodNotFound : Int := -32601
def invalidParams : Int := -32602
def internalError : Int := -32603
def logicError : Int := -32000
def unavailable : Int := -32001

/-- The code that a failed call is answered with. -/
def codeOf : CallError → Int
  | .unknownOperation _ => methodNotFound
  | .missingParameter .. => invalidParams
  | .invalidParameter .. => invalidParams
  | .invalidParams .. => invalidParams
  | .evaluation _ => logicError
  | .timedOut _ => unavailable
  | .overloaded => unavailable
  | .duplicateOperation _ => internalError
  | .internal _ => internalError

/-- A response to an id, with one more field. -/
def response (id : Json) (name : String) (content : Json) : Json :=
  .ofFields [("jsonrpc", .string version), ("id", id), (name, content)]

/-- The response that reports an error. -/
def errorResponse (id : Json) (code : Int) (message : String) : Json :=
  response id "error" (.ofFields [("code", .ofInt code), ("message", .string message)])

/-- The response to a call. -/
def respond (id : Json) : Except CallError Json → Json
  | .ok v => response id "result" v
  | .error e => errorResponse id (codeOf e) e.message

/-! ## Carrying out -/

/-- Work on a request by a server; there is no result when its time is up. -/
abbrev Work (α : Type) := OptionT (StateM Server) α

/-- Does to the server whatever a function does. -/
def act {α : Type} (f : Server → α × Server) : Work α := OptionT.lift (modifyGet f)

/-- A call, as long as it takes no longer than up to the end of the request's
time. -/
def call (limit : Option Nat) (method : String) (params : Json) :
    Work (Except CallError Json) := do
  let outcome ← act (·.call method params)
  let s ← get
  match limit with
  | none => return outcome
  | some limit =>
    if s.clock.now ≤ limit then return outcome
    else
      set { s with clock := { s.clock with now := limit } }
      OptionT.fail

/-- Carries out an entry, and gives the response if there is to be one. -/
def answerEntry (limit : Option Nat) (entry : Json) : Work (Option Json) := do
  match Request.ofJson entry with
  | .error e => return some (errorResponse e.id invalidRequest e.reason)
  | .ok request =>
    let outcome ← call limit request.method request.params
    return request.id.map (respond · outcome)

/-- Carries out entries in order, and gives the responses there are to be. -/
def answerEntries (limit : Option Nat) : List Json → Work (List Json)
  | [] => return []
  | entry :: rest => do
    let answer ← answerEntry limit entry
    return answer.toList ++ (← answerEntries limit rest)

/-- Carries out what a body asks for; there may be nothing to answer. -/
def answerBody (limit : Option Nat) (body : List UInt8) : Work (Option Json) := do
  match Json.parseSource (.ofBytes body) with
  | .error message => return some (errorResponse .null parseError message)
  | .ok (.array []) => return some (errorResponse .null invalidRequest "empty batch")
  | .ok (.array entries) =>
    let answers ← answerEntries limit entries
    return if answers.isEmpty then none else some (.array answers)
  | .ok entry => answerEntry limit entry

/-- **Answers a request.** It counts as work of the server from beginning to end;
`none` means that its time was up, and `some none` that there is nothing to
answer. -/
def answer (limit : Option Nat) (body : List UInt8) (s : Server) :
    Option (Option Json) × Server :=
  let (result, s) := (answerBody limit body).run { s with health := s.health.enter }
  (result, { s with health := s.health.leave })

end Rpc

end Switchboard
