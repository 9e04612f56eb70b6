import Switchboard.Server.Rpc
/-!
# The web interface

A server is reached at four paths: remote calls are posted to one, and three report
its health. Every response says which origins may read it. Requests have a limited
time, and an identifier that a request carries is repeated in the response.
-/

namespace Switchboard

namespace Http

/-! ## Messages -/

/-- A request. The target is a path, with a query behind it if there is one. -/
structure Request where
  method : String
  target : String
  headers : List (String × String) := []
  body : List UInt8 := []

/-- A response. -/
structure Response where
  status : Nat
  headers : List (String × String) := []
  body : String := ""

/-- The value of a header, whose name may be written in either case. -/
def Request.header? (r : Request) (name : String) : Option String :=
  (r.headers.find? fun h => h.1.map Char.toLower = name).map (·.2)

/-- The path of a target. -/
def Request.path (r : Request) : String :=
  String.ofList (r.target.toList.takeWhile fun c => c ≠ '?' ∧ c ≠ '#')

/-- A response that holds a value. -/
def Response.json (v : Json) : Response := ⟨200, [("content-type", "application/json")], v.text⟩

/-- A response of a status alone. -/
def Response.ofStatus (status : Nat) : Response where
  status := status

/-- A header set in a response. -/
def Response.withHeader (r : Response) (name value : String) : Response :=
  { r with headers := r.headers ++ [(name, value)] }

/-! ## Endpoints -/

/-- What a server is asked for. -/
inductive Endpoint where
  | remoteCalls
  | health
  | live
  | ready
  deriving DecidableEq

/-- The endpoints by their paths. -/
def endpoints : List (String × Endpoint) :=
  [("/jsonrpc", .remoteCalls), ("/health", .health), ("/health/live", .live),
   ("/health/ready", .ready)]

/-- The methods of an endpoint. -/
def Endpoint.methods : Endpoint → List String
  | .remoteCalls => ["POST"]
  | _ => ["GET", "HEAD"]

/-- Names in one header. -/
def commaSeparated (names : List String) : String := String.intercalate "," names

/-- The report on a server's health. -/
def healthReport (uptimeSeconds : Nat) (s : Server) : Json :=
  .ofFields [("state", .string s.health.phase.name),
    ("operations", .ofNat s.registry.size),
    ("custom_operations", .ofNat s.loader.installed.length),
    ("in_flight", .ofNat s.health.inFlight),
    ("rejected_operations", .ofNat s.admission.rejected),
    ("uptime_secs", .ofNat uptimeSeconds)]

/-- The most bytes that a body may have. -/
def bodyLimit : Nat := 2097152

/-- What an endpoint answers, unless the time given is up first. -/
def respond (uptimeSeconds limit : Nat) (body : List UInt8) (e : Endpoint) (s : Server) :
    Option Response × Server :=
  match e with
  | .live => (some (.ofStatus 200), s)
  | .ready => (some (.ofStatus (if s.health.phase = .ready then 200 else 503)), s)
  | .health => (some (.json (healthReport uptimeSeconds s)), s)
  | .remoteCalls =>
    if bodyLimit < body.length then
      (some ⟨413, [("content-type", "text/plain; charset=utf-8")],
        "Failed to buffer the request body: length limit exceeded"⟩, s)
    else match Rpc.answer (some limit) body s with
      | (none, s) => (none, s)
      | (some none, s) => (some (.ofStatus 204), s)
      | (some (some v), s) => (some (.json v), s)

/-! ## Around the endpoints -/

/-- The name of the header that identifies a request. -/
def requestId : String := "x-request-id"

/-- Whether a text can stand in a header. -/
def isHeaderText (text : String) : Bool :=
  text.all fun c => c = '\t' || (0x20 ≤ c.toNat && c.toNat < 0x7f)

/-- The origin that a response names as allowed to read it. -/
def allowedOrigin? (origins : List String) (r : Request) : Option String :=
  if origins.contains "*" then some "*"
  else (r.header? "origin").filter (origins.filter isHeaderText).contains

/-- A response with what browsers must know of it. -/
def shared (origins : List String) (r : Request) (x : Response) : Response :=
  let x := x.withHeader "vary"
    "origin, access-control-request-method, access-control-request-headers"
  match allowedOrigin? origins r with
  | some origin => x.withHeader "access-control-allow-origin" origin
  | none => x

/-- A response without its body. -/
def Response.bodiless (x : Response) : Response := { x with body := "" }

/-- The answer to a browser that asks what it may do. -/
def preflight (r : Request) : Response :=
  let x : Response := ⟨200, [("access-control-allow-methods", "GET,POST,OPTIONS"),
    ("access-control-allow-headers", "content-type")], ""⟩
  match endpoints.lookup r.path with
  | some e => x.withHeader "allow" (commaSeparated e.methods)
  | none => x

/-- The answer to a request at its path, unless the server's time is up first. -/
def dispatch (uptimeSeconds limit : Nat) (r : Request) (s : Server) :
    Option Response × Server :=
  match endpoints.lookup r.path with
  | none => (some (.ofStatus 404), s)
  | some e =>
    if e.methods.contains r.method then
      let (x, s) := respond uptimeSeconds limit r.body e s
      (if r.method = "HEAD" then x.map Response.bodiless else x, s)
    else (some ((Response.ofStatus 405).withHeader "allow" (commaSeparated e.methods)), s)

/-- **Answers a request.** -/
def answer (uptimeSeconds : Nat) (r : Request) (s : Server) : Response × Server :=
  if r.method = "OPTIONS" then (shared s.settings.origins r (preflight r), s)
  else
    let (x, s) := dispatch uptimeSeconds (s.clock.now + s.settings.requestTimeout) r s
    let x := match x, r.header? requestId with
      | some x, some id => x.withHeader requestId id
      | some x, none => x
      | none, _ => .ofStatus 408
    (shared s.settings.origins r x, s)

end Http

end Switchboard
