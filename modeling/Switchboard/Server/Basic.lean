import Switchboard.Definitions.Loader
import Switchboard.Server.Health
import Switchboard.Server.Lifecycle
import Switchboard.Text.Utf8
import Switchboard.Toolbox.Standard
import Switchboard.Traffic.Flight
/-!
# The server

A server has a registry with the standard operations, a loader for custom ones,
permits for calls, and its health. Custom operations are installed when it starts
and removed when it shuts down (`Server.start`, `Server.shutdown`). Every call gets a
number and passes admission and a time limit (`Server.call`).

Time is a value: a clock that moves as calls wait. The `i`-th look of any call sees
the registry as it is then, and the `i`-th of the server's random bits.
-/

namespace Switchboard

/-- What was found where custom operations are defined. -/
inductive DefinitionsFile where
  /-- No file is named, or there is none. -/
  | absent
  /-- The file cannot be read. -/
  | unreadable (path reason : String)
  | found (path : String) (content : List UInt8)

/-- How a server is set up. Times are in milliseconds. -/
structure Settings where
  title : String := "Dev Tools"
  version : String := "0.1.0"
  definitions : DefinitionsFile := .absent
  callTimeout : Nat := 30000
  maxConcurrentCalls : Nat := 1000
  requestTimeout : Nat := 60000
  origins : List String := ["*"]

/-- The state of a server. -/
structure Server where
  settings : Settings
  randomBits : Nat → Nat
  registry : Registry
  loader : Loader := {}
  admission : Admission
  nextCallId : Nat := 1
  health : Health := {}
  clock : Task.Clock := {}

namespace Server

/-- A server that has not been started: only standard operations are there. -/
def new (settings : Settings) (randomBits : Nat → Nat) : Server where
  settings := settings
  randomBits := randomBits
  registry := Toolbox.registry ⟨settings.title, settings.version⟩
  admission := .ofLimit settings.maxConcurrentCalls

/-- What the `i`-th look of a call sees. -/
def see (s : Server) (i : Nat) : Moment := ⟨s.registry, s.randomBits i⟩

/-- Runs a task to its end, without permit or time limit. -/
def run {α : Type} (s : Server) (task : Task Moment α) : α × Server :=
  let (x, clock) := task.run s.see s.clock
  (x, { s with clock := clock })

/-- Time passes. -/
def advance (s : Server) (milliseconds : Nat) : Server :=
  { s with clock := s.clock.after milliseconds }

/-! ## Custom operations -/

/-- Installs the definitions of a document. -/
def load (text : String) (s : Server) : Except LoadError Nat × Server :=
  let (result, loader, registry) := s.loader.load s.registry text
  (result, { s with loader := loader, registry := registry })

/-- Removes all custom operations: how many there were. -/
def teardown (s : Server) : Nat × Server :=
  let (n, loader, registry) := s.loader.teardown s.registry
  (n, { s with loader := loader, registry := registry })

/-- Installs the definitions of a file, if there is one. -/
def loadFile (s : Server) : Except LoadError Nat × Server :=
  match s.settings.definitions with
  | .absent => (.ok 0, s)
  | .unreadable path reason => (.error (.unreadable path reason), s)
  | .found path content =>
    match Text.ofBytes? content with
    | some text => s.load text
    | none => (.error (.unreadable path "stream did not contain valid UTF-8"), s)

/-- The service that keeps the custom operations of the server's file. -/
def customOperations : Service Server LoadError where
  name := "custom-operations"
  start s := let (result, s) := s.loadFile; (result.map fun _ => (), s)
  stop _ s := (.ok (), s.teardown.2)

/-- The services of a server. -/
def services : List (Service Server LoadError) := [customOperations]

/-- **Starts the server's services.** -/
def start (s : Server) : Except (StartFailure LoadError) Unit × Server := Service.startAll services s

/-- **Stops the server's services.** -/
def shutdown (terminate : Bool) (s : Server) : Except LoadError Unit × Server :=
  Service.stopAll terminate services s

/-! ## Calls -/

/-- The number of the next call. -/
def takeCallId (s : Server) : Nat × Server := (s.nextCallId, { s with nextCallId := s.nextCallId + 1 })

/-- Makes a call; admission is decided, and nothing of it runs yet. -/
def makeCall (guards : Guards) (timeout : Nat) (method : String) (params : Json) (s : Server) :
    Flight × Server :=
  let (f, a) := Flight.make guards s.admission timeout (dispatch method params)
  (f, { s with admission := a })

/-- A call is over, finished or given up. -/
def endCall (f : Flight) (s : Server) : Server := { s with admission := f.giveBack s.admission }

/-- Makes a call and runs it for the first time: its result, or the call asleep. -/
def beginCall (guards : Guards) (timeout : Nat) (method : String) (params : Json) (s : Server) :
    (Except CallError Json ⊕ Flight) × Server :=
  let (f, s) := s.makeCall guards timeout method params
  let (progress, clock) := f.start s.see s.clock
  let s := { s with clock := clock }
  match progress with
  | .inl outcome => (.inl outcome, s.endCall f)
  | .inr f => (.inr f, s)

/-- Runs a call to its end. -/
def awaitCall (f : Flight) (s : Server) : Except CallError Json × Server :=
  let (outcome, clock) := f.finish s.see s.clock
  (outcome, { s with clock := clock }.endCall f)

/-- **An ordinary call:** it gets a number, and passes both guards. -/
def call (method : String) (params : Json) (s : Server) : Except CallError Json × Server :=
  let (_, s) := s.takeCallId
  let (f, s) := s.makeCall .full s.settings.callTimeout method params
  s.awaitCall f

end Server

end Switchboard
