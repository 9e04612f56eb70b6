/-!
# Services that are started and stopped

The parts of a server that have a start and a stop of their own. They are started
in order and stopped in the opposite order; the first failure ends either.
-/

namespace Switchboard

/-- A part of a server with state `σ`, which may fail for a cause `ε`. -/
structure Service (σ ε : Type) where
  name : String
  start : σ → Except ε Unit × σ
  /-- Stops it, at once if asked to terminate. -/
  stop : Bool → σ → Except ε Unit × σ

/-- A service did not start. -/
structure StartFailure (ε : Type) where
  service : String
  cause : ε

/-- The words for a failed start, without those for its cause. -/
def StartFailure.message {ε : Type} (f : StartFailure ε) : String :=
  "failed to initialize `" ++ f.service ++ "`"

namespace Service

variable {σ ε : Type}

/-- Starts services in order, up to the first that fails. -/
def startAll : List (Service σ ε) → σ → Except (StartFailure ε) Unit × σ
  | [], s => (.ok (), s)
  | x :: rest, s =>
    match x.start s with
    | (.ok _, s) => startAll rest s
    | (.error e, s) => (.error ⟨x.name, e⟩, s)

/-- Stops services in order, up to the first that fails. -/
def stopInOrder (terminate : Bool) : List (Service σ ε) → σ → Except ε Unit × σ
  | [], s => (.ok (), s)
  | x :: rest, s =>
    match x.stop terminate s with
    | (.ok _, s) => stopInOrder terminate rest s
    | (.error e, s) => (.error e, s)

/-- Stops services, the last one first, up to the first that fails. -/
def stopAll (terminate : Bool) (services : List (Service σ ε)) (s : σ) : Except ε Unit × σ :=
  stopInOrder terminate services.reverse s

end Service

end Switchboard
