/-!
# Health

What probes and a shutdown see of a server: its phase, and how many requests it
is working on. Going down, it waits until there are none, or gives up after a
while; it looks every `Health.interval` milliseconds.
-/

namespace Switchboard

/-- The phases of a server's life. -/
inductive Phase where
  | starting
  | ready
  | draining
  | stopped
  deriving DecidableEq

/-- The name of a phase in reports. -/
def Phase.name : Phase → String
  | .starting => "starting"
  | .ready => "ready"
  | .draining => "draining"
  | .stopped => "stopped"

/-- A server's phase, and how many requests it is working on. -/
structure Health where
  phase : Phase := .starting
  inFlight : Nat := 0

namespace Health

/-- The server can be used. -/
def setReady (h : Health) : Health := { h with phase := .ready }

/-- The server is going down. -/
def beginDrain (h : Health) : Health := { h with phase := .draining }

/-- Work on a request begins. -/
def enter (h : Health) : Health := { h with inFlight := h.inFlight + 1 }

/-- Work on a request is over. -/
def leave (h : Health) : Health := { h with inFlight := h.inFlight - 1 }

/-- How many milliseconds pass between two looks. -/
def interval : Nat := 10

/-- Looks from `elapsed` milliseconds on, when `busy t` requests are worked on
after `t` milliseconds: whether there were none at the last look, and when that
was. -/
def drainFrom (busy : Nat → Nat) (timeout elapsed : Nat) : Bool × Nat :=
  if busy elapsed = 0 then (true, elapsed)
  else if timeout ≤ elapsed then (false, elapsed)
  else drainFrom busy timeout (elapsed + interval)
termination_by timeout - elapsed
decreasing_by simp only [interval]; omega

/-- **Draining.** Waits until no request is worked on, but not beyond the first
look at or after the timeout. The server is stopped if there is none left: whether
it is, after how many milliseconds, and its health then. -/
def waitForDrain (h : Health) (busy : Nat → Nat) (timeout : Nat) : Bool × Nat × Health :=
  let (drained, elapsed) := drainFrom busy timeout 0
  (drained, elapsed,
    { phase := if drained then .stopped else h.phase, inFlight := busy elapsed })

end Health

end Switchboard
