import Switchboard.Message.Header
import Switchboard.Time
/-!
# Heartbeat

At most one probe is under way. Each tick sends the next one, or reports that the last one stayed
without an answer for a whole interval, so a silent peer is noticed between one and two intervals
after its last answer.
-/

namespace Switchboard

/-- A probe without an answer so far. -/
structure Probe where
  requestId : String
  /-- The wall clock at sending, which the peer echoes. -/
  sentWall : UInt64
  sentAt : Instant
  deriving DecidableEq, Repr

/-- The liveness watch over one connection. -/
structure Heartbeat where
  interval : Duration
  probe : Option Probe := none
  running : Bool := false
  deriving DecidableEq, Repr

/-- What a tick asks for. -/
inductive Tick where
  | ping (header : PingHeader)
  /-- The last probe went unanswered for the given time. -/
  | timedOut (requestId : String) (outstanding : Duration)
  deriving DecidableEq, Repr

namespace Heartbeat

/-- Watch a connection that has just opened. -/
def start (h : Heartbeat) : Heartbeat := { h with probe := none, running := true }

/-- When the tick after `now` is due. -/
def nextTick (h : Heartbeat) (now : Instant) : Instant := now + h.interval

/-- Forget the connection. -/
def stop (h : Heartbeat) : Heartbeat := { h with probe := none, running := false }

/-- A tick. The id, the wall clock and the session id are for a new probe. -/
def tick (h : Heartbeat) (now : Instant) (requestId : String) (wall : UInt64)
    (sessionId : Option String) : Tick × Heartbeat :=
  match h.probe with
  | some stale =>
    (.timedOut stale.requestId (now.since stale.sentAt), { h with probe := none, running := false })
  | none =>
    (.ping ⟨sessionId, requestId, some wall⟩, { h with probe := some ⟨requestId, wall, now⟩ })

/-- An answer with the given id: the round trip, if it answers the probe under way. -/
def answer (h : Heartbeat) (requestId : String) (now : Instant) : Option Duration × Heartbeat :=
  match h.probe with
  | some probe =>
    if probe.requestId = requestId then (some (now.since probe.sentAt), { h with probe := none })
    else (none, h)
  | none => (none, h)

end Heartbeat

end Switchboard
