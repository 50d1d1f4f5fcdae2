import Switchboard.Session.Basic
import Switchboard.Text.Quoted
/-!
# Snapshots

What others may see of a session at one moment, and its one-line description.
-/

namespace Switchboard

structure Snapshot where
  key : String
  target : Target
  state : SessionState
  /-- Which of the sessions under the key it was taken of. -/
  serial : Nat
  generation : Nat
  /-- Failures in a row since the last success. -/
  attempts : Nat
  lastActivity : Option UInt64
  lastError : Option Error
  /-- Requests without an answer, and the probe if there is one. -/
  pending : Nat
  queued : Nat
  retryScheduled : Bool
  stats : Stats
  deriving DecidableEq, Repr

namespace Snapshot

def isConnected (s : Snapshot) : Bool := s.state = .connected

/-- The session will get nowhere without a caller. -/
def isParked (s : Snapshot) : Bool :=
  match s.state with
  | .disconnected | .needAuth => true
  | .error => !s.retryScheduled
  | _ => false

end Snapshot

/-- The target with its field names. -/
def Target.debugText (t : Target) : String :=
  let username := match t.username with
    | some user => s!"Some({quoted user})"
    | none => "None"
  s!"Target \x7b host: {quoted t.host}, port: {t.port}, username: {username} \x7d"

namespace Session

def snapshot (s : Session) : Snapshot where
  key := s.key
  target := s.target
  state := s.state
  serial := s.serial
  generation := s.generation
  attempts := s.policy.attempts.toNat
  lastActivity := s.lastActivity
  lastError := s.lastError
  pending := s.requests.count + if s.heartbeat.probe.isSome then 1 else 0
  queued := s.queue.length
  retryScheduled := s.retryScheduled
  stats := s.stats

/-- The session with the names of its main fields. -/
def debugText (s : Session) : String :=
  s!"ConnectionSession \x7b key: {quoted s.key}, target: {s.target.debugText}, " ++
    s!"state: {s.state.label}, generation: {s.generation}, queued: {s.queue.length}, " ++
    s!"pending_requests: {s.requests.count}, .. \x7d"

end Session

end Switchboard
