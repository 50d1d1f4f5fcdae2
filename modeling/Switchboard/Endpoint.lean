import Switchboard.Error
import Switchboard.Text.Utf8
/-!
# Endpoints and transports

Where a session connects to, how one connection attempt is told from every other, what a transport
reports, and what a session asks of the world around it. A world is any state with answers to the
questions of `Environment`; nothing is assumed about the answers.
-/

namespace Switchboard

structure Target where
  host : String
  port : UInt16
  /-- The user to log in as, if the gateway needs one at once. -/
  username : Option String
  deriving DecidableEq, Repr, Inhabited

/-- The target as `user@host:port`. -/
def Target.describe (target : Target) : String :=
  match target.username with
  | some user => s!"{user}@{target.host}:{target.port}"
  | none => s!"{target.host}:{target.port}"

/-- One connection attempt of the session under `key`. The generation changes with every attempt
and every teardown. -/
structure ConnectionId where
  key : String
  generation : Nat
  deriving DecidableEq, Repr, Inhabited

/-- The id as `key#generation`. -/
def ConnectionId.describe (id : ConnectionId) : String := s!"{id.key}#{id.generation}"

inductive TransportEvent where
  | opened
  | frame (bytes : Bytes)
  | failed (reason : String)
  | closed
  deriving DecidableEq, Repr

/-- What a session asks of a world `σ`. -/
class Environment (σ : Type) where
  /-- Start to open a transport. A grant only means that events may follow. -/
  dial : σ → Target → ConnectionId → Except Error Unit × σ
  /-- Hand a frame to an open transport. -/
  deliver : σ → ConnectionId → Bytes → Except Error Unit × σ
  hangUp : σ → ConnectionId → σ
  /-- The wall clock, in milliseconds since 1970. -/
  wallClock : σ → UInt64

end Switchboard
