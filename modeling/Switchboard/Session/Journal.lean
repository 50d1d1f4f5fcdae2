import Switchboard.Endpoint
import Switchboard.Message.Basic
import Switchboard.Session.State
/-!
# The journal of a session

Everything a session does that anyone else can notice is an `Act`, and the acts stand in its
journal in the order in which they happened: states entered, transports opened and closed, frames
handed over, lost and heard, requests settled. Whoever owns the session drains the journal and
passes on what others wait for.
-/

namespace Switchboard

inductive Purpose where
  /-- A caller sent it. -/
  | submission
  /-- A caller sent it and awaits the answer with this id. -/
  | request (id : String)
  | ping
  | pong
  | credentials
  | farewell
  deriving DecidableEq, Repr

namespace Purpose

/-- The frame comes from a caller and not from the session itself. -/
def isSubmitted : Purpose → Bool
  | submission | request _ => true
  | _ => false

end Purpose

/-- A frame on its way out. -/
structure Packet where
  purpose : Purpose
  bytes : Bytes
  deriving DecidableEq, Repr

/-- A state was entered. -/
structure StatusEvent where
  key : String
  target : Target
  state : SessionState
  /-- What led there, if it was a failure. -/
  error : Option Error
  /-- The wall clock at that time. -/
  timestamp : UInt64
  deriving DecidableEq, Repr

/-- A frame that arrived and could be decoded. -/
structure Inbound where
  frame : Frame
  /-- The header in the shape of its kind, if it has a kind and fits it. -/
  message : Option Message

structure Outcome where
  requestId : String
  result : Except Error Frame

/-- Something a session did. -/
inductive Act where
  | entered (event : StatusEvent)
  /-- It asked for a transport, and the request was granted or refused. -/
  | dialled (id : ConnectionId) (target : Target) (granted : Bool)
  | hungUp (id : ConnectionId)
  | accepted (packet : Packet)
  /-- It handed a frame to a transport, which took it. -/
  | delivered (id : ConnectionId) (packet : Packet)
  /-- It gave up a frame for which the queue had no room. -/
  | dropped (packet : Packet)
  /-- It gave up the frames that were held back. -/
  | discarded (packets : List Packet)
  | heard (inbound : Inbound)
  | settled (outcome : Outcome)

namespace Act

def status? : Act → Option StatusEvent
  | entered event => some event
  | _ => none

def outcome? : Act → Option Outcome
  | settled outcome => some outcome
  | _ => none

def inbound? : Act → Option Inbound
  | heard inbound => some inbound
  | _ => none

end Act

end Switchboard
