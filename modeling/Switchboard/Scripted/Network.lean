import Switchboard.Endpoint
import Switchboard.Frame
/-!
# A scripted network

A world for rehearsals. It records every attempt to open a transport and every frame that was
handed over, fails on demand, and keeps the events for whoever listens in a mailbox. Its wall clock
stands still.
-/

namespace Switchboard

/-- The answers and the records of a scripted network. -/
structure ScriptedNetwork where
  /-- Every attempt in order, also the refused ones. -/
  dials : List (Target × ConnectionId) := []
  /-- How many of the next attempts are refused. -/
  refuseNext : Nat := 0
  refuseAll : Bool := false
  refuseFrames : Bool := false
  /-- Report every granted transport as open at once. -/
  autoOpen : Bool := false
  /-- Somebody may listen: a mailbox is attached and its reader is there. -/
  listening : Bool := false
  /-- The frames that were taken, in order. -/
  frames : List (ConnectionId × Bytes) := []
  /-- The ids that were closed, in order, each once. -/
  closed : List ConnectionId := []
  /-- The events that nobody has taken out yet. -/
  mailbox : List (ConnectionId × TransportEvent) := []

/-- Seven digits of a number, or as many as it needs. -/
def sevenDigits (n : Nat) : String :=
  let digits := Nat.toDigits 10 n
  String.ofList (List.replicate (7 - digits.length) '0' ++ digits)

/-- The mark that rehearsals give to the session with a serial number. -/
def scriptedMark (serial : Nat) : String := "s" ++ sevenDigits serial

namespace ScriptedNetwork

/-- The reading of the wall clock. -/
def epochMillis : UInt64 := 1700000000000

/-- Put an event into the mailbox. The answer says whether somebody listens. -/
def emit (n : ScriptedNetwork) (id : ConnectionId) (event : TransportEvent) :
    Bool × ScriptedNetwork :=
  if n.listening then (true, { n with mailbox := n.mailbox ++ [(id, event)] }) else (false, n)

def takeMail (n : ScriptedNetwork) : List (ConnectionId × TransportEvent) × ScriptedNetwork :=
  (n.mailbox, { n with mailbox := [] })

/-- Open a transport, unless the script says otherwise. -/
def dial (n : ScriptedNetwork) (target : Target) (id : ConnectionId) :
    Except Error Unit × ScriptedNetwork :=
  let n := { n with dials := n.dials ++ [(target, id)] }
  if n.refuseAll ∨ 0 < n.refuseNext then
    (.error (.connect s!"mock refused {target.describe}"), { n with refuseNext := n.refuseNext - 1 })
  else (.ok (), if n.autoOpen then (n.emit id .opened).2 else n)

/-- Take a frame, unless the transport is closed or the script says otherwise. -/
def deliver (n : ScriptedNetwork) (id : ConnectionId) (bytes : Bytes) :
    Except Error Unit × ScriptedNetwork :=
  if id ∈ n.closed then (.error .connectionClosed, n)
  else if n.refuseFrames then (.error (.transport "mock send failure"), n)
  else (.ok (), { n with frames := n.frames ++ [(id, bytes)] })

def hangUp (n : ScriptedNetwork) (id : ConnectionId) : ScriptedNetwork :=
  if id ∈ n.closed then n else { n with closed := n.closed ++ [id] }

instance : Environment ScriptedNetwork where
  dial := dial
  deliver := deliver
  hangUp := hangUp
  wallClock _ := epochMillis

def dialledIds (n : ScriptedNetwork) : List ConnectionId := n.dials.map Prod.snd

def lastId? (n : ScriptedNetwork) : Option ConnectionId := n.dialledIds.getLast?

def framesOf (n : ScriptedNetwork) (id : ConnectionId) : List Bytes :=
  n.frames.filterMap fun (owner, bytes) => if owner = id then some bytes else none

/-- The frames of every attempt, in the order of the attempts. -/
def allFrames (n : ScriptedNetwork) : List (ConnectionId × Frame) :=
  n.dialledIds.flatMap fun id =>
    (n.framesOf id).filterMap fun bytes => (Frame.decode bytes).toOption.map (id, ·)

/-- The generation of the last attempt under a key, zero if there was none. -/
def lastGeneration (n : ScriptedNetwork) (key : String) : Nat :=
  match n.dialledIds.reverse.find? fun id => id.key = key with
  | some id => id.generation
  | none => 0

/-- The last frame with a request id that a transport took. -/
def lastRequest? (n : ScriptedNetwork) (id : ConnectionId) : Option (Frame × String) :=
  (n.framesOf id).reverse.findSome? fun bytes => do
    let frame ← (Frame.decode bytes).toOption
    return (frame, ← frame.requestId?)

end ScriptedNetwork

end Switchboard
