import Switchboard.Session.Basic
/-!
# Sending

A `Station` is a session together with the world it acts on. This module opens and closes
transports, hands frames over and holds them back: whatever changes both halves on the way out.
-/

namespace Switchboard

/-- A session and the world around it. -/
structure Station (σ : Type) where
  session : Session
  world : σ

namespace Station

variable {σ : Type}

def modify (c : Station σ) (f : Session → Session) : Station σ :=
  { c with session := f c.session }

variable [Environment σ]

/-- Enter a state now. -/
def enter (c : Station σ) (state : SessionState) (error : Option Error) : Station σ :=
  c.modify fun s => s.enter state error (Environment.wallClock c.world)

/-- Close the transport, if there is one, and retire the generation. -/
def stopConnection (c : Station σ) : Station σ where
  session := c.session.unplug
  world := match c.session.transport with
    | some id => Environment.hangUp c.world id
    | none => c.world

def sendDirect (c : Station σ) (packet : Packet) : Except Error Unit × Station σ :=
  match c.session.transport with
  | none => (.error .connectionClosed, c)
  | some id =>
    match Environment.deliver c.world id packet.bytes with
    | (.error e, world) => (.error e, { c with world })
    | (.ok (), world) =>
      (.ok (), ⟨c.session.recordDelivery id packet (Environment.wallClock world), world⟩)

/-- Hand a frame over if it could be written, and let it go if not or if nobody takes it. -/
def sendAnyway (c : Station σ) (purpose : Purpose) (bytes : Except Error Bytes) : Station σ :=
  match bytes with
  | .ok bytes => (c.sendDirect ⟨purpose, bytes⟩).2
  | .error _ => c

/-- Hand frames over in order until one is refused: those that are left. -/
def sendAll : List Packet → Station σ → List Packet × Station σ
  | [], c => ([], c)
  | packet :: rest, c =>
    match c.sendDirect packet with
    | (.ok (), c) => sendAll rest c
    | (.error _, c) => (packet :: rest, c)

/-- Hand over what was held back, as far as the transport takes it. -/
def flushQueue (c : Station σ) : Station σ :=
  let (rest, c) := sendAll c.session.queue c
  c.modify fun s => { s with queue := rest }

/-- Take a frame from a caller: hand it over, hold it back, or refuse it. -/
def submit (c : Station σ) (packet : Packet) : Except Error Unit × Station σ :=
  let hold (c : Station σ) := c.modify fun s => s.enqueue packet
  let accept (c : Station σ) : Except Error Unit × Station σ :=
    (.ok (), c.modify fun s => s.note (.accepted packet))
  match c.session.state with
  | .connected =>
    if c.session.queue.isEmpty then
      match c.sendDirect packet with
      | (.ok (), c) => accept c
      | (.error e, c) => (.error e, c)
    else accept (hold c).flushQueue
  | .connecting | .reconnecting | .reconnected | .needAuth | .authenticating => accept (hold c)
  | .error =>
    if c.session.retryScheduled then accept (hold c) else (.error .connectionClosed, c)
  | .idle | .disconnecting | .disconnected => (.error .connectionClosed, c)

end Station

end Switchboard
