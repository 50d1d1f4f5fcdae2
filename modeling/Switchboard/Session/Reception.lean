import Switchboard.Session.Lifecycle
/-!
# Receiving

What a session does with the events of its transport: frames that arrive, the exchange of
credentials, and the probes of either side. Events of any other generation change nothing.
-/

namespace Switchboard

namespace Station

variable {σ : Type} [Environment σ]

def sendCredentials (c : Station σ) (credentials : Json) : Station σ :=
  c.sendAnyway .credentials
    ((Message.authenticate ⟨c.session.remoteId, .credentials credentials⟩).encode none)

/-- The header that answers a probe: its id, its clock and its session id as they came, and our
clock. -/
def pongHeader (ping : Header) (requestId : String) (wall : UInt64) : Header :=
  let echo (name : String) := optionalMember name (KeyMap.find? name ping)
  KeyMap.ofList ((Frame.requestIdField, .str requestId) :: echo Frame.timestampField ++
    echo Frame.sessionIdField ++ [("serverTime", .int wall.toNat)])

/-- Answer the peer's probe, if it has an id. -/
def answerPing (c : Station σ) (ping : Frame) : Station σ :=
  match ping.requestId? with
  | none => c
  | some id =>
    c.sendAnyway .pong (Frame.encodeHeader MessageKind.pong.code
      (pongHeader ping.header id (Environment.wallClock c.world)) none)

/-- What the kind of a frame asks for at once. -/
def attend (c : Station σ) (frame : Frame) (now : Instant) : Station σ :=
  match frame.kind? with
  | some .ping => c.answerPing frame
  | some .pong =>
    match frame.requestId? with
    | some id => c.modify fun s => s.recordPong id now
    | none => c
  | some .connected | some .connectionRegistered =>
    match Frame.stringField? frame.header Frame.sessionIdField with
    | some id => c.modify fun s => { s with remoteId := some id }
    | none => c
  | _ => c

/-- A step of the exchange of credentials. A step out of turn is ignored. -/
def negotiate (c : Station σ) (phase : AuthPhase) : Station σ :=
  match phase with
  | .required _ =>
    if c.session.state = .connected then
      match c.session.config.credentials with
      | some credentials =>
        (c.enter .authenticating none).sendCredentials credentials
      | none => c.enter .needAuth none
    else c
  | .success =>
    if c.session.state = .authenticating then
      (c.enter .connected none).flushQueue
    else c
  | .failure reason =>
    if c.session.state = .authenticating then
      c.failAuth (reason.getD "credentials rejected")
    else c
  | .credentials _ => c

/-- The exchange of credentials, if the message is a step of it. -/
def negotiateMessage (c : Station σ) : Option Message → Station σ
  | some (.authenticate header) => c.negotiate header.phase
  | _ => c

/-- A frame that could be decoded. A header that misses the shape of its kind is no fault. -/
def hear (c : Station σ) (frame : Frame) (now : Instant) : Station σ :=
  let message := (Message.ofFrame frame).toOption.join
  let c := c.modify fun s => s.note (.heard ⟨frame, message⟩)
  ((c.attend frame now).negotiateMessage message).modify fun s => s.complete frame

/-- Bytes that arrived. Only an open connection listens. -/
def receive (c : Station σ) (bytes : Bytes) (now : Instant) : Station σ :=
  if c.session.state.isLive then
    let c := c.modify fun s => s.recordArrival bytes (Environment.wallClock c.world)
    match Frame.decode bytes with
    | .ok frame => c.hear frame now
    | .error _ => c.modify fun s => { s with stats := s.stats.recordDecodeError }
  else c

def handleEvent (c : Station σ) (id : ConnectionId) (event : TransportEvent) (now : Instant) :
    Station σ :=
  if id = c.session.connectionId then
    match event with
    | .opened => c.opened now
    | .frame bytes => c.receive bytes now
    | .failed reason => c.lost reason now
    | .closed => c.lost "closed by peer" now
  else c

end Station

end Switchboard
