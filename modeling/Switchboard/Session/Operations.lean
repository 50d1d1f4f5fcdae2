import Switchboard.Session.Reception
/-!
# Operations of callers and clocks

Sending frames and requests, supplying credentials, and running the timers that are due.
-/

namespace Switchboard

namespace Station

variable {σ : Type} [Environment σ]

/-- Supply the credentials that the peer asked for. -/
def authenticate (c : Station σ) (credentials : Json) : Station σ :=
  if c.session.state = .needAuth then
    (c.enter .authenticating none).sendCredentials credentials
  else c

/-- Take a frame from a caller if it could be written. -/
def submitBytes (c : Station σ) (purpose : Purpose) (bytes : Except Error Bytes) :
    Except Error Unit × Station σ :=
  match bytes with
  | .ok bytes => c.submit ⟨purpose, bytes⟩
  | .error e => (.error e, c)

/-- Send a frame with a header of any type, given as what came of making a JSON value of it. -/
def send (c : Station σ) (code : UInt8) (header : Except String Json) (payload : Option Bytes) :
    Except Error Unit × Station σ :=
  c.submitBytes .submission (Frame.encodeSerialized code header payload)

def sendMessage (c : Station σ) (message : Message) (payload : Option Bytes) :
    Except Error Unit × Station σ :=
  c.submitBytes .submission (message.encode payload)

/-- Send a frame that expects an answer, and return the id that was written into its header. The
first frame with that id which is no progress report settles the request. -/
def request (c : Station σ) (code : UInt8) (header : Header) (payload : Option Bytes)
    (now : Instant) : Except Error String × Station σ :=
  let id := c.session.requests.nextId
  let c := c.modify fun s => { s with requests := s.requests.advance }
  let header := KeyMap.insert Frame.requestIdField (.str id) header
  match c.submitBytes (.request id) (Frame.encodeHeader code header payload) with
  | (.error e, c) => (.error e, c)
  | (.ok (), c) => (.ok id, c.modify fun s => { s with requests := s.requests.insert id code now })

/-! ## Timers -/

/-- Give up on an attempt that takes too long. -/
def pollConnect (c : Station σ) (now : Instant) : Station σ :=
  let slot := c.session.timers.connect
  let c := c.modify fun s =>
    { s with timers := { s.timers with connect := slot.afterTake now } }
  if (slot.due? now c.session.generation).isSome ∧ c.session.state.isAttempting then
    c.failAttempt
      (.connect s!"timed out after {c.session.config.connectTimeout.millis} ms") now
  else c

/-- A tick: settle old requests, then send the next probe or find that the last one failed. -/
def heartbeatTick (c : Station σ) (now : Instant) : Station σ :=
  if c.session.state.isLive then
    let c := c.modify fun s => s.expireRequests now
    let id := c.session.requests.nextId
    let (tick, heartbeat) :=
      c.session.heartbeat.tick now id (Environment.wallClock c.world) c.session.remoteId
    let c := c.modify fun s => { s with requests := s.requests.advance, heartbeat }
    match tick with
    | .ping header =>
      (c.sendAnyway .ping (Frame.encodeHeader MessageKind.ping.code
        (KeyMap.ofList header.members) none)).modify fun s => s.scheduleTick now
    | .timedOut _ _ => c.failAttempt .heartbeatTimeout now
  else c

def pollHeartbeat (c : Station σ) (now : Instant) : Station σ :=
  let slot := c.session.timers.heartbeat
  let c := c.modify fun s =>
    { s with timers := { s.timers with heartbeat := slot.afterTake now } }
  if (slot.due? now c.session.generation).isSome then c.heartbeatTick now else c

def pollRetry (c : Station σ) (now : Instant) : Station σ :=
  let slot := c.session.timers.retry
  let c := c.modify fun s =>
    { s with timers := { s.timers with retry := slot.afterTake now } }
  if (slot.due? now c.session.generation).isSome ∧ c.session.state = .error then
    c.beginAttempt (if c.session.hasConnected then .reconnecting else .connecting) now
  else c

def pollTimers (c : Station σ) (now : Instant) : Station σ :=
  ((c.pollConnect now).pollHeartbeat now).pollRetry now

end Station

end Switchboard
