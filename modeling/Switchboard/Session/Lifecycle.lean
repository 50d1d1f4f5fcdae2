import Switchboard.Session.Transmission
/-!
# The life of a connection

Attempts, their success and failure, rejected credentials, and the teardown at a caller's wish.
-/

namespace Switchboard

namespace Station

variable {σ : Type} [Environment σ]

/-- An attempt failed, or an open connection was lost. -/
def failAttempt (c : Station σ) (error : Error) (now : Instant) : Station σ :=
  let c := if c.session.state.isLive then c.modify Session.failRequests else c
  let c := c.stopConnection.enter .error (some error)
  c.modify fun s => s.retryOrGiveUp now (Environment.wallClock c.world)

/-- The peer rejected the credentials. Another attempt would not help. -/
def failAuth (c : Station σ) (reason : String) : Station σ :=
  ((c.modify Session.failRequests).stopConnection.modify fun s =>
    s.cancelTimers.discardQueue).enter .error (some (.auth reason))

def beginAttempt (c : Station σ) (state : SessionState) (now : Instant) : Station σ :=
  let c := c.stopConnection.enter state none
  let id := c.session.connectionId
  let target := c.session.target
  match Environment.dial c.world target id with
  | (.ok (), world) => ⟨(c.session.note (.dialled id target true)).plug now, world⟩
  | (.error e, world) =>
    failAttempt ⟨c.session.note (.dialled id target false), world⟩ e now

/-- The transport reports that it is open. -/
def opened (c : Station σ) (now : Instant) : Station σ :=
  if c.session.state.isAttempting then
    (c.modify fun s => s.recordOpened now (Environment.wallClock c.world)).flushQueue
  else c

/-- The transport reports that it is lost. -/
def lost (c : Station σ) (reason : String) (now : Instant) : Station σ :=
  if c.session.state.isAttempting then c.failAttempt (.connect reason) now
  else if c.session.state.isLive then c.failAttempt (.transport reason) now
  else c

/-- Start connecting, with a fresh retry budget. -/
def connect (c : Station σ) (now : Instant) : Station σ :=
  if c.session.state.canConnect then
    (c.modify fun s =>
      { s.cancelRetry with policy := s.policy.reset, lastError := none }).beginAttempt
        .connecting now
  else c

/-- The header of the frame that takes leave. -/
def farewellHeader (s : Session) : Header :=
  match s.remoteId with
  | some id => [(Frame.sessionIdField, .str id)]
  | none => []

/-- Tear the session down: take leave if the transport is open, then close it, give up the frames
held back and settle every request. -/
def disconnect (c : Station σ) : Station σ :=
  if c.session.state.canDisconnect then
    let wasLive := c.session.state.isLive
    let c := c.enter .disconnecting none
    let c :=
      if wasLive then
        c.sendAnyway .farewell
          (Frame.encodeHeader MessageKind.disconnect.code (farewellHeader c.session) none)
      else c
    (c.stopConnection.modify fun s =>
      let s := s.cancelTimers.discardQueue.failRequests
      { s with policy := s.policy.reset }).enter .disconnected none
  else c

/-- Disconnect if there is anything to tear down. -/
def close (c : Station σ) : Station σ :=
  if c.session.state.canDisconnect then c.disconnect
  else (c.modify Session.cancelTimers).stopConnection

end Station

end Switchboard
