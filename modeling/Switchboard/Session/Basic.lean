import Switchboard.Session.Heartbeat
import Switchboard.Session.Journal
import Switchboard.Session.Requests
import Switchboard.Session.RetryPolicy
import Switchboard.Session.Stats
import Switchboard.Session.Timers
/-!
# Sessions

A session is one logical connection to a target: the transport it holds, the probes, the retry
budget, the frames held back and the requests outstanding. It does nothing by itself; events and
instants are handed in, and what it does stands in its journal. Every attempt and every teardown
gets a new generation, by which events and deadlines of an earlier one are told apart.

This module holds the type and the steps that need nothing from the world.
-/

namespace Switchboard

/-- The state of one logical connection. -/
structure Session where
  key : String
  target : Target
  config : SessionConfig
  /-- The number of the session among all that its owner ever created. -/
  serial : Nat
  state : SessionState
  generation : Nat
  /-- The transport that is open or opening. -/
  transport : Option ConnectionId
  policy : RetryPolicy
  heartbeat : Heartbeat
  requests : Requests
  timers : Timers
  /-- The frames held back, the oldest first. -/
  queue : List Packet
  stats : Stats
  /-- The wall clock when a frame was last sent or received. -/
  lastActivity : Option UInt64
  lastError : Option Error
  /-- An attempt has succeeded, so later ones are reconnections. -/
  hasConnected : Bool
  /-- The id that the gateway assigned. -/
  remoteId : Option String
  journal : List Act

namespace Session

/-- A session that has never connected, goes on counting generations from the given one, and starts
the ids of its requests with the given mark. -/
def create (key : String) (target : Target) (config : SessionConfig)
    (generation serial : Nat) (mark : String) : Session where
  key
  target
  config
  serial
  state := .idle
  generation
  transport := none
  policy := .ofConfig config.reconnect
  heartbeat := { interval := config.heartbeatInterval }
  requests := .ofMark mark
  timers := .idle
  queue := []
  stats := {}
  lastActivity := none
  lastError := none
  hasConnected := false
  remoteId := none
  journal := []

/-- The transport that the session holds, or would hold if it held one. -/
def connectionId (s : Session) : ConnectionId := ⟨s.key, s.generation⟩

def nextDeadline (s : Session) : Option Instant := s.timers.nextDeadline

def retryScheduled (s : Session) : Bool := s.timers.retry.isArmed

def note (s : Session) (act : Act) : Session := { s with journal := s.journal ++ [act] }

def drained (s : Session) : Session := { s with journal := [] }

/-- Enter a state. A failure that led there is remembered as the last one. -/
def enter (s : Session) (state : SessionState) (error : Option Error) (wall : UInt64) : Session :=
  { s with state, lastError := error.or s.lastError }.note
    (.entered ⟨s.key, s.target, state, error, wall⟩)

def settle (s : Session) (id : String) (result : Except Error Frame) : Session :=
  { s with requests := s.requests.erase id }.note (.settled ⟨id, result⟩)

/-- Settle every outstanding request with an error. -/
def failRequests (s : Session) : Session :=
  s.requests.ids.foldl (fun s id => s.settle id (.error .connectionClosed)) s

/-- Settle the requests that have waited too long. -/
def expireRequests (s : Session) (now : Instant) : Session :=
  (s.requests.expired now s.config.requestTimeout).foldl
    (fun s id => s.settle id (.error (.requestTimeout id))) s

/-- Give up the frames held back. -/
def discardQueue (s : Session) : Session :=
  if s.queue.isEmpty then s else { s with queue := [] }.note (.discarded s.queue)

def drop (s : Session) (packet : Packet) : Session :=
  { s with stats := s.stats.recordDropped }.note (.dropped packet)

/-- Give up the oldest frames held back until fewer than `room` are left. -/
def makeRoom (room : Nat) : List Packet → Session → Session
  | [], s => { s with queue := [] }
  | packet :: rest, s =>
    if (packet :: rest).length < room then { s with queue := packet :: rest }
    else makeRoom room rest (s.drop packet)

/-- Hold a frame back. The oldest ones make room for it; without any room it is given up. -/
def enqueue (s : Session) (packet : Packet) : Session :=
  let room := s.config.maxQueuedFrames.toNat
  if room = 0 then s.drop packet
  else
    let s := makeRoom room s.queue s
    { s with queue := s.queue ++ [packet] }

def cancelTimers (s : Session) : Session := { s with timers := .idle }

def cancelRetry (s : Session) : Session := { s with timers := { s.timers with retry := none } }

/-- Let go of the transport: its timers, its probes and its generation end with it. -/
def unplug (s : Session) : Session :=
  let s := { s with
    timers := { s.timers with heartbeat := none, connect := none }
    heartbeat := s.heartbeat.stop
    generation := s.generation + 1 }
  match s.transport with
  | some id => { s with transport := none }.note (.hungUp id)
  | none => s

/-- Take hold of the transport that opens, for as long as an attempt may last. -/
def plug (s : Session) (now : Instant) : Session :=
  { s with
    transport := some s.connectionId
    timers := { s.timers with
      connect := some ⟨.connectTimeout, now + s.config.connectTimeout, s.generation⟩ } }

def scheduleTick (s : Session) (now : Instant) : Session :=
  { s with timers := { s.timers with
      heartbeat := some ⟨.heartbeat, s.heartbeat.nextTick now, s.generation⟩ } }

def scheduleRetry (s : Session) (deadline : Instant) : Session :=
  { s with timers := { s.timers with retry := some ⟨.retry, deadline, s.generation⟩ } }

/-- After a failure: schedule another attempt, or give the session up. -/
def retryOrGiveUp (s : Session) (now : Instant) (wall : UInt64) : Session :=
  let s := { s with policy := s.policy.count }
  match s.policy.decision with
  | .retry _ delay => s.scheduleRetry (now + delay)
  | .exhausted attempts =>
    s.cancelTimers.discardQueue.failRequests.enter .disconnected
      (some (.reconnectExhausted attempts.toNat)) wall

/-- The transport is open: what the session records of it. -/
def recordOpened (s : Session) (now : Instant) (wall : UInt64) : Session :=
  let s := { s with
    timers := { s.timers with connect := none }
    policy := s.policy.reset
    lastError := none }
  let s :=
    if s.state = .reconnecting then
      { s with stats := s.stats.recordReconnect }.enter .reconnected none wall
    else s
  let s := { s with hasConnected := true }.enter .connected none wall
  { s with heartbeat := s.heartbeat.start }.scheduleTick now

def recordDelivery (s : Session) (id : ConnectionId) (packet : Packet) (wall : UInt64) : Session :=
  { s with
    stats := s.stats.recordSend packet.bytes.length
    lastActivity := some wall }.note (.delivered id packet)

def recordArrival (s : Session) (bytes : Bytes) (wall : UInt64) : Session :=
  { s with
    stats := s.stats.recordReceive bytes.length
    lastActivity := some wall }

def recordPong (s : Session) (requestId : String) (now : Instant) : Session :=
  match s.heartbeat.answer requestId now with
  | (some latency, heartbeat) =>
    { s with heartbeat, stats := s.stats.recordLatency latency }
  | (none, heartbeat) => { s with heartbeat }

/-- Settle the request that a frame answers. Progress reports answer nothing yet. -/
def complete (s : Session) (frame : Frame) : Session :=
  if frame.kind? = some .sftpProgress then s
  else
    match frame.requestId? with
    | none => s
    | some id => if s.requests.contains id then s.settle id (.ok frame) else s

end Session

end Switchboard
