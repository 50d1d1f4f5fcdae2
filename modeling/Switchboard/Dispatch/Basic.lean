import Switchboard.Registry.Subscriptions
/-!
# The dispatcher

A dispatcher owns a registry and serves any number of callers. It handles one thing at a time, a
command, a transport event or a due deadline, and after each of them answers the callers whose wait
has ended: a connect call waits for its session to become usable or to be given up, a request call
for its outcome. When it stops, every call that still waits is answered. A caller may give up at any
time; what was to be answered is then kept until it would be answered, and nobody is told.
-/

namespace Switchboard

/-- The number by which a call and its answer belong together. -/
abbrev Ticket := Nat

inductive Command where
  /-- Connect, with the default settings if none are given. -/
  | connect (key : String) (target : Target) (config : Option SessionConfig)
  | disconnect (key : String)
  | remove (key : String)
  | authenticate (key : String) (credentials : Json)
  | send (key : String) (code : UInt8) (header : Header) (payload : Option Bytes)
  | request (key : String) (code : UInt8) (header : Header) (payload : Option Bytes)
  | status (key : String)
  | keys
  | subscribe (key : String) (filter : MessageFilter)
  | subscribeStatus
  | unsubscribe (handle : SubscriptionHandle)
  /-- Disconnect every session and stop. -/
  | shutdown

inductive Reply where
  | done
  | session (snapshot : Snapshot)
  | maybeSession (snapshot : Option Snapshot)
  | frame (frame : Frame)
  | keys (keys : List String)
  | subscribed (handle : SubscriptionHandle)
  | existed (answer : Bool)

structure Answer where
  ticket : Ticket
  result : Except Error Reply

/-- A call that waits for the session under a key with a serial number. -/
structure ConnectWaiter where
  ticket : Ticket
  key : String
  serial : Nat
  /-- The caller has not given up. -/
  listens : Bool
  deriving DecidableEq, Repr

/-- A call that waits for a request under a key. -/
structure RequestWaiter where
  ticket : Ticket
  key : String
  requestId : String
  /-- The caller has not given up. -/
  listens : Bool
  deriving DecidableEq, Repr

/-- The call after the caller with a ticket has given up. -/
def ConnectWaiter.abandon (ticket : Ticket) (w : ConnectWaiter) : ConnectWaiter :=
  { w with listens := w.listens && w.ticket ≠ ticket }

namespace RequestWaiter

/-- The request that the call waits for. -/
def request (w : RequestWaiter) : String × String := (w.key, w.requestId)

/-- The call after the caller with a ticket has given up. -/
def abandon (ticket : Ticket) (w : RequestWaiter) : RequestWaiter :=
  { w with listens := w.listens && w.ticket ≠ ticket }

/-- What the caller is told. -/
def answers (w : RequestWaiter) (result : Except Error Frame) : List Answer :=
  if w.listens then [⟨w.ticket, result.map .frame⟩] else []

end RequestWaiter

/-- A registry with the callers that wait for it. -/
structure Dispatcher (σ : Type) where
  registry : Registry σ
  connectWaiters : List ConnectWaiter := []
  /-- The calls that wait for requests, one at most for each request. -/
  requestWaiters : List RequestWaiter := []
  /-- The answers given and not yet taken. -/
  answers : List Answer := []
  stopped : Bool := false

/-- Why a session will not become usable. -/
def Snapshot.failure (s : Snapshot) : Error :=
  match s.lastError with
  | some (.auth reason) => .auth reason
  | some (.reconnectExhausted attempts) => .reconnectExhausted attempts
  | _ => .connectionClosed

/-- The answer to a connect call that the state of its session allows, if any yet. -/
def Snapshot.verdict (s : Snapshot) : Option (Except Error Snapshot) :=
  match s.state with
  | .connected => some (.ok s)
  | .error => if s.retryScheduled then none else some (.error s.failure)
  | .idle | .disconnecting | .disconnected => some (.error s.failure)
  | .connecting | .reconnecting | .reconnected | .needAuth | .authenticating => none

namespace Dispatcher

variable {σ : Type}

def create (registry : Registry σ) : Dispatcher σ := { registry }

def reply (d : Dispatcher σ) (ticket : Ticket) (result : Except Error Reply) : Dispatcher σ :=
  { d with answers := d.answers ++ [⟨ticket, result⟩] }

def drainAnswers (d : Dispatcher σ) : List Answer × Dispatcher σ :=
  (d.answers, { d with answers := [] })

/-- The answer that a waiting connect call gets now, if any. A session that was removed or replaced
will not become usable. -/
def verdictFor (r : Registry σ) (waiter : ConnectWaiter) : Option (Except Error Snapshot) :=
  match r.status waiter.key with
  | some snapshot =>
    if snapshot.serial = waiter.serial then snapshot.verdict else some (.error .connectionClosed)
  | none => some (.error .connectionClosed)

/-- The connect calls whose callers have not given up. -/
def heard (d : Dispatcher σ) : List ConnectWaiter := d.connectWaiters.filter ConnectWaiter.listens

/-- Answer the connect calls whose session is decided, and forget those whose callers have given
up. -/
def resolveConnects (d : Dispatcher σ) : Dispatcher σ :=
  { d with
    connectWaiters := d.heard.filter fun w => (verdictFor d.registry w).isNone
    answers := d.answers ++ d.heard.filterMap fun w =>
      (verdictFor d.registry w).map fun result => ⟨w.ticket, result.map .session⟩ }

/-- Let a call wait for a request. A call that waited for the same one makes room for it, and its
caller takes this for a closed connection. -/
def awaitRequest (d : Dispatcher σ) (waiter : RequestWaiter) : Dispatcher σ :=
  let replaced := d.requestWaiters.filter fun w => w.request = waiter.request
  { d with
    requestWaiters := d.requestWaiters.filter (fun w => w.request ≠ waiter.request) ++ [waiter]
    answers := d.answers ++ replaced.flatMap fun w => w.answers (.error .connectionClosed) }

/-- Whether a call waits for the request with an id under a key. -/
def awaits (key requestId : String) (waiter : RequestWaiter) : Bool :=
  waiter.request = (key, requestId)

def resolveOutcome (d : Dispatcher σ) (key : String) (outcome : Outcome) : Dispatcher σ :=
  match d.requestWaiters.find? (awaits key outcome.requestId) with
  | none => d
  | some waiter =>
    { d with
      requestWaiters := d.requestWaiters.filter (!awaits key outcome.requestId ·)
      answers := d.answers ++ waiter.answers outcome.result }

def resolveRequests (d : Dispatcher σ) : Dispatcher σ :=
  let (acts, registry) := d.registry.drainActs
  (Registry.outcomesOf acts).foldl (fun d (key, outcome) => d.resolveOutcome key outcome)
    { d with registry }

def resolve (d : Dispatcher σ) : Dispatcher σ := d.resolveConnects.resolveRequests

/-- A caller gives up. What waits for it stays until it is resolved. -/
def abandon (d : Dispatcher σ) (ticket : Ticket) : Dispatcher σ :=
  { d with
    connectWaiters := d.connectWaiters.map (ConnectWaiter.abandon ticket)
    requestWaiters := d.requestWaiters.map (RequestWaiter.abandon ticket) }

/-- The calls whose callers wait. -/
def waiting (d : Dispatcher σ) : List Ticket :=
  d.heard.map ConnectWaiter.ticket ++
    (d.requestWaiters.filter RequestWaiter.listens).map RequestWaiter.ticket

variable [Environment σ]

/-- Remove every session, answer every call that still waits, and stop. -/
def stop (d : Dispatcher σ) : Dispatcher σ :=
  let d := { d with registry := d.registry.shutdown }.resolve
  { d with
    connectWaiters := []
    requestWaiters := []
    answers := d.answers ++ d.waiting.map (⟨·, .error .connectionClosed⟩)
    stopped := true }

def execute (d : Dispatcher σ) (ticket : Ticket) (command : Command) (now : Instant) :
    Dispatcher σ :=
  match command with
  | .connect key target config =>
    let (snapshot, registry) :=
      d.registry.connectWith key target (config.getD d.registry.defaults) now
    let d := { d with registry }
    match snapshot.verdict with
    | some result => d.reply ticket (result.map .session)
    | none =>
      { d with connectWaiters := d.connectWaiters ++ [⟨ticket, key, snapshot.serial, true⟩] }
  | .disconnect key =>
    let (result, registry) := d.registry.disconnect key
    { d with registry }.reply ticket (result.map fun _ => .done)
  | .remove key =>
    let (snapshot, registry) := d.registry.remove key
    { d with registry }.reply ticket (.ok (.maybeSession snapshot))
  | .authenticate key credentials =>
    let (result, registry) := d.registry.authenticate key credentials
    { d with registry }.reply ticket (result.map fun _ => .done)
  | .send key code header payload =>
    let (result, registry) := d.registry.send key code (.ok (.obj header)) payload
    { d with registry }.reply ticket (result.map fun _ => .done)
  | .request key code header payload =>
    match d.registry.request key code header payload now with
    | (.ok id, registry) => { d with registry }.awaitRequest ⟨ticket, key, id, true⟩
    | (.error e, registry) => { d with registry }.reply ticket (.error e)
  | .status key => d.reply ticket (.ok (.maybeSession (d.registry.status key)))
  | .keys => d.reply ticket (.ok (.keys d.registry.keys))
  | .subscribe key filter =>
    let (handle, registry) := d.registry.subscribe key filter
    { d with registry }.reply ticket (.ok (.subscribed handle))
  | .subscribeStatus =>
    let (handle, registry) := d.registry.subscribeStatus
    { d with registry }.reply ticket (.ok (.subscribed handle))
  | .unsubscribe handle =>
    let (existed, registry) := d.registry.unsubscribe handle
    { d with registry }.reply ticket (.ok (.existed existed))
  | .shutdown => d.stop.reply ticket (.ok .done)

/-- Handle a command. After the end every call is refused. -/
def handleCommand (d : Dispatcher σ) (ticket : Ticket) (command : Command) (now : Instant) :
    Dispatcher σ :=
  if d.stopped then d.reply ticket (.error .connectionClosed)
  else (d.execute ticket command now).resolve

def handleEvent (d : Dispatcher σ) (id : ConnectionId) (event : TransportEvent) (now : Instant) :
    Dispatcher σ :=
  if d.stopped then d
  else { d with registry := d.registry.handleTransportEvent id event now }.resolve

def poll (d : Dispatcher σ) (now : Instant) : Dispatcher σ :=
  if d.stopped then d else { d with registry := d.registry.pollTimers now }.resolve

end Dispatcher

end Switchboard
