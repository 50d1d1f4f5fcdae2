import Switchboard.Session.Operations
import Switchboard.Session.Snapshot
/-!
# The registry of sessions

A registry owns sessions under keys that its caller chooses, the world they act on, and the
subscriptions to what they do. Every operation on a key runs on that key's session alone and then
publishes the acts it left in the journal: first the status events, which go to every status
subscription, then the frames that were heard, which go to the data subscriptions of the key. All
acts are also kept, tagged with their key, until the owner takes them.
-/

namespace Switchboard

/-- Which frames a data subscription wants. -/
inductive MessageFilter where
  | only (code : UInt8)
  | all
  deriving DecidableEq, Repr

def MessageFilter.wants : MessageFilter → UInt8 → Bool
  | only wanted, code => wanted = code
  | all, _ => true

structure SubscriptionHandle where
  number : Nat
  deriving DecidableEq, Repr, Inhabited

def SubscriptionHandle.debugText (handle : SubscriptionHandle) : String :=
  s!"SubscriptionHandle({handle.number})"

/-- A subscription to the frames under one key. -/
structure DataListener where
  handle : SubscriptionHandle
  filter : MessageFilter
  deriving DecidableEq, Repr

/-- A frame that was heard, as its subscribers get it. -/
structure DataEvent where
  key : String
  target : Target
  code : UInt8
  header : Header
  payload : Option Bytes
  /-- The header in the shape of its kind, if it has a kind and fits it. -/
  message : Option Message

def DataEvent.ofInbound (key : String) (target : Target) (inbound : Inbound) : DataEvent :=
  ⟨key, target, inbound.frame.code, inbound.frame.header, inbound.frame.payload, inbound.message⟩

/-- What one subscription is told. -/
inductive Notice where
  | status (handle : SubscriptionHandle) (event : StatusEvent)
  | data (handle : SubscriptionHandle) (event : DataEvent)

/-- Sessions under their keys, with the world they share and the subscriptions to them. -/
structure Registry (σ : Type) where
  world : σ
  /-- The settings of sessions that are given none. -/
  defaults : SessionConfig
  sessions : KeyMap Session
  dataListeners : KeyMap (List DataListener)
  statusListeners : List SubscriptionHandle
  nextHandle : Nat
  nextSerial : Nat
  /-- The mark that the session with each serial number gets for its requests. -/
  marks : Nat → String
  /-- The last generation that a retired session used, under its key. -/
  retired : KeyMap Nat
  /-- What subscriptions have been told and the owner has not taken. -/
  notices : List Notice
  /-- What sessions have done and the owner has not taken. -/
  acts : List (String × Act)

namespace Registry

variable {σ : Type}

def create (world : σ) (defaults : SessionConfig) (marks : Nat → String) : Registry σ where
  world
  defaults
  sessions := []
  dataListeners := []
  statusListeners := []
  nextHandle := 1
  nextSerial := 1
  marks
  retired := []
  notices := []
  acts := []

/-! ## Publishing -/

/-- What status subscriptions are told of an act. -/
def statusNotices (r : Registry σ) (act : Act) : List Notice :=
  match act.status? with
  | some event => r.statusListeners.map (.status · event)
  | none => []

/-- What the data subscriptions under `key` are told of an act. -/
def dataNotices (r : Registry σ) (key : String) (target : Target) (act : Act) : List Notice :=
  match act.inbound? with
  | some inbound =>
    let event := DataEvent.ofInbound key target inbound
    ((KeyMap.find? key r.dataListeners).getD []).filterMap fun listener =>
      if listener.filter.wants event.code then some (.data listener.handle event) else none
  | none => []

/-- Tell of what a session did, first of the states it entered and then of the frames it heard. -/
def publish (r : Registry σ) (session : Session) : Registry σ :=
  { r with
    notices := r.notices ++ session.journal.flatMap r.statusNotices ++
      session.journal.flatMap (r.dataNotices session.key session.target)
    acts := r.acts ++ session.journal.map (session.key, ·) }

/-- Put a session back under its key, with all it did published. -/
def shelve (r : Registry σ) (c : Station σ) : Registry σ :=
  let r := { r with world := c.world }.publish c.session
  { r with sessions := KeyMap.insert c.session.key c.session.drained r.sessions }

/-- Run a step on the session under `key`. -/
def onSession {α : Type} (r : Registry σ) (key : String)
    (step : Station σ → Except Error α × Station σ) : Except Error α × Registry σ :=
  match KeyMap.find? key r.sessions with
  | none => (.error (.sessionNotFound key), r)
  | some session =>
    let (result, c) := step ⟨session, r.world⟩
    (result, r.shelve c)

/-- A step that cannot fail. -/
def always (step : Station σ → Station σ) (c : Station σ) : Except Error Unit × Station σ :=
  (.ok (), step c)

variable [Environment σ]

/-! ## Lifecycle -/

/-- Close a session that has left the registry, publish what it did and remember its generation. -/
def retire (r : Registry σ) (session : Session) : Snapshot × Registry σ :=
  let c := Station.close ⟨session, r.world⟩
  let r := { r with
    world := c.world
    retired := KeyMap.insert c.session.key c.session.generation r.retired }.publish c.session
  (c.session.snapshot, r)

/-- Take the session under `key` out and retire it. -/
def takeOut (r : Registry σ) (key : String) : Option Snapshot × Registry σ :=
  match KeyMap.find? key r.sessions with
  | none => (none, r)
  | some session =>
    let (snapshot, r) := { r with sessions := KeyMap.erase key r.sessions }.retire session
    (some snapshot, r)

/-- The session that is created next, with the next serial number and the mark for it. -/
def newSession (r : Registry σ) (key : String) (target : Target) (config : SessionConfig)
    (generation : Nat) : Session :=
  .create key target config generation r.nextSerial (r.marks r.nextSerial)

/-- Connect with given settings. A session that is active against the same target stays as it is;
any other one under the key is retired and a new one starts. -/
def connectWith (r : Registry σ) (key : String) (target : Target) (config : SessionConfig)
    (now : Instant) : Snapshot × Registry σ :=
  match (KeyMap.find? key r.sessions).filter
      fun s => s.target = target ∧ s.state.isActive with
  | some session => (session.snapshot, r)
  | none =>
    let (_, r) := r.takeOut key
    let generation := (KeyMap.find? key r.retired).getD 0
    let c := Station.connect ⟨r.newSession key target config generation, r.world⟩ now
    (c.session.snapshot, { r with nextSerial := r.nextSerial + 1 }.shelve c)

def connect (r : Registry σ) (key : String) (target : Target) (now : Instant) :
    Snapshot × Registry σ :=
  r.connectWith key target r.defaults now

/-- Tear the session under `key` down and keep it registered. -/
def disconnect (r : Registry σ) (key : String) : Except Error Unit × Registry σ :=
  r.onSession key (always Station.disconnect)

/-- Tear the session under `key` down and forget it, with its data subscriptions. -/
def remove (r : Registry σ) (key : String) : Option Snapshot × Registry σ :=
  if KeyMap.contains key r.sessions then
    { r with dataListeners := KeyMap.erase key r.dataListeners }.takeOut key
  else (none, r)

def shutdown (r : Registry σ) : Registry σ :=
  (KeyMap.keys r.sessions).foldl (fun r key => (r.remove key).2) r

/-- Supply the credentials that the peer of `key` asked for. -/
def authenticate (r : Registry σ) (key : String) (credentials : Json) :
    Except Error Unit × Registry σ :=
  r.onSession key (always fun c => c.authenticate credentials)

/-! ## Traffic -/

def send (r : Registry σ) (key : String) (code : UInt8) (header : Except String Json)
    (payload : Option Bytes) : Except Error Unit × Registry σ :=
  r.onSession key fun c => c.send code header payload

def sendMessage (r : Registry σ) (key : String) (message : Message) (payload : Option Bytes) :
    Except Error Unit × Registry σ :=
  r.onSession key fun c => c.sendMessage message payload

/-- Send a frame that expects an answer, and return its id. How it ends stands among the acts. -/
def request (r : Registry σ) (key : String) (code : UInt8) (header : Header)
    (payload : Option Bytes) (now : Instant) : Except Error String × Registry σ :=
  r.onSession key fun c => c.request code header payload now

/-- An event of the transport with an id. Events for unknown keys change nothing. -/
def handleTransportEvent (r : Registry σ) (id : ConnectionId) (event : TransportEvent)
    (now : Instant) : Registry σ :=
  (r.onSession id.key (always fun c => c.handleEvent id event now)).2

/-! ## Timers -/

def nextDeadline (r : Registry σ) : Option Instant :=
  Instant.earliest (r.sessions.map fun entry => entry.2.nextDeadline)

/-- The keys of the sessions with a timer that is due. -/
def dueKeys (r : Registry σ) (now : Instant) : List String :=
  KeyMap.keys (r.sessions.filter fun entry =>
    match entry.2.nextDeadline with
    | some deadline => decide (deadline ≤ now)
    | none => false)

def pollKey (r : Registry σ) (now : Instant) (key : String) : Registry σ :=
  (r.onSession key (always fun c => c.pollTimers now)).2

def pollTimers (r : Registry σ) (now : Instant) : Registry σ :=
  (r.dueKeys now).foldl (fun r key => r.pollKey now key) r

end Registry

end Switchboard
