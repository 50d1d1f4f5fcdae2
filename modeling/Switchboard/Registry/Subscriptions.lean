import Switchboard.Registry.Basic
/-!
# Subscriptions and queries

Subscriptions are numbered from one, over both kinds together. A data subscription belongs to a
key and outlives the sessions under it, until the key is removed.
-/

namespace Switchboard

namespace Registry

variable {σ : Type}

def allocateHandle (r : Registry σ) : SubscriptionHandle × Registry σ :=
  (⟨r.nextHandle⟩, { r with nextHandle := r.nextHandle + 1 })

/-- Subscribe to the frames under `key` that the filter wants. -/
def subscribe (r : Registry σ) (key : String) (filter : MessageFilter) :
    SubscriptionHandle × Registry σ :=
  let (handle, r) := r.allocateHandle
  let listeners := (KeyMap.find? key r.dataListeners).getD [] ++ [⟨handle, filter⟩]
  (handle, { r with dataListeners := KeyMap.insert key listeners r.dataListeners })

def subscribeStatus (r : Registry σ) : SubscriptionHandle × Registry σ :=
  let (handle, r) := r.allocateHandle
  (handle, { r with statusListeners := r.statusListeners ++ [handle] })

def isSubscribed (r : Registry σ) (handle : SubscriptionHandle) : Bool :=
  r.statusListeners.contains handle ||
    r.dataListeners.any fun entry => entry.2.any fun listener => listener.handle = handle

/-- Drop a subscription. The answer says whether there was one. -/
def unsubscribe (r : Registry σ) (handle : SubscriptionHandle) : Bool × Registry σ :=
  (r.isSubscribed handle,
    { r with
      statusListeners := r.statusListeners.filter (· ≠ handle)
      dataListeners := r.dataListeners.map fun entry =>
        (entry.1, entry.2.filter fun listener => listener.handle ≠ handle) })

def status (r : Registry σ) (key : String) : Option Snapshot :=
  (KeyMap.find? key r.sessions).map Session.snapshot

def keys (r : Registry σ) : List String := KeyMap.keys r.sessions

/-- Snapshots of all sessions, in the order of their keys. -/
def snapshots (r : Registry σ) : List Snapshot :=
  r.sessions.map fun entry => entry.2.snapshot

def contains (r : Registry σ) (key : String) : Bool := KeyMap.contains key r.sessions

def size (r : Registry σ) : Nat := r.sessions.length

def isEmpty (r : Registry σ) : Bool := r.sessions.isEmpty

def drainNotices (r : Registry σ) : List Notice × Registry σ :=
  (r.notices, { r with notices := [] })

def drainActs (r : Registry σ) : List (String × Act) × Registry σ :=
  (r.acts, { r with acts := [] })

/-- The settled requests among acts, with their keys. -/
def outcomesOf (acts : List (String × Act)) : List (String × Outcome) :=
  acts.filterMap fun (key, act) => act.outcome?.map (key, ·)

/-- The registry with its sessions. -/
def debugText (r : Registry σ) : String :=
  let sessions := r.sessions.map fun entry => s!"{quoted entry.1}: {entry.2.debugText}"
  let sessions := "\x7b" ++ String.intercalate ", " sessions ++ "\x7d"
  s!"SessionRegistry \x7b sessions: {sessions}, " ++
    s!"status_listeners: {r.statusListeners.length}, .. \x7d"

end Registry

end Switchboard
