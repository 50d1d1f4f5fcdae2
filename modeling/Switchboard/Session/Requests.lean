import Switchboard.KeyMap
import Switchboard.Time
/-!
# Outstanding requests

Request ids are a mark, a hyphen and a number that counts up, so that the ids of trackers with
different marks never meet. A request is outstanding from its `insert` to its answer, its expiry or
the end of its session.
-/

namespace Switchboard

/-- A request without an answer so far. -/
structure PendingRequest where
  code : UInt8
  issuedAt : Instant
  deriving DecidableEq, Repr

/-- The requests of one session. -/
structure Requests where
  /-- What the ids start with. -/
  mark : String
  /-- The number of the next id. -/
  next : Nat := 1
  pending : KeyMap PendingRequest := []
  deriving DecidableEq, Repr

namespace Requests

def idAt (mark : String) (n : Nat) : String := s!"{mark}-{n}"

def ofMark (mark : String) : Requests := { mark }

def nextId (r : Requests) : String := idAt r.mark r.next

def advance (r : Requests) : Requests := { r with next := r.next + 1 }

def insert (r : Requests) (id : String) (code : UInt8) (now : Instant) : Requests :=
  { r with pending := KeyMap.insert id ⟨code, now⟩ r.pending }

def find? (r : Requests) (id : String) : Option PendingRequest := KeyMap.find? id r.pending

def contains (r : Requests) (id : String) : Bool := KeyMap.contains id r.pending

def erase (r : Requests) (id : String) : Requests :=
  { r with pending := KeyMap.erase id r.pending }

/-- Whether a request has waited for the timeout or longer. -/
def isOld (now : Instant) (timeout : Duration) (request : PendingRequest) : Bool :=
  timeout ≤ now.since request.issuedAt

/-- The ids that have waited too long. -/
def expired (r : Requests) (now : Instant) (timeout : Duration) : List String :=
  KeyMap.keys (r.pending.filter fun entry => isOld now timeout entry.2)

/-- What is left without the ids that have waited too long. -/
def expire (r : Requests) (now : Instant) (timeout : Duration) : Requests :=
  { r with pending := r.pending.filter fun entry => !isOld now timeout entry.2 }

def ids (r : Requests) : List String := KeyMap.keys r.pending

def clear (r : Requests) : Requests := { r with pending := [] }

def count (r : Requests) : Nat := r.pending.length

end Requests

end Switchboard
