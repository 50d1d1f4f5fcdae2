import Switchboard.Dispatch.Basic
import Switchboard.Scripted.Network
/-!
# Rehearsals

A dispatcher over a scripted network, on a clock that moves only when told to. After every call
and every move of the clock the dispatcher runs until it is idle: the mail of the network is
handled in order, and every deadline fires at its own time, in the order of time. The dispatcher
stops when nobody can call it any more.
-/

namespace Switchboard

/-- A dispatcher, its clock and its callers. -/
structure Rehearsal where
  dispatcher : Dispatcher ScriptedNetwork
  now : Instant := ⟨0⟩
  /-- The caller who can make new calls is still there. -/
  handleHeld : Bool := true
  /-- The calls that were started and have no answer. -/
  waiting : List Ticket := []

namespace Rehearsal

def create (network : ScriptedNetwork) (defaults : SessionConfig) : Rehearsal :=
  { dispatcher := .create (.create { network with listening := true } defaults scriptedMark) }

def network (r : Rehearsal) : ScriptedNetwork := r.dispatcher.registry.world

def modifyNetwork (r : Rehearsal) (f : ScriptedNetwork → ScriptedNetwork) : Rehearsal :=
  { r with dispatcher := { r.dispatcher with
      registry := { r.dispatcher.registry with world := f r.network } } }

/-- Step the dispatcher, and strike the calls that it has answered from the waiting ones. A
dispatcher that has stopped no longer listens to the network. -/
def step (r : Rehearsal) (f : Dispatcher ScriptedNetwork → Dispatcher ScriptedNetwork) :
    Rehearsal :=
  let d := f r.dispatcher
  let answered := d.answers.map Answer.ticket
  let r := { r with dispatcher := d, waiting := r.waiting.filter (!answered.contains ·) }
  if d.stopped then r.modifyNetwork fun n => { n with listening := false, mailbox := [] } else r

/-- Nobody can call the dispatcher any more: the caller is gone and no call is under way. -/
def isDeserted (r : Rehearsal) : Bool := !r.handleHeld && r.waiting.isEmpty

/-- Run until idle and until `limit`, for as many steps as `fuel` allows. -/
def runUntil (limit : Instant) : (fuel : Nat) → Rehearsal → Rehearsal
  | 0, r => { r with now := limit }
  | fuel + 1, r =>
    if r.dispatcher.stopped then { r with now := limit }
    else
      match r.network.mailbox with
      | (id, event) :: mail =>
        runUntil limit fuel
          ((r.modifyNetwork fun n => { n with mailbox := mail }).step
            fun d => d.handleEvent id event r.now)
      | [] =>
        if r.isDeserted then runUntil limit fuel (r.step Dispatcher.stop)
        else
          match r.dispatcher.registry.nextDeadline with
          | some deadline =>
            if deadline ≤ limit then
              let now := if deadline ≤ r.now then r.now else deadline
              runUntil limit fuel ({ r with now }.step fun d => d.poll now)
            else { r with now := limit }
          | none => { r with now := limit }

/-- How many steps a run may take. -/
def patience : Nat := 1000000

/-- Run until idle, without moving the clock. -/
def settle (r : Rehearsal) : Rehearsal := runUntil r.now patience r

def call (r : Rehearsal) (ticket : Ticket) (command : Command) : Rehearsal :=
  ({ r with waiting := r.waiting ++ [ticket] }.step
    fun d => d.handleCommand ticket command r.now).settle

def abandon (r : Rehearsal) (ticket : Ticket) : Rehearsal :=
  { r with
    waiting := r.waiting.filter (· ≠ ticket)
    dispatcher := r.dispatcher.abandon ticket }.settle

/-- The caller who can make new calls leaves. -/
def dropHandle (r : Rehearsal) : Rehearsal := { r with handleHeld := false }.settle

/-- An event reaches the network's mailbox. The answer says whether anybody listens. -/
def emit (r : Rehearsal) (id : ConnectionId) (event : TransportEvent) : Bool × Rehearsal :=
  let (heard, network) := r.network.emit id event
  (heard, (r.modifyNetwork fun _ => network).settle)

def advance (r : Rehearsal) (span : Duration) : Rehearsal :=
  runUntil (r.now + span) patience r

def drainAnswers (r : Rehearsal) : List Answer × Rehearsal :=
  let (answers, dispatcher) := r.dispatcher.drainAnswers
  (answers, { r with dispatcher })

def drainNotices (r : Rehearsal) : List Notice × Rehearsal :=
  let (notices, registry) := r.dispatcher.registry.drainNotices
  (notices, { r with dispatcher := { r.dispatcher with registry } })

end Rehearsal

end Switchboard
