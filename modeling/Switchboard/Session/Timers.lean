import Switchboard.Time
/-!
# Timers

A session owns three timer slots and never sleeps: whoever owns the clock asks for the earliest
deadline and hands in the instant. A slot remembers the generation it was armed under, so a
deadline that outlives its connection is thrown away when it falls due.
-/

namespace Switchboard

inductive TimerKind where
  | heartbeat
  | connectTimeout
  | retry
  deriving DecidableEq, Repr

/-- An armed deadline. -/
structure TimerTask where
  kind : TimerKind
  deadline : Instant
  /-- The generation that the task was armed under. -/
  generation : Nat
  deriving DecidableEq, Repr

/-- At most one armed task. -/
abbrev TimerSlot := Option TimerTask

namespace TimerSlot

def isArmed (slot : TimerSlot) : Bool := slot.isSome

def deadline (slot : TimerSlot) : Option Instant := slot.map TimerTask.deadline

def isDue (slot : TimerSlot) (now : Instant) : Bool :=
  match slot with
  | some task => decide (task.deadline ≤ now)
  | none => false

/-- The slot after asking for what is due: a due task is gone, whatever its generation. -/
def afterTake (slot : TimerSlot) (now : Instant) : TimerSlot :=
  if isDue slot now then none else slot

/-- The task that is due, if it was armed under the given generation. -/
def due? (slot : TimerSlot) (now : Instant) (generation : Nat) : Option TimerTask :=
  match slot with
  | some task =>
    if task.deadline ≤ now ∧ task.generation = generation then some task else none
  | none => none

end TimerSlot

structure Timers where
  heartbeat : TimerSlot := none
  connect : TimerSlot := none
  retry : TimerSlot := none
  deriving DecidableEq, Repr, Inhabited

namespace Timers

def idle : Timers := {}

def nextDeadline (t : Timers) : Option Instant :=
  Instant.earliest [t.heartbeat.deadline, t.connect.deadline, t.retry.deadline]

end Timers

end Switchboard
