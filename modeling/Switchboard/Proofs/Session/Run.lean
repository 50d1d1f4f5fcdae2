import Switchboard.Session.Operations
/-!
# Runs of a session

A run starts with a session that was just created and goes on with calls in any order and with any
arguments: instants need not grow, events may carry any id. Between the calls the owner may take
the journal, and the world may change by itself; as nothing is assumed about the world either, every
sequence of answers to dials and deliveries belongs to some run.

A `Moment` is one call together with the station that it found. The moments of a run are its whole
history: what was answered, which acts were done, which ids were given out (`issued`) and how
requests ended (`outcomes`).
-/

namespace Switchboard

/-- A call on a session, with all that its owner passes in. -/
inductive Call where
  | connect (now : Instant)
  | disconnect
  | close
  | authenticate (credentials : Json)
  | send (code : UInt8) (header : Except String Json) (payload : Option Bytes)
  | sendMessage (message : Message) (payload : Option Bytes)
  | request (code : UInt8) (header : Header) (payload : Option Bytes) (now : Instant)
  | handleEvent (id : ConnectionId) (event : TransportEvent) (now : Instant)
  | pollTimers (now : Instant)

variable {σ : Type} [Environment σ]

namespace Station

/-- Carry out a call. Only a request that is taken answers with an id. -/
def perform (c : Station σ) : Call → Except Error (Option String) × Station σ
  | .connect now => (.ok none, c.connect now)
  | .disconnect => (.ok none, c.disconnect)
  | .close => (.ok none, c.close)
  | .authenticate credentials => (.ok none, c.authenticate credentials)
  | .send code header payload =>
    ((c.send code header payload).1.map fun _ => none, (c.send code header payload).2)
  | .sendMessage message payload =>
    ((c.sendMessage message payload).1.map fun _ => none, (c.sendMessage message payload).2)
  | .request code header payload now =>
    ((c.request code header payload now).1.map some, (c.request code header payload now).2)
  | .handleEvent id event now => (.ok none, c.handleEvent id event now)
  | .pollTimers now => (.ok none, c.pollTimers now)

end Station

/-- One call of a run. -/
structure Moment (σ : Type) where
  /-- The session and the world that the call found. -/
  before : Station σ
  call : Call

namespace Moment

def answer (m : Moment σ) : Except Error (Option String) := (m.before.perform m.call).1

def after (m : Moment σ) : Station σ := (m.before.perform m.call).2

/-- What the session did during the call. -/
def acts (m : Moment σ) : List Act :=
  m.after.session.journal.drop m.before.session.journal.length

theorem acts_eq {m : Moment σ} {acts : List Act}
    (h : m.after.session.journal = m.before.session.journal ++ acts) : m.acts = acts := by
  unfold Moment.acts
  rw [h, List.drop_left]

/-- How requests ended during the call. -/
def outcomes (m : Moment σ) : List Outcome := m.acts.filterMap Act.outcome?

/-- The id that the call gave out. -/
def issued? (m : Moment σ) : Option String :=
  match m.answer with
  | .ok id => id
  | .error _ => none

/-- The call brought a frame of the session's own connection while that connection was open. -/
def Hears (m : Moment σ) (frame : Frame) : Prop :=
  ∃ bytes now, m.call = .handleEvent m.before.session.connectionId (.frame bytes) now ∧
    Frame.decode bytes = .ok frame ∧ m.before.session.state.isLive = true

end Moment

namespace Run

/-- The ids that a run gave out, in order. -/
def issued (ms : List (Moment σ)) : List String := ms.filterMap Moment.issued?

/-- How requests ended in a run, in order. -/
def outcomes (ms : List (Moment σ)) : List Outcome := ms.flatMap Moment.outcomes

end Run

/-- The runs that begin with the session `start`: their moments and where they have got to. -/
inductive Run (start : Session) : List (Moment σ) → Station σ → Prop where
  | begin (world : σ) : Run start [] ⟨start, world⟩
  | call {ms : List (Moment σ)} {c : Station σ} (h : Run start ms c) (call : Call) :
      Run start (ms ++ [⟨c, call⟩]) (c.perform call).2
  /-- The owner takes the journal. -/
  | drain {ms : List (Moment σ)} {c : Station σ} (h : Run start ms c) :
      Run start ms (c.modify Session.drained)
  /-- The world changes by itself. -/
  | world {ms : List (Moment σ)} {c : Station σ} (h : Run start ms c) (world : σ) :
      Run start ms { c with world }

/-- A list with one more element at its end splits there, or earlier. -/
theorem split_of_concat {α : Type} {xs early late : List α} {x y : α}
    (split : xs ++ [x] = early ++ y :: late) :
    xs = early ∧ x = y ∧ late = [] ∨ ∃ rest, late = rest ++ [x] ∧ xs = early ++ y :: rest := by
  rcases List.eq_nil_or_concat late with rfl | ⟨rest, last, rfl⟩
  · obtain ⟨rfl, same⟩ := List.append_inj' split rfl
    exact .inl ⟨rfl, List.singleton_inj.mp same, rfl⟩
  · rw [List.concat_eq_append, ← List.cons_append, ← List.append_assoc] at split
    obtain ⟨rfl, same⟩ := List.append_inj' split rfl
    exact .inr ⟨rest, by rw [List.concat_eq_append, same], rfl⟩

namespace Run

variable {ms : List (Moment σ)} {c : Station σ}

/-- The calls before a call lead to the station that it found. -/
theorem before {start : Session} (h : Run start ms c) {early late : List (Moment σ)} {m : Moment σ}
    (split : ms = early ++ m :: late) : Run start early m.before := by
  induction h generalizing late with
  | begin world => simp at split
  | @call ms c h call ih =>
    rcases split_of_concat split with ⟨rfl, rfl, -⟩ | ⟨rest, -, split⟩
    · exact h
    · exact ih split
  | drain _ ih => exact ih split
  | world _ _ ih => exact ih split

/-- And with the call they lead to where it ends. -/
theorem through {start : Session} (h : Run start ms c) {early late : List (Moment σ)}
    {m : Moment σ} (split : ms = early ++ m :: late) : Run start (early ++ [m]) m.after :=
  (h.before split).call m.call

/-- Every call of a run was made in a run of its own, the calls before it. -/
theorem until_mem {start : Session} (h : Run start ms c) {m : Moment σ} (mem : m ∈ ms) :
    ∃ earlier, Run start earlier m.before := by
  obtain ⟨early, late, split⟩ := List.append_of_mem mem
  exact ⟨early, h.before split⟩

end Run

end Switchboard
