import Switchboard.Proofs.Session.Accounts
import Switchboard.Proofs.Session.Provenance
/-!
# The strides of a run

A poll does what it does timer by timer, and each timer may fail an attempt or start one. A `Leg` is
a call other than a poll, or what a poll does about one timer, and a `Stride` is a leg together with
the station that it found. The strides of a run are its history in smaller steps: within one of them
no more than one attempt or connection fails.

A `March` is to strides what a run is to moments (`Run.march`).
-/

namespace Switchboard

/-- A call, or what a poll does about one timer. -/
inductive Leg where
  | whole (call : Call)
  | timer (kind : TimerKind) (now : Instant)

namespace Leg

/-- The call that a leg is a part of. -/
def cause : Leg → Call
  | whole call => call
  | timer _ now => .pollTimers now

/-- The instant that was handed in. -/
def now? : Leg → Option Instant
  | whole (.connect now) | whole (.handleEvent _ _ now) | whole (.pollTimers now)
  | whole (.request _ _ _ now) | timer _ now => some now
  | _ => none

/-- A poll is not a leg, but several. -/
def IsSingle : Leg → Prop
  | whole (.pollTimers _) => False
  | _ => True

end Leg

/-- The legs of a call, one after the other. -/
def Call.legs : Call → List Leg
  | .pollTimers now => [.timer .connectTimeout now, .timer .heartbeat now, .timer .retry now]
  | call => [.whole call]

theorem Call.isSingle_of_mem_legs {call : Call} {leg : Leg} (mem : leg ∈ call.legs) :
    leg.IsSingle := by
  cases call with
  | pollTimers now =>
    simp only [legs, List.mem_cons, List.not_mem_nil, or_false] at mem
    rcases mem with rfl | rfl | rfl <;> exact trivial
  | _ => cases List.mem_singleton.mp mem; exact trivial

section Strides

open Session (Edits)

variable {σ : Type} [Environment σ]

namespace Station

/-- What a poll does about one timer. -/
def fire (c : Station σ) (now : Instant) : TimerKind → Station σ
  | .connectTimeout => c.pollConnect now
  | .heartbeat => c.pollHeartbeat now
  | .retry => c.pollRetry now

/-- Carry out a leg. -/
def go (c : Station σ) : Leg → Station σ
  | .whole call => (c.perform call).2
  | .timer kind now => c.fire now kind

/-- A call is its legs in a row. -/
theorem perform_eq_foldl (c : Station σ) (call : Call) :
    (c.perform call).2 = call.legs.foldl go c := by
  cases call <;> rfl

end Station

/-- A leg of a run. -/
structure Stride (σ : Type) where
  /-- The session and the world that the leg found. -/
  before : Station σ
  leg : Leg

namespace Stride

def after (s : Stride σ) : Station σ := s.before.go s.leg

/-- What the session did during the leg. -/
def acts (s : Stride σ) : List Act :=
  s.after.session.journal.drop s.before.session.journal.length

/-- The strides of legs in a row. -/
def along (c : Station σ) : List Leg → List (Stride σ)
  | [] => []
  | leg :: legs => ⟨c, leg⟩ :: along (c.go leg) legs

variable {s : Stride σ}

/-- What a leg does to its session, and the entry of the request that it may have taken. -/
theorem edits (s : Stride σ) : ∃ t answer, Edits s.leg.cause s.before.session t ∧
    t.journal = s.before.session.journal ++ s.acts ∧
    s.after.session = t.entering s.leg.cause answer := by
  obtain ⟨c, leg⟩ := s
  have timed (kind : TimerKind) {now : Instant}
      (moves : Station.Moves (.pollTimers now) c (c.fire now kind)) :
      ∃ t answer, Edits (.pollTimers now) c.session t ∧
        t.journal = c.session.journal ++ Stride.acts ⟨c, .timer kind now⟩ ∧
        (c.fire now kind).session = t.entering (.pollTimers now) answer := by
    refine ⟨_, .ok none, moves.edits, ?_, rfl⟩
    obtain ⟨acts, added⟩ := moves.edits.journal_prefix
    rw [Stride.acts, Stride.after, Station.go, ← added, List.drop_left]
  cases leg with
  | whole call =>
    obtain ⟨t, edits, journal, after⟩ := Moment.edits ⟨c, call⟩
    exact ⟨t, _, edits, journal, after⟩
  | timer kind now =>
    cases kind with
    | connectTimeout =>
      exact timed .connectTimeout (Station.moves_pollConnect c (Station.apart_of_tick rfl) now)
    | heartbeat => exact timed .heartbeat (Station.moves_pollHeartbeat rfl)
    | retry =>
      exact timed .retry (Station.moves_pollRetry c ⟨now, .inr rfl⟩ now)

theorem journal (s : Stride σ) :
    s.after.session.journal = s.before.session.journal ++ s.acts := by
  obtain ⟨t, answer, -, journal, after⟩ := s.edits
  rw [after, Session.journal_entering, journal]

theorem acts_eq {acts : List Act}
    (h : s.after.session.journal = s.before.session.journal ++ acts) : s.acts = acts :=
  List.append_cancel_left (s.journal.symm.trans h)

theorem acts_of_still (h : s.after = s.before) : s.acts = [] :=
  acts_eq (by rw [h, List.append_nil])

/-- All acts of a leg come of its call. -/
theorem comesOf (s : Stride σ) : ∀ act ∈ s.acts, act.ComesOf s.leg.cause s.before.session := by
  obtain ⟨t, answer, edits, journal, -⟩ := s.edits
  exact edits.comesOf.mem journal

theorem sameIdentity (s : Stride σ) :
    Session.SameIdentity s.before.session s.after.session := by
  obtain ⟨t, answer, edits, -, after⟩ := s.edits
  rw [after]
  exact edits.sameIdentity.trans (t.sameIdentity_entering _ _)

theorem sorted_after (sorted : KeyMap.Sorted s.before.session.requests.pending) :
    KeyMap.Sorted s.after.session.requests.pending := by
  obtain ⟨t, answer, edits, -, after⟩ := s.edits
  have kept := edits.effects.sorted_pending sorted
  rw [after]
  exact Session.sorted_entering kept _ _

/-- The acts of legs in a row are those of the legs, one after the other. -/
theorem journal_along (c : Station σ) (legs : List Leg) :
    (legs.foldl Station.go c).session.journal =
      c.session.journal ++ (along c legs).flatMap Stride.acts := by
  induction legs generalizing c with
  | nil => exact (List.append_nil _).symm
  | cons leg legs ih =>
    have first := Stride.journal ⟨c, leg⟩
    rw [List.foldl_cons, ih, along, List.flatMap_cons, ← List.append_assoc, ← first]
    rfl

end Stride

/-- The strides of a call. -/
def Moment.strides (m : Moment σ) : List (Stride σ) := Stride.along m.before m.call.legs

/-- The strides of a run. -/
def Run.strides (ms : List (Moment σ)) : List (Stride σ) := ms.flatMap Moment.strides

/-- What the session did during a call, it did in the strides of the call. -/
theorem Moment.acts_eq_strides (m : Moment σ) : m.acts = m.strides.flatMap Stride.acts := by
  refine Moment.acts_eq ?_
  rw [Moment.after, Station.perform_eq_foldl]
  exact Stride.journal_along _ _

/-- Strides one after the other. Between them the owner may take the journal, and the world may
change by itself. -/
inductive March (start : Session) : List (Stride σ) → Station σ → Prop where
  | begin (world : σ) : March start [] ⟨start, world⟩
  | go {strides : List (Stride σ)} {c : Station σ} (h : March start strides c) {leg : Leg}
      (single : leg.IsSingle) : March start (strides ++ [⟨c, leg⟩]) (c.go leg)
  | drain {strides : List (Stride σ)} {c : Station σ} (h : March start strides c) :
      March start strides (c.modify Session.drained)
  | world {strides : List (Stride σ)} {c : Station σ} (h : March start strides c) (world : σ) :
      March start strides { c with world }

theorem March.along {start : Session} {strides : List (Stride σ)} {c : Station σ}
    (h : March start strides c) (legs : List Leg) (single : ∀ leg ∈ legs, leg.IsSingle) :
    March start (strides ++ Stride.along c legs) (legs.foldl Station.go c) := by
  induction legs generalizing strides c with
  | nil => rwa [Stride.along, List.append_nil]
  | cons leg legs ih =>
    have first := h.go (single leg List.mem_cons_self)
    have rest := ih first fun other mem => single other (List.mem_cons_of_mem _ mem)
    rw [List.append_assoc] at rest
    exact rest

theorem Run.march {start : Session} {ms : List (Moment σ)} {c : Station σ} (h : Run start ms c) :
    March start (Run.strides ms) c := by
  induction h with
  | begin world => exact .begin world
  | @call ms c _ call ih =>
    have walked := ih.along call.legs fun leg => Call.isSingle_of_mem_legs
    rw [← Station.perform_eq_foldl] at walked
    rw [Run.strides, List.flatMap_append, List.flatMap_singleton]
    exact walked
  | drain _ ih => exact ih.drain
  | world _ world ih => exact ih.world world

/-- The strides before a stride lead to the station that it found. -/
theorem March.before {start : Session} {strides : List (Stride σ)} {c : Station σ}
    (h : March start strides c) {early late : List (Stride σ)} {stride : Stride σ}
    (split : strides = early ++ stride :: late) :
    March start early stride.before ∧ stride.leg.IsSingle := by
  induction h generalizing late with
  | begin world => simp at split
  | @go strides c h leg single ih =>
    rcases split_of_concat split with ⟨rfl, rfl, -⟩ | ⟨rest, -, split⟩
    · exact ⟨h, single⟩
    · exact ih split
  | drain _ ih => exact ih split
  | world _ _ ih => exact ih split

/-- And with the stride they lead to where it ends. -/
theorem March.through {start : Session} {strides : List (Stride σ)} {c : Station σ}
    (h : March start strides c) {early late : List (Stride σ)} {stride : Stride σ}
    (split : strides = early ++ stride :: late) :
    March start (early ++ [stride]) stride.after := by
  obtain ⟨before, single⟩ := h.before split
  exact before.go single

end Strides

end Switchboard
