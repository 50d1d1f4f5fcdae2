import Switchboard.Proofs.Session.Courses
import Switchboard.Proofs.Session.Provenance
/-!
# The frames of the PINGs

A session that probes its peer hands over the frame of a PING. It does so only at a tick that sends
one (`Stride.pings_of_probe`): whatever else it hands over is a caller's frame, an answer to the
peer's own PING, credentials or the farewell. The frames held back come from callers
(`March.submitted`), so none of them is a PING of the session either.
-/

namespace Switchboard

open Session (Adds InPhase)

/-- The frame of a PING that the session sends by itself is handed over. -/
def Act.isProbe : Act → Bool
  | delivered _ packet => decide (packet.purpose = .ping)
  | _ => false

/-- The frames held back come from callers. -/
def Session.HoldsSubmitted (s : Session) : Prop :=
  ∀ packet ∈ s.queue, packet.purpose.isSubmitted = true

namespace Act

variable {act : Act}

theorem isProbe_of_partsBy {fault : Option Error} (parts : act.PartsBy fault) :
    act.isProbe = false := by
  cases act with
  | delivered id packet =>
    have farewell : packet.purpose = .farewell := parts
    simp [isProbe, farewell]
  | _ => rfl

/-- Of a session that holds back what callers handed in, a PING is handed over at polls only. -/
theorem ComesOf.isProbe_eq_false {cause : Call} {s : Session} (h : act.ComesOf cause s)
    (held : s.HoldsSubmitted) (other : ∀ now, cause ≠ .pollTimers now) : act.isProbe = false := by
  cases act with
  | delivered id packet =>
    refine decide_eq_false fun ping => ?_
    rcases h with mem | polled
    · exact Purpose.ne_ping (held packet mem) ping
    · obtain ⟨now, polls⟩ := polled ping
      exact other now polls
  | _ => rfl

end Act

section Probes

variable {σ : Type} [Environment σ]

namespace Stride

variable {s : Stride σ}

theorem holdsSubmitted (held : s.before.session.HoldsSubmitted) :
    s.after.session.HoldsSubmitted := by
  obtain ⟨t, answer, edits, -, after⟩ := s.edits
  intro packet mem
  rw [after, t.queue_entering] at mem
  exact (edits.mem_queue mem).elim (held packet) id

/-- The frame of a PING is handed over by a tick that sends one. -/
theorem pings_of_probe (single : s.leg.IsSingle) (phase : InPhase s.before.session)
    (held : s.before.session.HoldsSubmitted) {act : Act} (told : act ∈ s.acts)
    (probe : act.isProbe = true) : ∃ probe, s.Pings probe := by
  have none {P : Prop} (unprobed : act.isProbe = false) : P := by
    rw [probe] at unprobed
    cases unprobed
  -- A timer that might be due in the course of another call than a poll sends no PING.
  have unprobed {P : Prop} {cause : Call} (moves : Station.Moves cause s.before s.after)
      (other : ∀ now, cause ≠ .pollTimers now) : P :=
    none ((moves.edits.comesOf.mem s.journal act told).isProbe_eq_false held other)
  obtain ⟨c, leg⟩ := s
  cases leg with
  | whole call =>
    refine none ((Moment.comesOf ⟨c, call⟩ act told).isProbe_eq_false held ?_)
    rintro now rfl
    exact single
  | timer kind now =>
    cases kind with
    | connectTimeout =>
      exact unprobed (Station.moves_pollConnect c Call.not_flushes_close now) nofun
    | retry =>
      have asked : (Call.connect now).Attempts := ⟨now, .inl rfl⟩
      exact unprobed (Station.moves_pollRetry c asked now) nofun
    | heartbeat =>
      by_cases due : c.session.timers.heartbeat.isDue now = true
      · obtain ⟨-, ⟨stale, -, -, leaves⟩ | ⟨probe, pings, -⟩⟩ := Station.tick_cases phase due
        · exact none (Act.isProbe_of_partsBy (leaves.adds.mem (Stride.journal _) act told))
        · exact ⟨probe, pings⟩
      · have still : Stride.acts ⟨c, .timer .heartbeat now⟩ = [] :=
          Stride.acts_of_still (Station.pollHeartbeat_early (Bool.not_eq_true _ ▸ due))
        rw [still] at told
        cases told

end Stride

theorem March.submitted_of_start {start : Session} {strides : List (Stride σ)} {c : Station σ}
    (h : March start strides c) (held : start.HoldsSubmitted) : c.session.HoldsSubmitted := by
  induction h with
  | begin world => exact held
  | @go strides c _ leg _ ih => exact Stride.holdsSubmitted (s := ⟨c, leg⟩) ih
  | drain _ ih => exact ih
  | world _ _ ih => exact ih

theorem March.submitted {key : String} {target : Target} {config : SessionConfig}
    {generation serial : Nat} {mark : String} {strides : List (Stride σ)} {c : Station σ}
    (h : March (.create key target config generation serial mark) strides c) :
    c.session.HoldsSubmitted :=
  h.submitted_of_start (List.forall_mem_nil _)

end Probes

end Switchboard
