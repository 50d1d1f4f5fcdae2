import Switchboard.Proofs.Session.Provenance
/-!
# A call hears one frame

A call brings at most one frame, and a session that hears it notes it once, whatever else it does in
answer. So the frames that a session heard can be counted by the acts that tell of them.
-/

namespace Switchboard

/-- The frames that acts tell of. -/
def inboundsOf (acts : List Act) : List Inbound := acts.filterMap Act.inbound?

/-- What a session hears of bytes that arrive under an id. -/
def Session.hearing (s : Session) (id : ConnectionId) (bytes : Bytes) : List Inbound :=
  if id = s.connectionId ∧ s.state.isLive = true then
    match Frame.decode bytes with
    | .ok frame => [⟨frame, (Message.ofFrame frame).toOption.join⟩]
    | .error _ => []
  else []

theorem Session.length_hearing_le (s : Session) (id : ConnectionId) (bytes : Bytes) :
    (s.hearing id bytes).length ≤ 1 := by
  unfold hearing
  split
  · split
    · exact Nat.le_refl _
    · exact Nat.zero_le _
  · exact Nat.zero_le _

/-- Of acts that come of a call without a frame none hears one. -/
theorem Act.ComesOf.deaf {cause : Call} {s : Session} {act : Act} (h : act.ComesOf cause s)
    (other : ∀ bytes, ¬ cause.Brings bytes) : act.inbound? = none := by
  cases act with
  | heard inbound =>
    obtain ⟨bytes, brings⟩ := h
    exact absurd brings (other bytes)
  | _ => rfl

section Hearing

open Session (Adds)

variable {σ : Type} [Environment σ] {cause : Call} {s t : Session}

theorem inboundsOf_append (acts more : List Act) :
    inboundsOf (acts ++ more) = inboundsOf acts ++ inboundsOf more :=
  List.filterMap_append

/-- What adds no act of hearing leaves the frames that were heard as they are. -/
theorem inboundsOf_of_adds (h : Adds (fun act => act.inbound? = none) s t) :
    inboundsOf t.journal = inboundsOf s.journal := by
  obtain ⟨acts, journal, deaf⟩ := h
  have none : inboundsOf acts = [] := List.filterMap_eq_nil_iff.mpr deaf
  rw [journal, inboundsOf_append, none, List.append_nil]

namespace Station

variable {c : Station σ}

/-- Steps that might be taken in the course of a call that is no event hear nothing. -/
theorem inboundsOf_moves {d : Station σ} (h : Moves cause c d)
    (quiet : ∀ id event now, cause ≠ .handleEvent id event now) :
    inboundsOf d.session.journal = inboundsOf c.session.journal :=
  inboundsOf_of_adds (h.edits.comesOf.mono fun _ comes =>
    comes.deaf fun bytes ⟨id, now, brings⟩ => quiet id (.frame bytes) now brings)

theorem inboundsOf_negotiate (c : Station σ) (phase : AuthPhase) :
    inboundsOf (c.negotiate phase).session.journal = inboundsOf c.session.journal := by
  have entered (state : SessionState) :
      inboundsOf (c.enter state none).session.journal = inboundsOf c.session.journal :=
    inboundsOf_of_adds (.of_note rfl rfl)
  have step := c.negotiate_step phase
  generalize c.negotiate phase = d at step ⊢
  cases step with
  | ignored => rfl
  | parked => exact entered .needAuth
  | given =>
    exact (inboundsOf_of_adds (adds_sendAnyway _ _ fun _ _ _ => rfl)).trans
      (entered .authenticating)
  | accepted =>
    exact (inboundsOf_of_adds (adds_flushQueue _ fun _ _ _ _ => rfl)).trans (entered .connected)
  | rejected waiting =>
    have failed (reason : String) : Moves .close c (c.failAuth reason) :=
      moves_failAuth Call.not_flushes_close waiting reason
    exact inboundsOf_moves (failed _) nofun

/-- Of a frame that was decoded nothing else is heard. -/
theorem inboundsOf_hear (live : c.session.state.isLive = true) (frame : Frame) (now : Instant) :
    inboundsOf (c.hear frame now).session.journal = inboundsOf c.session.journal ++
      [⟨frame, (Message.ofFrame frame).toOption.join⟩] := by
  have attended : inboundsOf ((c.modify fun s => s.note (.heard
      ⟨frame, (Message.ofFrame frame).toOption.join⟩)).attend frame now).session.journal =
      inboundsOf c.session.journal ++ [⟨frame, (Message.ofFrame frame).toOption.join⟩] := by
    have moves : Moves .close _ _ := moves_attend (c := c.modify fun s => s.note (.heard
      ⟨frame, (Message.ofFrame frame).toOption.join⟩)) live frame now
    exact (inboundsOf_moves moves nofun).trans (inboundsOf_append _ _)
  unfold hear
  refine (inboundsOf_of_adds (Session.adds_complete _ frame fun _ => rfl)).trans ?_
  unfold negotiateMessage
  split
  · exact (inboundsOf_negotiate _ _).trans attended
  · exact attended

/-- Bytes are heard as the frame that they are, once. -/
theorem inboundsOf_handleEvent (c : Station σ) (id : ConnectionId) (bytes : Bytes)
    (now : Instant) : inboundsOf (c.handleEvent id (.frame bytes) now).session.journal =
      inboundsOf c.session.journal ++ c.session.hearing id bytes := by
  unfold handleEvent Session.hearing
  by_cases own : id = c.session.connectionId
  · rw [if_pos own]
    dsimp only
    unfold receive
    by_cases live : c.session.state.isLive = true
    · rw [if_pos live, if_pos ⟨own, live⟩]
      dsimp only
      cases Frame.decode bytes with
      | ok frame =>
        exact inboundsOf_hear (c := c.modify fun s =>
          s.recordArrival bytes (Environment.wallClock c.world)) live frame now
      | error e => exact (List.append_nil _).symm
    · rw [if_neg live, if_neg fun both => live both.2, List.append_nil]
  · rw [if_neg own, if_neg fun both => own both.1, List.append_nil]

end Station

namespace Moment

theorem inboundsOf_after (m : Moment σ) : inboundsOf m.after.session.journal =
    inboundsOf m.before.session.journal ++ inboundsOf m.acts := by
  rw [m.journal, inboundsOf_append]

/-- A call that brings no bytes hears nothing. -/
theorem deaf (m : Moment σ) (other : ∀ bytes, ¬ m.call.Brings bytes) : inboundsOf m.acts = [] := by
  rw [inboundsOf, List.filterMap_eq_nil_iff]
  exact fun act mem => (m.comesOf act mem).deaf other

/-- A call that brings bytes hears the frame that they are. -/
theorem heard_eq (c : Station σ) (id : ConnectionId) (bytes : Bytes) (now : Instant) :
    inboundsOf (mk c (.handleEvent id (.frame bytes) now)).acts = c.session.hearing id bytes :=
  List.append_cancel_left ((inboundsOf_after _).symm.trans
    (c.inboundsOf_handleEvent id bytes now))

/-- A call hears no more than the one frame that it may bring. -/
theorem hears_once (m : Moment σ) : (inboundsOf m.acts).length ≤ 1 := by
  by_cases brings : ∃ bytes, m.call.Brings bytes
  · obtain ⟨bytes, id, now, call⟩ := brings
    obtain ⟨before, _⟩ := m
    cases call
    rw [heard_eq]
    exact Session.length_hearing_le _ id bytes
  · rw [m.deaf fun bytes mem => brings ⟨bytes, mem⟩]
    exact Nat.zero_le _

end Moment

end Hearing

end Switchboard
