import Switchboard.Proofs.Session.Provenance
import Switchboard.Proofs.Session.Tally
/-!
# The milestones of a call

To ask for a transport and to be connected are the milestones of a session. A call passes one of
them at most (`Moment.passage`): it asks for a transport once, with an id of a generation
that was not used before, or it ends with a connected session, or it passes none.
-/

namespace Switchboard

/-- The act asks for a transport or enters the connected state. -/
def Act.isMilestone : Act → Bool
  | entered event => decide (event.state = .connected)
  | dialled .. => true
  | _ => false

/-- The milestones that acts tell of. -/
def milestones (acts : List Act) : List Act := acts.filter Act.isMilestone

theorem milestones_append (acts more : List Act) :
    milestones (acts ++ more) = milestones acts ++ milestones more :=
  List.filter_append ..

/-- Of acts that come of a call which neither reports an event nor begins an attempt none is a
milestone. -/
theorem Act.ComesOf.isMilestone_eq_false {cause : Call} {s : Session} {act : Act}
    (h : act.ComesOf cause s) (quiet : ∀ id event now, cause ≠ .handleEvent id event now)
    (idle : ¬ cause.Attempts) : act.isMilestone = false := by
  cases act with
  | entered event =>
    refine decide_eq_false fun connected => ?_
    obtain ⟨id, event, now, reports⟩ := h.2.2.2 connected
    exact quiet id event now reports
  | dialled => exact absurd h idle
  | _ => rfl

namespace Session

variable {cause : Call} {s t : Session}

/-- What adds no milestone leaves the milestones as they are. -/
theorem milestones_of_adds (h : Adds (fun act => act.isMilestone = false) s t) :
    milestones t.journal = milestones s.journal := by
  obtain ⟨acts, journal, minor⟩ := h
  have none : milestones acts = [] :=
    List.filter_eq_nil_iff.mpr fun act mem => Bool.eq_false_iff.mp (minor act mem)
  rw [journal, milestones_append, none, List.append_nil]

theorem adds_enter {state : SessionState} (other : state ≠ .connected) (error : Option Error)
    (wall : UInt64) : Adds (fun act => act.isMilestone = false) s (s.enter state error wall) :=
  .of_note rfl (decide_eq_false other)

/-- The session of a transport that has opened is connected. -/
theorem milestones_recordOpened (s : Session) (now : Instant) (wall : UInt64) :
    milestones (s.recordOpened now wall).journal =
      milestones s.journal ++ [.entered ⟨s.key, s.target, .connected, none, wall⟩] := by
  unfold recordOpened
  dsimp only
  split
  · refine (milestones_append _ _).trans (congrArg (· ++ _) ?_)
    exact milestones_of_adds (adds_enter (by nofun) none wall)
  · exact milestones_append _ _

/-- Generations only grow. -/
theorem Edit.generation_le (h : Edit cause s t) : s.generation ≤ t.generation := by
  cases h with
  | settleAll => exact Nat.le_of_eq (congrArg generation (failRequests_eq _)).symm
  | expire now => exact Nat.le_of_eq (congrArg generation (expireRequests_eq_foldl _ now)).symm
  | giveUp => rw [failRequests_eq, discardQueue_eq]; exact Nat.le_refl _
  | reject => rw [discardQueue_eq]; exact Nat.le_refl _
  | tearDown => rw [failRequests_eq, discardQueue_eq]; exact Nat.le_refl _
  | hold packet => exact Nat.le_of_eq (congrArg generation (enqueue_eq _ packet)).symm
  | unplug => rw [unplug_eq]; exact Nat.le_succ _
  | _ => exact Nat.le_refl _

theorem Edits.generation_le (h : Edits cause s t) : s.generation ≤ t.generation := by
  induction h with
  | refl => exact Nat.le_refl _
  | tail _ edit ih => exact Nat.le_trans ih edit.generation_le

end Session

variable {σ : Type} [Environment σ]

namespace Station

open Session (adds_enter milestones_of_adds)

variable (c : Station σ)

/-! ## Steps that pass none -/

variable {c} in
/-- What might be done in the course of a teardown passes none. -/
theorem milestones_of_moves {d : Station σ} (h : Moves .close c d) :
    milestones d.session.journal = milestones c.session.journal := by
  refine milestones_of_adds (h.edits.comesOf.mono fun act comes => ?_)
  refine comes.isMilestone_eq_false nofun ?_
  rintro ⟨now, asked | asked⟩ <;> cases asked

theorem milestones_failAttempt
    (state : c.session.state.isAttempting = true ∨ c.session.state.isLive = true) (error : Error)
    (now : Instant) :
    milestones (c.failAttempt error now).session.journal = milestones c.session.journal :=
  milestones_of_moves (moves_failAttempt Call.not_flushes_close state error now)

theorem milestones_sendAnyway (purpose : Purpose) (bytes : Except Error Bytes) :
    milestones (c.sendAnyway purpose bytes).session.journal = milestones c.session.journal :=
  milestones_of_adds (adds_sendAnyway c bytes fun _ _ _ => rfl)

theorem milestones_flushQueue :
    milestones c.flushQueue.session.journal = milestones c.session.journal :=
  milestones_of_adds (adds_flushQueue c fun _ _ _ _ => rfl)

theorem milestones_heartbeatTick (now : Instant) :
    milestones (c.heartbeatTick now).session.journal = milestones c.session.journal := by
  have expired : milestones (c.session.expireRequests now).journal =
      milestones c.session.journal :=
    milestones_of_adds (c.session.adds_expireRequests now fun _ => rfl)
  by_cases live : c.session.state.isLive = true
  · cases probe : c.session.heartbeat.probe with
    | some stale =>
      rw [heartbeatTick_of_silence c live probe]
      refine (milestones_failAttempt _ (.inr ?_) _ now).trans expired
      dsimp only [modify, Session.advanced]
      rw [Session.expireRequests_eq_foldl]
      exact live
    | none =>
      rw [heartbeatTick_of_answer c live probe]
      dsimp only [modify, Session.scheduleTick]
      refine (milestones_sendAnyway _ _ _).trans ?_
      dsimp only [Session.probing, Session.advanced]
      exact expired
  · unfold heartbeatTick
    rw [if_neg live]

theorem milestones_pollHeartbeat (now : Instant) :
    milestones (c.pollHeartbeat now).session.journal = milestones c.session.journal := by
  rw [pollHeartbeat_eq]
  split
  · exact milestones_heartbeatTick _ now
  · rfl

/-! ## Frames that make a session connected -/

/-- The session is as connected as before, or it has just become connected. -/
def Arrives (c d : Station σ) : Prop :=
  milestones d.session.journal = milestones c.session.journal ∨
    d.session.state = .connected ∧ ∃ wall, milestones d.session.journal =
      milestones c.session.journal ++
        [.entered ⟨c.session.key, c.session.target, .connected, none, wall⟩]

variable {c} in
omit [Environment σ] in
theorem Arrives.congr {b d : Station σ} (h : Arrives b d)
    (milestones : milestones b.session.journal = milestones c.session.journal)
    (key : b.session.key = c.session.key) (target : b.session.target = c.session.target) :
    Arrives c d := by
  unfold Arrives at h
  rwa [milestones, key, target] at h

theorem arrives_opened (now : Instant) : Arrives c (c.opened now) := by
  unfold opened
  split
  · refine .inr ⟨?_, _,
      (milestones_flushQueue _).trans (c.session.milestones_recordOpened now _)⟩
    refine (congrArg Session.state (core_flushQueue _)).trans ?_
    dsimp only [modify]
    unfold Session.recordOpened
    dsimp only
    split <;> rfl
  · exact .inl rfl

theorem arrives_negotiate (phase : AuthPhase) : Arrives c (c.negotiate phase) := by
  have entered {state : SessionState} (other : state ≠ .connected) :
      milestones (c.enter state none).session.journal = milestones c.session.journal :=
    milestones_of_adds (adds_enter other none _)
  have step := c.negotiate_step phase
  generalize c.negotiate phase = d at step ⊢
  cases step with
  | ignored => exact .inl rfl
  | parked => exact .inl (entered (by nofun))
  | given => exact .inl ((milestones_sendAnyway _ _ _).trans (entered (by nofun)))
  | accepted =>
    exact .inr ⟨congrArg Session.state (core_flushQueue _), _,
      (milestones_flushQueue _).trans (milestones_append _ _)⟩
  | rejected waiting =>
    have failed (reason : String) : Moves .close c (c.failAuth reason) :=
      moves_failAuth Call.not_flushes_close waiting reason
    exact .inl (milestones_of_moves (failed _))

theorem arrives_negotiateMessage (message : Option Message) :
    Arrives c (c.negotiateMessage message) := by
  unfold negotiateMessage
  split
  · exact arrives_negotiate c _
  · exact .inl rfl

theorem arrives_receive (bytes : Bytes) (now : Instant) : Arrives c (c.receive bytes now) := by
  unfold receive
  split
  · next live =>
    dsimp only
    split
    · next frame _ =>
      obtain ⟨heard, hears⟩ : ∃ d, d = (c.modify fun s =>
        s.recordArrival bytes (Environment.wallClock c.world)).modify fun s =>
          s.note (.heard ⟨frame, (Message.ofFrame frame).toOption.join⟩) := ⟨_, rfl⟩
      have attended : Moves .close heard (heard.attend frame now) :=
        moves_attend (by rw [hears]; exact live) frame now
      have same := attended.edits.sameIdentity
      have negotiated : Arrives c ((heard.attend frame now).negotiateMessage
          (Message.ofFrame frame).toOption.join) := by
        refine (arrives_negotiateMessage _ _).congr ?_ ?_ ?_
        · rw [milestones_of_moves attended, hears]
          exact milestones_of_adds (.of_note rfl rfl)
        · rw [same.key, hears]
          rfl
        · rw [same.target, hears]
          rfl
      unfold hear
      dsimp only
      rw [← hears]
      have completed (s : Session) : milestones (s.complete frame).journal = milestones s.journal :=
        milestones_of_adds (s.adds_complete frame fun _ => rfl)
      exact negotiated.imp (completed _).trans
        (And.imp (Session.state_complete _ frame).trans fun ⟨wall, arrives⟩ =>
          ⟨wall, (completed _).trans arrives⟩)
    · exact .inl rfl
  · exact .inl rfl

theorem arrives_handleEvent (id : ConnectionId) (event : TransportEvent) (now : Instant) :
    Arrives c (c.handleEvent id event now) := by
  unfold handleEvent
  split
  · cases event with
    | opened => exact arrives_opened c now
    | frame bytes => exact arrives_receive c bytes now
    | failed reason =>
      exact .inl (milestones_of_moves (moves_lost Call.not_flushes_close c reason now))
    | closed => exact .inl (milestones_of_moves (moves_lost Call.not_flushes_close c _ now))
  · exact .inl rfl

/-! ## Attempts -/

/-- An attempt asks for a transport of the next generation, and whether it is granted or refused
that generation is used up. -/
theorem milestones_beginAttempt {state : SessionState} (attempts : state.isAttempting = true)
    (now : Instant) :
    ∃ granted, milestones (c.beginAttempt state now).session.journal =
        milestones c.session.journal ++
          [.dialled ⟨c.session.key, c.session.generation + 1⟩ c.session.target granted] ∧
      c.session.generation + 1 ≤ (c.beginAttempt state now).session.generation := by
  obtain ⟨begun, begins⟩ : ∃ d, d = c.stopConnection.enter state none := ⟨_, rfl⟩
  have journal : milestones begun.session.journal = milestones c.session.journal := by
    rw [begins]
    refine milestones_of_adds ((c.session.adds_unplug fun _ _ => rfl).trans (adds_enter ?_ none _))
    rintro rfl
    cases attempts
  obtain ⟨id, target⟩ : begun.session.connectionId =
      ⟨c.session.key, c.session.generation + 1⟩ ∧ begun.session.target = c.session.target := by
    rw [begins]
    dsimp only [enter, modify, stopConnection]
    rw [Session.unplug_eq]
    exact ⟨rfl, rfl⟩
  have dialled (granted : Bool) : milestones (begun.session.note
        (.dialled begun.session.connectionId begun.session.target granted)).journal =
      milestones c.session.journal ++
        [.dialled ⟨c.session.key, c.session.generation + 1⟩ c.session.target granted] := by
    refine (milestones_append _ _).trans ?_
    rw [journal, id, target]
    rfl
  have generation : begun.session.generation = c.session.generation + 1 :=
    congrArg ConnectionId.generation id
  unfold beginAttempt
  dsimp only
  rw [← begins]
  split
  · exact ⟨true, dialled true, Nat.le_of_eq generation.symm⟩
  · next e world _ =>
    have entered : begun.session.state = state := by rw [begins]; rfl
    have fails : Moves .close
        ⟨begun.session.note (.dialled begun.session.connectionId begun.session.target false),
          world⟩ _ :=
      moves_failAttempt Call.not_flushes_close (.inl (entered.symm ▸ attempts)) e now
    refine ⟨false, (milestones_of_moves fails).trans (dialled false), ?_⟩
    rw [← generation]
    exact fails.edits.generation_le

end Station

namespace Moment

variable (m : Moment σ)

theorem generation_le : m.before.session.generation ≤ m.after.session.generation := by
  obtain ⟨s, edits, -, after⟩ := m.edits
  rw [after, s.generation_entering]
  exact edits.generation_le

/-- The milestone that a call passes, if it passes one. -/
inductive Passage (m : Moment σ) : Prop
  | nothing (acts : milestones m.acts = [])
  /-- A transport is asked for, and the generation of its id was not used before. -/
  | attempt (generation : Nat) (granted : Bool)
      (acts : milestones m.acts =
        [.dialled ⟨m.before.session.key, generation⟩ m.before.session.target granted])
      (fresh : m.before.session.generation < generation)
      (used : generation ≤ m.after.session.generation)
  /-- The session is connected, and stays so until the end of the call. -/
  | arrival (wall : UInt64) (acts : milestones m.acts =
        [.entered ⟨m.before.session.key, m.before.session.target, .connected, none, wall⟩])
      (state : m.after.session.state = .connected)
      (reported : ∃ id event now, m.call = .handleEvent id event now)

variable {m} in
theorem milestones_of_journal {acts : List Act} (h : milestones m.after.session.journal =
    milestones m.before.session.journal ++ acts) : milestones m.acts = acts := by
  rw [m.journal, milestones_append] at h
  exact List.append_cancel_left h

variable {m} in
theorem passage_of_still (h : milestones m.after.session.journal =
    milestones m.before.session.journal) : m.Passage :=
  .nothing (milestones_of_journal (h.trans (List.append_nil _).symm))

theorem passage_connect (c : Station σ) (now : Instant) : Passage ⟨c, .connect now⟩ := by
  by_cases able : c.session.state.canConnect = true
  · have begins : (Moment.mk c (.connect now)).after = (c.modify fun s =>
        { s.cancelRetry with policy := s.policy.reset, lastError := none }).beginAttempt
          .connecting now := if_pos able
    obtain ⟨granted, journal, used⟩ := Station.milestones_beginAttempt (c.modify fun s =>
      { s.cancelRetry with policy := s.policy.reset, lastError := none })
      (rfl : SessionState.connecting.isAttempting = true) now
    rw [← begins] at journal used
    exact .attempt _ granted (milestones_of_journal journal) (Nat.lt_succ_self _) used
  · have still : (Moment.mk c (.connect now)).after = c := if_neg able
    exact passage_of_still (by rw [still])

theorem passage_pollTimers (c : Station σ) (now : Instant) : Passage ⟨c, .pollTimers now⟩ := by
  obtain ⟨b, waits⟩ : ∃ b, b = (c.pollConnect now).pollHeartbeat now := ⟨_, rfl⟩
  have moves : Station.Moves (.pollTimers now) c b := by
    rw [waits]
    exact (Station.moves_pollConnect c (Station.apart_of_tick rfl) now).trans
      (Station.moves_pollHeartbeat rfl)
  have same := moves.edits.sameIdentity
  have journal : milestones b.session.journal = milestones c.session.journal := by
    rw [waits]
    exact (Station.milestones_pollHeartbeat _ now).trans (Station.milestones_of_moves
      (Station.moves_pollConnect c Call.not_flushes_close now))
  have after : (Moment.mk c (.pollTimers now)).after = b.pollRetry now := by
    rw [waits]
    rfl
  rw [Station.pollRetry_eq] at after
  split at after
  · obtain ⟨granted, attempt, used⟩ :=
      Station.milestones_beginAttempt (b.modify fun s => s.retryTaken now)
        (by split <;> rfl : (if b.session.hasConnected then SessionState.reconnecting
          else .connecting).isAttempting = true) now
    rw [← after] at attempt used
    have acts := attempt.trans (congrArg (· ++ _) journal)
    rw [show (b.modify fun s => s.retryTaken now).session.key = c.session.key from same.key,
      show (b.modify fun s => s.retryTaken now).session.target = c.session.target from
        same.target] at acts
    exact .attempt _ granted (milestones_of_journal acts)
      (Nat.lt_succ_of_le moves.edits.generation_le) used
  · exact passage_of_still (by rw [after]; exact journal)

variable {m} in
/-- Calls that neither report an event nor begin an attempt pass none. -/
theorem passage_of_quiet (quiet : ∀ id event now, m.call ≠ .handleEvent id event now)
    (idle : ¬ m.call.Attempts) : m.Passage := by
  refine .nothing (List.filter_eq_nil_iff.mpr fun act mem => ?_)
  rw [(m.comesOf act mem).isMilestone_eq_false quiet idle]
  exact Bool.false_ne_true

/-- A call passes one milestone at most. -/
theorem passage (m : Moment σ) : m.Passage := by
  obtain ⟨c, call⟩ := m
  cases call with
  | connect now => exact passage_connect c now
  | handleEvent id event now =>
    rcases Station.arrives_handleEvent c id event now with still | ⟨state, wall, arrives⟩
    · exact passage_of_still still
    · exact .arrival wall (milestones_of_journal arrives) state ⟨id, event, now, rfl⟩
  | pollTimers now => exact passage_pollTimers c now
  | _ =>
    refine passage_of_quiet nofun ?_
    rintro ⟨now, asked | asked⟩ <;> cases asked

end Moment

end Switchboard
