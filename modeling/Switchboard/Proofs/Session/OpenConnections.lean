import Switchboard.Proofs.Session.Endings
/-!
# Going on with a connection and leaving it

What the steps of a session do to an open connection. A step goes on with it (`Session.Stays`) or
leaves it (`Session.Leaves`): while the session goes on, it hands frames to the transport that it
holds and to no other, and when it leaves, no request is left that could wait on the connection. A
step that is `Session.Steady` also learns nothing of the peer's liveness and measures no round trip;
only an answer to the probe under way does so (`Station.Hearing`).

The sorts of acts that a session tells of meanwhile are `Act.KeepsTo` and `Act.PartsBy`.
-/

namespace Switchboard

namespace Act

/-- Neither a state is entered nor a frame handed over. -/
def isPlain : Act → Bool
  | entered _ | delivered .. => false
  | _ => true

/-- What a session tells of while it goes on with the transport that it holds: no failure, and no
frame for another transport. -/
def KeepsTo (held : Option ConnectionId) : Act → Prop
  | entered event => event.error = none
  | delivered id _ => held = some id
  | _ => True

/-- What a session tells of while it is left without a connection: no error but the fault that led
there and those that are final, and no frame but the farewell. -/
def PartsBy (fault : Option Error) : Act → Prop
  | entered event => ∀ e, event.error = some e → fault = some e ∨ e.isFinal = true
  | delivered _ packet => packet.purpose = .farewell
  | _ => True

theorem keepsTo_of_plain {act : Act} (plain : act.isPlain = true) (held : Option ConnectionId) :
    act.KeepsTo held := by
  cases act <;> first | exact trivial | cases plain

theorem partsBy_of_plain {act : Act} (plain : act.isPlain = true) (fault : Option Error) :
    act.PartsBy fault := by
  cases act <;> first | exact trivial | cases plain

/-- A session that tells of no fault tells of none in particular. -/
theorem PartsBy.of_none {act : Act} (h : act.PartsBy none) (fault : Option Error) :
    act.PartsBy fault := by
  cases act with
  | entered event => intro e error; exact .inr ((h e error).resolve_left nofun)
  | delivered id packet => exact h
  | _ => exact trivial

end Act

namespace Session

/-- What a session has measured of the round trips to its peer. -/
def estimates (s : Session) : Option Duration × Option Duration × Option Duration :=
  (s.stats.latency, s.stats.smoothed, s.stats.jitter)

variable {s t : Session}

/-! ## Steps that add plain acts -/

/-- The journal grew by plain acts. -/
abbrev AddsPlain : Session → Session → Prop := Adds fun act => act.isPlain = true

theorem Adds.keeping (h : AddsPlain s t) (held : Option ConnectionId) :
    Adds (Act.KeepsTo held) s t :=
  h.mono fun _ plain => Act.keepsTo_of_plain plain held

theorem Adds.parting (h : AddsPlain s t) (fault : Option Error) :
    Adds (Act.PartsBy fault) s t :=
  h.mono fun _ plain => Act.partsBy_of_plain plain fault

theorem addsPlain_failRequests (s : Session) : AddsPlain s s.failRequests :=
  s.adds_failRequests fun _ => rfl

theorem addsPlain_expireRequests (s : Session) (now : Instant) :
    AddsPlain s (s.expireRequests now) :=
  s.adds_expireRequests now fun _ => rfl

theorem addsPlain_discardQueue (s : Session) : AddsPlain s s.discardQueue :=
  s.adds_discardQueue fun _ => rfl

theorem addsPlain_unplug (s : Session) : AddsPlain s s.unplug := s.adds_unplug fun _ _ => rfl

theorem addsPlain_complete (s : Session) (frame : Frame) : AddsPlain s (s.complete frame) :=
  s.adds_complete frame fun _ => rfl

end Session

namespace Station

variable {σ : Type} [Environment σ]

open Session (Adds AddsPlain)

/-! ## What leaving tells of -/

/-- A failure is told of once, and after it nothing but what is final. -/
theorem told_failAttempt (c : Station σ) (error : Error) (now : Instant) :
    ∃ acts later, (c.failAttempt error now).session.journal = c.session.journal ++
        (acts ++ .entered ⟨c.session.key, c.session.target, .error, some error,
          Environment.wallClock (c.failAttempt error now).world⟩ :: later) ∧
      (∀ act ∈ acts, act.isPlain = true) ∧ ∀ act ∈ later, act.PartsBy none := by
  obtain ⟨s, stopped, plain, key, target⟩ : ∃ s, s = (if c.session.state.isLive then
      c.modify Session.failRequests else c).stopConnection.session ∧ AddsPlain c.session s ∧
        s.key = c.session.key ∧ s.target = c.session.target := by
    refine ⟨_, rfl, Adds.trans ?_ (Session.addsPlain_unplug _), ?_⟩
    · split
      · exact Session.addsPlain_failRequests _
      · exact .of_eq rfl
    · dsimp only [stopConnection]
      rw [Session.unplug_eq]
      split
      · dsimp only [modify]
        rw [Session.failRequests_eq]
        exact ⟨rfl, rfl⟩
      · exact ⟨rfl, rfl⟩
  obtain ⟨acts, journal, sort⟩ := plain
  -- Nobody is asked for anything after the transport is let go, so the clock stands still.
  obtain ⟨wall, clock⟩ : ∃ wall, wall = Environment.wallClock (c.failAttempt error now).world :=
    ⟨_, rfl⟩
  obtain ⟨later, after, final⟩ :=
    (s.enter .error (some error) wall).adds_retryOrGiveUp (P := Act.PartsBy none) now wall
      (fun _ => trivial) (fun _ => trivial) fun _ e told => by
        rw [← Option.some.inj told]
        exact .inr rfl
  have same : (c.failAttempt error now).session =
      (s.enter .error (some error) wall).retryOrGiveUp now wall := by
    rw [stopped, clock]
    rfl
  refine ⟨acts, later, ?_, sort, final⟩
  rw [← clock, same, after]
  dsimp only [Session.enter, Session.note]
  rw [journal, key, target, List.append_assoc, List.append_assoc]
  rfl

theorem adds_failAttempt (c : Station σ) (error : Error) (now : Instant) :
    Adds (Act.PartsBy (some error)) c.session (c.failAttempt error now).session := by
  obtain ⟨acts, later, journal, plain, final⟩ := told_failAttempt c error now
  refine ⟨_, journal, ?_⟩
  intro act mem
  rcases List.mem_append.mp mem with mem | mem
  · exact Act.partsBy_of_plain (plain act mem) _
  · rcases List.mem_cons.mp mem with rfl | mem
    · intro e told
      exact .inl told
    · exact (final act mem).of_none _

/-- A failed attempt or connection leaves the session without one. -/
theorem dead_failAttempt (c : Station σ) (error : Error) (now : Instant) :
    (c.failAttempt error now).session.state.isLive = false := by
  obtain ⟨s, wall, after, -, -, failed, -⟩ := c.failAttempt_session error now
  rw [after]
  rcases decision : s.policy.count.decision with ⟨attempt, delay⟩ | attempts
  · rw [Session.retryOrGiveUp_of_retry decision]
    show s.state.isLive = false
    rw [failed]
    rfl
  · rw [Session.retryOrGiveUp_of_exhausted decision]
    rfl

/-- Of an open connection that failed no request is left. -/
theorem pending_failAttempt {c : Station σ} (live : c.session.state.isLive = true) (error : Error)
    (now : Instant) : (c.failAttempt error now).session.requests.pending = [] := by
  have cleared (s : Session) (none : s.requests.pending = []) (wall : UInt64) :
      (s.retryOrGiveUp now wall).requests.pending = [] := by
    rcases decision : s.policy.count.decision with ⟨attempt, delay⟩ | attempts
    · rw [Session.retryOrGiveUp_of_retry decision]
      exact none
    · rw [Session.retryOrGiveUp_of_exhausted decision, Session.failRequests_eq]
      rfl
  unfold failAttempt
  rw [if_pos live]
  dsimp only [modify, enter, stopConnection]
  apply cleared
  rw [Session.unplug_eq, Session.failRequests_eq]
  rfl

/-- A failure ends the generation. -/
theorem parted_failAttempt (c : Station σ) (error : Error) (now : Instant) :
    (c.failAttempt error now).session.generation = c.session.generation + 1 ∧
      (c.failAttempt error now).session.heartbeat.interval = c.session.heartbeat.interval := by
  have kept (s : Session) (wall : UInt64) :
      (s.retryOrGiveUp now wall).generation = s.generation ∧
        (s.retryOrGiveUp now wall).heartbeat = s.heartbeat := by
    rcases decision : s.policy.count.decision with ⟨attempt, delay⟩ | attempts
    · rw [Session.retryOrGiveUp_of_retry decision]
      exact ⟨rfl, rfl⟩
    · rw [Session.retryOrGiveUp_of_exhausted decision, Session.failRequests_eq,
        Session.discardQueue_eq]
      exact ⟨rfl, rfl⟩
  unfold failAttempt
  dsimp only [modify, enter, stopConnection]
  rw [(kept _ _).1, (kept _ _).2, Session.unplug_eq]
  split
  · rw [Session.failRequests_eq]
    exact ⟨rfl, rfl⟩
  · exact ⟨rfl, rfl⟩

theorem parted_failAuth (c : Station σ) (reason : String) :
    (c.failAuth reason).session.generation = c.session.generation + 1 ∧
      (c.failAuth reason).session.heartbeat.interval = c.session.heartbeat.interval ∧
        (c.failAuth reason).session.estimates = c.session.estimates := by
  unfold failAuth
  dsimp only [modify, enter, stopConnection]
  rw [Session.failRequests_eq, Session.unplug_eq, Session.discardQueue_eq]
  exact ⟨rfl, rfl, rfl⟩

theorem adds_failAuth (c : Station σ) (reason : String) :
    Adds (Act.PartsBy none) c.session (c.failAuth reason).session := by
  have stopped := (Session.addsPlain_failRequests c.session).trans (Session.addsPlain_unplug _)
  have discarded := stopped.trans
    (Session.addsPlain_discardQueue (c.session.failRequests.unplug.cancelTimers))
  unfold failAuth
  refine (discarded.parting none).trans (.of_note rfl ?_)
  intro e told
  rw [← Option.some.inj told]
  exact .inr rfl

theorem adds_disconnect (c : Station σ) :
    Adds (Act.PartsBy none) c.session c.disconnect.session := by
  unfold disconnect
  split
  · dsimp only
    have entered : Adds (Act.PartsBy none) c.session (c.enter .disconnecting none).session :=
      .of_note rfl (nofun : ∀ e, none = some e → _)
    have parted (d : Station σ) :
        Adds (Act.PartsBy none) d.session ((d.stopConnection.modify fun s =>
          { s.cancelTimers.discardQueue.failRequests with
            policy := s.cancelTimers.discardQueue.failRequests.policy.reset }).enter
          .disconnected none).session := by
      have stopped := (Session.addsPlain_unplug d.session).trans
        (Session.addsPlain_discardQueue d.session.unplug.cancelTimers)
      have settled := (stopped.trans (Session.addsPlain_failRequests _)).parting none
      exact settled.trans (.of_note rfl (nofun : ∀ e, none = some e → _))
    refine entered.trans (Adds.trans ?_ (parted _))
    split
    · exact adds_sendAnyway _ _ fun _ _ _ => rfl
    · exact .of_eq rfl
  · exact .of_eq rfl

theorem adds_close (c : Station σ) : Adds (Act.PartsBy none) c.session c.close.session := by
  unfold close
  split
  · exact adds_disconnect c
  · exact (Session.addsPlain_unplug c.session.cancelTimers).parting none

/-- An attempt tells of no failure but of what the world says when it refuses. -/
theorem adds_beginAttempt (c : Station σ) (state : SessionState) (now : Instant) :
    ∃ acts fault, (c.beginAttempt state now).session.journal = c.session.journal ++ acts ∧
      (∀ act ∈ acts, act.PartsBy fault) ∧ (fault = none ∨ acts.any Act.refuses = true) := by
  obtain ⟨d, entered⟩ : ∃ d, d = c.stopConnection.enter state none := ⟨_, rfl⟩
  have told (fault : Option Error) : Adds (Act.PartsBy fault) c.session d.session := by
    rw [entered]
    exact ((Session.addsPlain_unplug c.session).parting fault).trans
      (.of_note rfl (nofun : ∀ e, none = some e → _))
  unfold beginAttempt
  dsimp only
  rw [← entered]
  split
  · obtain ⟨acts, journal, sort⟩ := (told none).trans
      (.of_note (t := d.session.note (.dialled d.session.connectionId d.session.target true))
        rfl trivial)
    exact ⟨acts, none, journal, sort, .inl rfl⟩
  · next e world answer =>
    obtain ⟨refused, noted⟩ :
        ∃ act, act = Act.dialled d.session.connectionId d.session.target false := ⟨_, rfl⟩
    rw [← noted]
    obtain ⟨acts, journal, sort⟩ := told (some e)
    obtain ⟨more, after, sortToo⟩ := adds_failAttempt ⟨d.session.note refused, world⟩ e now
    refine ⟨acts ++ refused :: more, some e, ?_, ?_, .inr ?_⟩
    · rw [after, Session.note, journal, List.append_assoc, List.append_assoc]
      rfl
    · intro act mem
      rcases List.mem_append.mp mem with mem | mem
      · exact sort act mem
      · rcases List.mem_cons.mp mem with rfl | mem
        · rw [noted]
          exact trivial
        · exact sortToo act mem
    · rw [noted]
      simp [Act.refuses]

end Station

/-! ## Going on and leaving -/

/-- The frame is an answer to the probe. -/
def Probe.AnsweredBy (probe : Probe) (frame : Frame) : Prop :=
  frame.kind? = some .pong ∧ frame.requestId? = some probe.requestId

namespace Session

/-- What a session knows of the liveness of its peer, and when it asks next. -/
def watch (s : Session) : Heartbeat × TimerSlot := (s.heartbeat, s.timers.heartbeat)

/-- A session goes on with its open connection. -/
structure Stays (s t : Session) : Prop where
  live : t.state.isLive = true
  connectionId : t.connectionId = s.connectionId
  transport : t.transport = s.transport
  interval : t.heartbeat.interval = s.heartbeat.interval
  adds : Adds (Act.KeepsTo s.transport) s t

/-- It does so, and learns nothing of its peer's liveness. -/
structure Steady (s t : Session) : Prop extends Stays s t where
  watch : t.watch = s.watch
  estimates : t.estimates = s.estimates

/-- A session leaves its open connection, for the given fault if there is one. -/
structure Leaves (fault : Option Error) (s t : Session) : Prop where
  dead : t.state.isLive = false
  settled : t.requests.pending = []
  later : s.generation < t.generation
  interval : t.heartbeat.interval = s.heartbeat.interval
  adds : Adds (Act.PartsBy fault) s t

/-- A session is without an open connection, and stays without one. -/
structure Away (fault : Option Error) (s t : Session) : Prop where
  dead : t.state.isLive = false
  interval : t.heartbeat.interval = s.heartbeat.interval
  adds : Adds (Act.PartsBy fault) s t

variable {s t u : Session}

theorem Stays.refl (live : s.state.isLive = true) : Stays s s :=
  ⟨live, rfl, rfl, rfl, .of_eq rfl⟩

theorem Stays.trans (h : Stays s t) (k : Stays t u) : Stays s u where
  live := k.live
  connectionId := k.connectionId.trans h.connectionId
  transport := k.transport.trans h.transport
  interval := k.interval.trans h.interval
  adds := h.adds.trans (h.transport ▸ k.adds)

theorem Steady.refl (live : s.state.isLive = true) : Steady s s := ⟨.refl live, rfl, rfl⟩

theorem Steady.trans (h : Steady s t) (k : Steady t u) : Steady s u :=
  ⟨h.toStays.trans k.toStays, k.watch.trans h.watch, k.estimates.trans h.estimates⟩

/-- What an open connection carries, a session goes on with. -/
theorem Steady.of_core (live : s.state.isLive = true) (core : t.core = s.core)
    (adds : Adds (Act.KeepsTo s.transport) s t) : Steady s t where
  live := (congrArg (fun s => s.state.isLive) core :).trans live
  connectionId := (congrArg Session.connectionId core :)
  transport := (congrArg Session.transport core :)
  interval := (congrArg (fun s => s.heartbeat.interval) core :)
  adds := adds
  watch := (congrArg Session.watch core :)
  estimates := (congrArg Session.estimates core :)

theorem steady_enter {state : SessionState} {wall : UInt64} (live : state.isLive = true) :
    Steady s (s.enter state none wall) :=
  ⟨⟨live, rfl, rfl, rfl, .of_note rfl rfl⟩, rfl, rfl⟩

theorem requests_complete_of_idle (s : Session) (frame : Frame)
    (idle : s.requests.pending = []) : (s.complete frame).requests.pending = [] := by
  unfold complete
  split
  · exact idle
  · split
    · exact idle
    · split
      · show KeyMap.erase _ s.requests.pending = []
        rw [idle]
        rfl
      · exact idle

theorem heartbeat_complete (s : Session) (frame : Frame) :
    (s.complete frame).watch = s.watch ∧ (s.complete frame).connectionId = s.connectionId ∧
      (s.complete frame).transport = s.transport ∧
        (s.complete frame).estimates = s.estimates := by
  unfold complete
  split
  · exact ⟨rfl, rfl, rfl, rfl⟩
  · split
    · exact ⟨rfl, rfl, rfl, rfl⟩
    · split <;> exact ⟨rfl, rfl, rfl, rfl⟩

theorem steady_complete (live : s.state.isLive = true) (frame : Frame) :
    Steady s (s.complete frame) := by
  obtain ⟨watch, connectionId, transport, estimates⟩ := s.heartbeat_complete frame
  refine ⟨⟨?_, connectionId, transport, ?_, (addsPlain_complete s frame).keeping _⟩, watch,
    estimates⟩
  · rw [state_complete]
    exact live
  · exact congrArg (fun w => w.1.interval) watch

theorem Leaves.complete {fault : Option Error} (h : Leaves fault s t) (frame : Frame) :
    Leaves fault s (t.complete frame) where
  dead := by
    rw [state_complete]
    exact h.dead
  settled := requests_complete_of_idle t frame h.settled
  later := by
    rw [show (t.complete frame).generation = t.generation from
      congrArg ConnectionId.generation (t.heartbeat_complete frame).2.1]
    exact h.later
  interval := (congrArg (fun w => w.1.interval) (t.heartbeat_complete frame).1).trans h.interval
  adds := h.adds.trans ((addsPlain_complete t frame).parting fault)

end Session

namespace Station

variable {σ : Type} [Environment σ] {c : Station σ}

open Session (Adds AddsPlain Stays Steady Leaves Away)

theorem steady_sendAnyway (live : c.session.state.isLive = true) (purpose : Purpose)
    (bytes : Except Error Bytes) : Steady c.session (c.sendAnyway purpose bytes).session :=
  .of_core live (core_sendAnyway c _ _) (adds_sendAnyway c bytes fun _ _ held => held)

theorem steady_flushQueue (live : c.session.state.isLive = true) :
    Steady c.session c.flushQueue.session :=
  .of_core live (core_flushQueue c) (adds_flushQueue c fun _ _ _ held => held)

/-- A frame that could be written is told of exactly if the transport takes it. -/
theorem told_sendAnyway {id : ConnectionId} (held : c.session.transport = some id)
    (purpose : Purpose) (written : Bytes) :
    ∃ acts, (c.sendAnyway purpose (.ok written)).session.journal = c.session.journal ++ acts ∧
      (.delivered id ⟨purpose, written⟩ ∈ acts ↔
        (Environment.deliver c.world id written).1 = .ok ()) := by
  dsimp only [sendAnyway]
  unfold sendDirect
  rw [held]
  dsimp only
  rcases Environment.deliver c.world id written with ⟨e | ⟨⟨⟩⟩, world⟩
  · exact ⟨[], (List.append_nil _).symm, by simp⟩
  · exact ⟨[.delivered id ⟨purpose, written⟩], rfl, by simp⟩

/-- An answer to a probe of the past, or of none, is no answer. -/
theorem recordPong_of_other (s : Session) (id : String) (now : Instant)
    (other : ∀ probe, s.heartbeat.probe = some probe → probe.requestId ≠ id) :
    s.recordPong id now = s := by
  have unanswered : s.heartbeat.answer id now = (none, s.heartbeat) := by
    unfold Heartbeat.answer
    split
    · next probe under => exact if_neg (other probe under)
    · rfl
  unfold Session.recordPong
  rw [unanswered]

theorem stays_recordPong {s : Session} (live : s.state.isLive = true) (id : String)
    (now : Instant) : Stays s (s.recordPong id now) := by
  have interval : (s.heartbeat.answer id now).2.interval = s.heartbeat.interval := by
    unfold Heartbeat.answer
    split
    · split <;> rfl
    · rfl
  unfold Session.recordPong
  split
  all_goals
    next answered =>
    rw [answered] at interval
    exact ⟨live, rfl, rfl, interval, .of_eq rfl⟩

/-- The answer to the probe under way is taken as that, and the next tick stays as it is. -/
theorem watch_recordPong_of_answer {s : Session} {probe : Probe}
    (under : s.heartbeat.probe = some probe) (now : Instant) :
    (s.recordPong probe.requestId now).watch =
      ({ s.heartbeat with probe := none }, s.timers.heartbeat) := by
  have answered : s.heartbeat.answer probe.requestId now =
      (some (now.since probe.sentAt), { s.heartbeat with probe := none }) := by
    unfold Heartbeat.answer
    rw [under]
    exact if_pos rfl
  unfold Session.recordPong
  rw [answered]
  rfl

/-- A step of the exchange of credentials keeps the connection unless it is a rejection, and it
measures nothing. -/
theorem steady_or_leaves_negotiate (live : c.session.state.isLive = true) (phase : AuthPhase) :
    Steady c.session (c.negotiate phase).session ∨
      Leaves none c.session (c.negotiate phase).session ∧
        (c.negotiate phase).session.estimates = c.session.estimates := by
  have entered {state : SessionState} (open_ : state.isLive = true) :
      Steady c.session (c.enter state none).session :=
    Session.steady_enter open_
  have step := c.negotiate_step phase
  generalize c.negotiate phase = d at step ⊢
  cases step with
  | ignored => exact .inl (.refl live)
  | parked => exact .inl (entered rfl)
  | given => exact .inl ((entered rfl).trans (steady_sendAnyway rfl _ _))
  | accepted => exact .inl ((entered rfl).trans (steady_flushQueue rfl))
  | @rejected reason =>
    have rest := resting_failAuth c (reason.getD "credentials rejected")
    obtain ⟨later, interval, estimates⟩ := parted_failAuth c (reason.getD "credentials rejected")
    refine .inr ⟨⟨rest.isLive_eq, rest.requests, ?_, interval, adds_failAuth c _⟩, estimates⟩
    rw [later]
    exact Nat.lt_succ_self _

/-- What a frame that is heard does to the connection. -/
inductive Hearing (c : Station σ) (frame : Frame) (d : Station σ) : Prop
  | steady (h : Steady c.session d.session)
      (other : ∀ probe, c.session.heartbeat.probe = some probe → ¬ probe.AnsweredBy frame)
  | answered {probe : Probe} (under : c.session.heartbeat.probe = some probe)
      (answer : probe.AnsweredBy frame) (h : Stays c.session d.session)
      (watch : d.session.watch =
        ({ c.session.heartbeat with probe := none }, c.session.timers.heartbeat))
  | rejected (kind : frame.kind? = some .authenticate) (h : Leaves none c.session d.session)
      (estimates : d.session.estimates = c.session.estimates)

theorem hearing_attend (live : c.session.state.isLive = true) (frame : Frame) (now : Instant) :
    Hearing c frame (c.attend frame now) := by
  have step := c.attend_step frame now
  generalize c.attend frame now = d at step ⊢
  cases step with
  | ignored silent =>
    exact .steady (.refl live) fun probe _ answer => silent _ answer.1 answer.2
  | answered other =>
    exact .steady (steady_sendAnyway live _ _) fun probe _ answer => other answer.1
  | assigned other =>
    exact .steady ⟨⟨live, rfl, rfl, rfl, .of_eq rfl⟩, rfl, rfl⟩ fun probe _ answer =>
      other answer.1
  | @ponged id pong named =>
    have stays : Stays c.session (c.session.recordPong id now) := stays_recordPong live id now
    by_cases awaited : ∃ probe, c.session.heartbeat.probe = some probe ∧ probe.requestId = id
    · obtain ⟨probe, under, rfl⟩ := awaited
      exact .answered under ⟨pong, named⟩ stays (watch_recordPong_of_answer under now)
    · have other : ∀ probe, c.session.heartbeat.probe = some probe → probe.requestId ≠ id := by
        intro probe under same
        exact awaited ⟨probe, under, same⟩
      have same := recordPong_of_other _ id now other
      refine .steady ⟨stays, congrArg Session.watch same, congrArg Session.estimates same⟩ ?_
      intro probe under answer
      exact other probe under (Option.some.inj (answer.2.symm.trans named))

omit [Environment σ] in
/-- What was noted before changes nothing about what a frame does. -/
theorem Hearing.after {b d : Station σ} {frame : Frame} (noted : Steady c.session b.session)
    (plain : AddsPlain c.session b.session) (h : Hearing b frame d) : Hearing c frame d := by
  have heartbeat : b.session.heartbeat = c.session.heartbeat := congrArg Prod.fst noted.watch
  have tick : b.session.timers.heartbeat = c.session.timers.heartbeat :=
    congrArg Prod.snd noted.watch
  cases h with
  | steady h other => exact .steady (noted.trans h) (heartbeat ▸ other)
  | answered under answer h watch =>
    rw [heartbeat] at under watch
    rw [tick] at watch
    exact .answered under answer (noted.toStays.trans h) watch
  | rejected kind h estimates =>
    have generation : b.session.generation = c.session.generation :=
      congrArg ConnectionId.generation noted.connectionId
    have leaves : Leaves none c.session d.session := ⟨h.dead, h.settled, generation ▸ h.later,
      h.interval.trans noted.interval, (plain.parting none).trans h.adds⟩
    exact .rejected kind leaves (estimates.trans noted.estimates)

omit [Environment σ] in
/-- Nor does it matter that the request that the frame answers is settled then. -/
theorem Hearing.complete {d : Station σ} {frame : Frame} (h : Hearing c frame d) :
    Hearing c frame (d.modify fun s => s.complete frame) := by
  cases h with
  | steady h other => exact .steady (h.trans (Session.steady_complete h.live frame)) other
  | answered under answer h watch =>
    have completed := Session.steady_complete h.live frame
    exact .answered under answer (h.trans completed.toStays) (completed.watch.trans watch)
  | rejected kind h estimates =>
    exact .rejected kind (h.complete frame)
      ((d.session.heartbeat_complete frame).2.2.2.trans estimates)

theorem hearing_hear (live : c.session.state.isLive = true) (frame : Frame) (now : Instant) :
    Hearing c frame (c.hear frame now) := by
  obtain ⟨heard, hears⟩ : ∃ d, d = c.modify fun s =>
    s.note (.heard ⟨frame, (Message.ofFrame frame).toOption.join⟩) := ⟨_, rfl⟩
  have noted : Steady c.session heard.session := by
    rw [hears]
    exact ⟨⟨live, rfl, rfl, rfl, .of_note rfl trivial⟩, rfl, rfl⟩
  unfold hear
  dsimp only
  rw [← hears]
  refine Hearing.complete (Hearing.after noted (hears ▸ .of_note rfl rfl) ?_)
  unfold negotiateMessage
  split
  · next header read =>
    have kind := Message.kind?_of_authenticate read
    rw [attend_of_authenticate read]
    rcases steady_or_leaves_negotiate noted.live header.phase with steady | ⟨leaves, estimates⟩
    · refine .steady steady ?_
      -- A step of the exchange of credentials is no answer to a probe.
      intro probe _ answer
      rw [answer.1] at kind
      cases kind
    · exact .rejected kind leaves estimates
  · exact hearing_attend noted.live frame now

end Station

end Switchboard
