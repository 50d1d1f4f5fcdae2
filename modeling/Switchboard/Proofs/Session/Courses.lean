import Switchboard.Proofs.Session.OpenConnections
/-!
# The courses of a leg

A leg that finds a connection open goes on with it or leaves it, and a leg that finds none opens one
or stays away from all. `Stride.Course` says which. Of the legs that go on, one takes the answer to
the probe under way and one sends the next probe; and there is one way only to give a connection up
for want of an answer, a tick that finds a probe under way.

Every leg of a coherent session takes one of these courses (`Stride.course`). What follows of whole
runs is said with the properties that need it.
-/

namespace Switchboard

open Session (InPhase Resting Attempting)

/-- The leg brings a frame. -/
def Leg.isFrame : Leg → Bool
  | whole (.handleEvent _ (.frame _) _) => true
  | _ => false

section Courses

open Session (Adds AddsPlain Stays Steady Leaves Away)

variable {σ : Type} [Environment σ]

/-- A state is entered because the peer stays silent. -/
def Act.isSilence : Act → Bool
  | entered event => decide (event.error = some .heartbeatTimeout)
  | _ => false

theorem Act.isSilence_of_plain {act : Act} (plain : act.isPlain = true) :
    act.isSilence = false := by
  cases act <;> first | rfl | cases plain

theorem Act.countP_isSilence {acts : List Act} (plain : ∀ act ∈ acts, act.isPlain = true) :
    acts.countP Act.isSilence = 0 := by
  apply List.countP_eq_zero.mpr
  intro act mem
  rw [Act.isSilence_of_plain (plain act mem)]
  exact Bool.false_ne_true

/-- A silent peer is told of as the fault alone. -/
theorem Act.fault_of_silence {act : Act} {fault : Option Error} (parts : act.PartsBy fault)
    (silent : act.isSilence = true) : fault = some .heartbeatTimeout := by
  cases act with
  | entered event =>
    have error : event.error = some .heartbeatTimeout := of_decide_eq_true silent
    exact (parts _ error).resolve_right nofun
  | _ => cases silent

namespace Stride

/-- The peer sends a PONG with this id over the open connection. -/
structure Pongs (s : Stride σ) (id : String) (now : Instant) : Prop where
  live : s.before.session.state.isLive = true
  brought : ∃ bytes frame,
    s.leg = .whole (.handleEvent s.before.session.connectionId (.frame bytes) now) ∧
      Frame.decode bytes = .ok frame ∧ frame.kind? = some .pong ∧ frame.requestId? = some id

/-- A tick that is due asks the peer of an open connection for a sign of life. The frame that asks
is handed over if the transport takes it. -/
structure Pings (s : Stride σ) (probe : Probe) : Prop where
  ticks : s.leg = .timer .heartbeat probe.sentAt
  due : s.before.session.timers.heartbeat.isDue probe.sentAt = true
  live : s.before.session.state.isLive = true
  idle : s.before.session.heartbeat.probe = none
  fresh : probe.requestId = s.before.session.requests.nextId
  clock : probe.sentWall = Environment.wallClock s.before.world
  issued : s.after.session.heartbeat.probe = some probe
  offered : ∀ id bytes, s.before.session.transport = some id →
    s.before.session.probeBytes probe.sentWall = .ok bytes →
      (.delivered id ⟨.ping, bytes⟩ ∈ s.acts ↔
        (Environment.deliver s.before.world id bytes).1 = .ok ())

/-- What a leg does to the connection of its session. -/
inductive Course (s : Stride σ) : Prop
  | steady (found : s.before.session.state.isLive = true)
      (h : Steady s.before.session s.after.session)
      (other : ∀ probe now, s.before.session.heartbeat.probe = some probe →
        ¬ s.Pongs probe.requestId now)
  | answered {probe : Probe} {now : Instant} (under : s.before.session.heartbeat.probe = some probe)
      (pongs : s.Pongs probe.requestId now) (h : Stays s.before.session s.after.session)
      (watch : s.after.session.watch = ({ s.before.session.heartbeat with probe := none },
        s.before.session.timers.heartbeat))
  | pings {probe : Probe} (pings : s.Pings probe) (h : Stays s.before.session s.after.session)
      (watch : s.after.session.watch = ({ s.before.session.heartbeat with probe := some probe },
        some ⟨.heartbeat, probe.sentAt + s.before.session.heartbeat.interval,
          s.before.session.generation⟩))
  /-- The tick finds that the peer has not answered. -/
  | silent {stale : Probe} {now : Instant} (ticks : s.leg = .timer .heartbeat now)
      (due : s.before.session.timers.heartbeat.isDue now = true)
      (found : s.before.session.state.isLive = true)
      (under : s.before.session.heartbeat.probe = some stale)
      (told : s.acts.countP Act.isSilence = 1)
      (h : Leaves (some .heartbeatTimeout) s.before.session s.after.session)
  | leaves {fault : Option Error} (found : s.before.session.state.isLive = true)
      (other : fault ≠ some .heartbeatTimeout) (unanswered : ∀ id now, ¬ s.Pongs id now)
      (h : Leaves fault s.before.session s.after.session)
  /-- Without a connection only a dial that the world refuses can tell of a silent peer. -/
  | away {fault : Option Error} (found : s.before.session.state.isLive = false)
      (refused : fault = some .heartbeatTimeout → s.acts.any Act.refuses = true)
      (h : Away fault s.before.session s.after.session)
  | opens {now : Instant} (found : Attempting s.before.session)
      (ticks : s.leg = .whole (.handleEvent s.before.session.connectionId .opened now))
      (h : Stays s.before.session s.after.session)
      (watch : s.after.session.watch =
        ({ s.before.session.heartbeat with probe := none, running := true },
          some ⟨.heartbeat, now + s.before.session.heartbeat.interval,
            s.before.session.generation⟩))

/-- Without a fault nothing is told of a silent peer, neither where there is no connection -/
theorem Course.stays_away {s : Stride σ} (found : s.before.session.state.isLive = false)
    (h : Away none s.before.session s.after.session) : s.Course := by
  refine .away found ?_ h
  nofun

/-- nor where an open one is left. -/
theorem Course.leaves_quietly {s : Stride σ} (found : s.before.session.state.isLive = true)
    (unanswered : ∀ id now, ¬ s.Pongs id now)
    (h : Leaves none s.before.session s.after.session) : s.Course := by
  refine .leaves found ?_ unanswered h
  nofun

theorem Course.of_still {s : Stride σ} (still : s.after = s.before)
    (other : ∀ probe now, s.before.session.heartbeat.probe = some probe →
      ¬ s.Pongs probe.requestId now) : s.Course := by
  by_cases found : s.before.session.state.isLive = true
  · refine .steady found ?_ other
    rw [still]
    exact .refl found
  · have dead := Bool.not_eq_true _ ▸ found
    refine .stays_away dead ?_
    rw [still]
    exact ⟨dead, rfl, .of_eq rfl⟩

omit [Environment σ] in
/-- A PONG that an event brings is a frame of the connection that is open. -/
theorem frame_of_pongs {c : Station σ} {id : ConnectionId} {bytes : Bytes} {request : String}
    {now at_ : Instant}
    (pongs : Pongs ⟨c, .whole (.handleEvent id (.frame bytes) now)⟩ request at_) :
    (id = c.session.connectionId ∧ c.session.state.isLive = true) ∧
      ∃ frame, Frame.decode bytes = .ok frame ∧ frame.kind? = some .pong ∧
        frame.requestId? = some request := by
  obtain ⟨live, other, frame, brought, decodes, answer⟩ := pongs
  injection brought with same
  injection same with own event
  injection event with same
  subst same
  exact ⟨⟨own, live⟩, frame, decodes, answer⟩

omit [Environment σ] in
/-- Only a frame brings a PONG. -/
theorem not_pongs {s : Stride σ} (other : s.leg.isFrame = false) (id : String) (now : Instant) :
    ¬ s.Pongs id now := by
  rintro ⟨-, bytes, frame, brought, -⟩
  rw [brought] at other
  cases other

end Stride

/-- The session at a tick that sends a probe, before it sends: old requests are gone, and the probe
is under way. -/
def Session.asking (s : Session) (wall : UInt64) (now : Instant) : Session :=
  ((s.tickTaken now).expireRequests now).probing wall now

namespace Session

variable (s : Session) (wall : UInt64) (now : Instant)

theorem nextId_expireRequests : (s.expireRequests now).requests.nextId = s.requests.nextId := by
  rw [expireRequests_eq_foldl, Requests.foldl_erase_eq]
  rfl

/-- That old requests expire is nothing to the next probe. -/
theorem probeBytes_expireRequests : (s.expireRequests now).probeBytes wall = s.probeBytes wall := by
  unfold probeBytes
  rw [nextId_expireRequests, expireRequests_eq_foldl]

theorem heartbeat_asking : (s.asking wall now).heartbeat =
    { s.heartbeat with probe := some ⟨s.requests.nextId, wall, now⟩ } := by
  unfold asking probing
  rw [nextId_expireRequests, expireRequests_eq_foldl]
  rfl

/-- A session that asks holds on to its connection. -/
theorem link_asking : (s.asking wall now).state = s.state ∧
    (s.asking wall now).connectionId = s.connectionId ∧
    (s.asking wall now).transport = s.transport := by
  unfold asking
  rw [expireRequests_eq_foldl]
  exact ⟨rfl, rfl, rfl⟩

theorem addsPlain_asking : AddsPlain s (s.asking wall now) :=
  (addsPlain_expireRequests (s.tickTaken now) now).congr rfl rfl

end Session

namespace Station

open Stride (Course)

variable {c : Station σ}

/-! ### Attempts -/

theorem interval_beginAttempt (c : Station σ) (state : SessionState) (now : Instant) :
    (c.beginAttempt state now).session.heartbeat.interval = c.session.heartbeat.interval := by
  unfold beginAttempt
  dsimp only
  split
  · dsimp only [modify, stopConnection]
    rw [Session.unplug_eq]
    rfl
  · rw [(parted_failAttempt _ _ _).2]
    dsimp only [modify, stopConnection]
    rw [Session.unplug_eq]
    rfl

theorem dead_beginAttempt (c : Station σ) {state : SessionState}
    (attempts : state.isAttempting = true) (now : Instant) :
    (c.beginAttempt state now).session.state.isLive = false := by
  rcases c.beginAttempt_cases attempts now with
    ⟨-, -, -, entered, -⟩ | ⟨d, error, -, after, -⟩
  · rw [entered]
    exact state.isLive_eq_false attempts
  · rw [after]
    exact dead_failAttempt d error now

theorem course_of_attempt {b : Station σ} {leg : Leg} {state : SessionState} {now : Instant}
    (found : c.session.state.isLive = false) (after : c.go leg = b.beginAttempt state now)
    (journal : b.session.journal = c.session.journal)
    (interval : b.session.heartbeat.interval = c.session.heartbeat.interval)
    (attempts : state.isAttempting = true) : Course ⟨c, leg⟩ := by
  obtain ⟨acts, fault, told, sort, refused⟩ := b.adds_beginAttempt state now
  rw [← after, journal] at told
  have away : Away fault c.session (c.go leg).session := by
    refine ⟨?_, ?_, acts, told, sort⟩
    · rw [after]
      exact dead_beginAttempt b attempts now
    · rw [after, interval_beginAttempt]
      exact interval
  refine .away found ?_ away
  intro silent
  rw [silent] at refused
  rw [Stride.acts_eq (s := ⟨c, leg⟩) told]
  exact refused.resolve_left nofun

theorem course_connect (c : Station σ) (now : Instant) :
    Course ⟨c, .whole (.connect now)⟩ := by
  by_cases able : c.session.state.canConnect = true
  · have dead : c.session.state.isLive = false := by
      cases state : c.session.state <;> rw [state] at able <;> first | rfl | cases able
    exact course_of_attempt dead (if_pos able) rfl rfl rfl
  · exact .of_still (if_neg able) fun _ _ _ => Stride.not_pongs rfl _ _

/-! ### Failures -/

/-- An attempt or a connection that fails, for another fault than a silent peer. -/
theorem course_of_failure {b : Station σ} {leg : Leg} {error : Error} {now : Instant}
    (silent : leg.isFrame = false) (after : c.go leg = b.failAttempt error now)
    (other : error ≠ .heartbeatTimeout)
    (state : b.session.state = c.session.state) (journal : b.session.journal = c.session.journal)
    (parted : b.session.generation = c.session.generation ∧
      b.session.heartbeat.interval = c.session.heartbeat.interval) : Course ⟨c, leg⟩ := by
  obtain ⟨ended, kept⟩ := parted_failAttempt b error now
  rw [← after, parted.1] at ended
  rw [← after, parted.2] at kept
  have distinct : some error ≠ some Error.heartbeatTimeout := fun same =>
    other (Option.some.inj same)
  have dead : (c.go leg).session.state.isLive = false := by
    rw [after]
    exact dead_failAttempt b error now
  have adds : Adds (Act.PartsBy (some error)) c.session (c.go leg).session := by
    rw [after]
    exact (adds_failAttempt b error now).congr journal rfl
  by_cases found : c.session.state.isLive = true
  · refine .leaves found distinct (Stride.not_pongs silent) ⟨dead, ?_, ?_, kept, adds⟩
    · show (c.go leg).session.requests.pending = []
      rw [after]
      apply pending_failAttempt
      rw [state]
      exact found
    · show c.session.generation < (c.go leg).session.generation
      omega
  · exact .away (Bool.not_eq_true _ ▸ found) (fun same => absurd same distinct)
      ⟨dead, kept, adds⟩

theorem course_lost {id : ConnectionId} {event : TransportEvent} {now : Instant}
    (reason : String) (silent : ∀ bytes, event ≠ .frame bytes)
    (lost : c.handleEvent id event now =
      if id = c.session.connectionId then c.lost reason now else c) :
    Course ⟨c, .whole (.handleEvent id event now)⟩ := by
  have quiet : (Leg.whole (.handleEvent id event now)).isFrame = false := by
    cases event with
    | frame bytes => exact absurd rfl (silent bytes)
    | _ => rfl
  have still (same : c.handleEvent id event now = c) :
      Course ⟨c, .whole (.handleEvent id event now)⟩ :=
    .of_still same fun _ _ _ => Stride.not_pongs quiet _ _
  by_cases own : id = c.session.connectionId
  · rw [if_pos own] at lost
    by_cases attempts : c.session.state.isAttempting = true
    · exact course_of_failure quiet (lost.trans (if_pos attempts)) nofun rfl rfl ⟨rfl, rfl⟩
    · by_cases live : c.session.state.isLive = true
      · exact course_of_failure quiet ((lost.trans (if_neg attempts)).trans (if_pos live)) nofun
          rfl rfl ⟨rfl, rfl⟩
      · exact still ((lost.trans (if_neg attempts)).trans (if_neg live))
  · exact still (lost.trans (if_neg own))

/-! ### Teardown -/

theorem parted_disconnect {c : Station σ} (able : c.session.state.canDisconnect = true) :
    c.disconnect.session.generation = c.session.generation + 1 ∧
      c.disconnect.session.heartbeat.interval = c.session.heartbeat.interval := by
  unfold disconnect
  rw [if_pos able]
  dsimp only [modify, enter, stopConnection]
  rw [Session.unplug_eq, Session.discardQueue_eq, Session.failRequests_eq]
  dsimp only [Session.cancelTimers, Session.enter, Session.note, Heartbeat.stop]
  split
  · have core := core_sendAnyway (c.enter .disconnecting none) .farewell
      (Frame.encodeHeader MessageKind.disconnect.code
        (farewellHeader (c.enter .disconnecting none).session) none)
    exact ⟨congrArg (· + 1) (congrArg Session.generation core :),
      (congrArg (fun s => s.heartbeat.interval) core :)⟩
  · exact ⟨rfl, rfl⟩

theorem interval_disconnect (c : Station σ) :
    c.disconnect.session.heartbeat.interval = c.session.heartbeat.interval := by
  by_cases able : c.session.state.canDisconnect = true
  · exact (parted_disconnect able).2
  · unfold disconnect
    rw [if_neg able]

/-- A teardown of an open connection leaves it. -/
theorem later_disconnect (live : c.session.state.isLive = true) :
    c.session.generation < c.disconnect.session.generation := by
  have able : c.session.state.canDisconnect = true := by
    unfold SessionState.canDisconnect
    rw [live]
    rfl
  rw [(parted_disconnect able).1]
  exact Nat.lt_succ_self _

theorem course_of_rest {leg : Leg} (silent : leg.isFrame = false)
    (rest : Resting (c.go leg).session)
    (later : c.session.state.isLive = true → c.session.generation < (c.go leg).session.generation)
    (interval : (c.go leg).session.heartbeat.interval = c.session.heartbeat.interval)
    (adds : Adds (Act.PartsBy none) c.session (c.go leg).session) : Course ⟨c, leg⟩ := by
  by_cases found : c.session.state.isLive = true
  · exact .leaves_quietly found (Stride.not_pongs silent)
      ⟨rest.isLive_eq, rest.requests, later found, interval, adds⟩
  · exact .stays_away (Bool.not_eq_true _ ▸ found) ⟨rest.isLive_eq, interval, adds⟩

theorem course_disconnect (h : InPhase c.session) : Course ⟨c, .whole .disconnect⟩ :=
  course_of_rest rfl (resting_disconnected h) later_disconnect (interval_disconnect c)
    (adds_disconnect c)

theorem course_close (h : InPhase c.session) : Course ⟨c, .whole .close⟩ := by
  refine course_of_rest rfl (resting_close h) ?_ ?_ (adds_close c)
  · intro live
    have able : c.session.state.canDisconnect = true := by
      unfold SessionState.canDisconnect
      rw [live]
      rfl
    have same : c.close = c.disconnect := if_pos able
    show c.session.generation < c.close.session.generation
    rw [same]
    exact later_disconnect live
  · show c.close.session.heartbeat.interval = _
    unfold close
    split
    · exact interval_disconnect c
    · dsimp only [modify, stopConnection]
      rw [Session.unplug_eq]
      rfl

/-! ### Callers -/

theorem course_authenticate (c : Station σ) (credentials : Json) :
    Course ⟨c, .whole (.authenticate credentials)⟩ := by
  by_cases asked : c.session.state = .needAuth
  · have found : c.session.state.isLive = true := by rw [asked]; rfl
    have after : c.go (.whole (.authenticate credentials)) =
        (c.enter .authenticating none).sendCredentials credentials :=
      if_pos asked
    have entered : Steady c.session (c.enter .authenticating none).session :=
      Session.steady_enter rfl
    refine .steady found ?_ fun _ _ _ => Stride.not_pongs rfl _ _
    show Steady c.session (c.go _).session
    rw [after]
    exact entered.trans (steady_sendAnyway rfl _ _)
  · exact .of_still (if_neg asked) fun _ _ _ => Stride.not_pongs rfl _ _

/-- A call that submits a frame leaves the connection as it is. -/
theorem course_of_submission {call : Call} (submission : call.isSubmission = true)
    (state : (c.perform call).2.session.state = c.session.state)
    (kept : Session.connectionId (c.perform call).2.session = c.session.connectionId ∧
      (c.perform call).2.session.transport = c.session.transport ∧
        (c.perform call).2.session.watch = c.session.watch ∧
          (c.perform call).2.session.estimates = c.session.estimates)
    (adds : ∀ P : Act → Prop, (∀ act, act.isPlain = true → P act) →
      (c.session.state = .connected →
        ∀ id packet, c.session.transport = some id → P (.delivered id packet)) →
      Adds P c.session (c.perform call).2.session) : Course ⟨c, .whole call⟩ := by
  obtain ⟨connectionId, transport, watch, estimates⟩ := kept
  have interval := congrArg (fun w => w.1.interval) watch
  by_cases found : c.session.state.isLive = true
  · refine .steady found ⟨⟨?_, connectionId, transport, interval, ?_⟩, watch, estimates⟩ ?_
    · exact (congrArg SessionState.isLive state).trans found
    · exact adds _ (fun _ plain => Act.keepsTo_of_plain plain _) fun _ _ _ held => held
    · intro probe now _
      apply Stride.not_pongs
      cases call <;> first | rfl | cases submission
  · have dead := Bool.not_eq_true _ ▸ found
    refine .stays_away dead ⟨?_, interval, ?_⟩
    · exact (congrArg SessionState.isLive state).trans dead
    · refine adds _ (fun _ plain => Act.partsBy_of_plain plain _) ?_
      intro connected
      rw [connected] at dead
      cases dead

theorem course_submission (c : Station σ) {call : Call} (submission : call.isSubmission = true) :
    Course ⟨c, .whole call⟩ := by
  have of_core {t : Session} (core : t.core = c.session.core) :
      t.connectionId = c.session.connectionId ∧ t.transport = c.session.transport ∧
        t.watch = c.session.watch ∧ t.estimates = c.session.estimates :=
    ⟨(congrArg Session.connectionId core :), (congrArg Session.transport core :),
      (congrArg Session.watch core :), (congrArg Session.estimates core :)⟩
  cases call with
  | send code header payload =>
    have core := core_submitBytes c .submission (Frame.encodeSerialized code header payload)
    exact course_of_submission rfl (congrArg Session.state core :) (of_core core)
      fun P plain sends => adds_submitBytes c _ (fun _ => plain _ rfl) (fun _ => plain _ rfl)
        fun state id other held _ => sends state id other held
  | sendMessage message payload =>
    have core := core_submitBytes c .submission (message.encode payload)
    exact course_of_submission rfl (congrArg Session.state core :) (of_core core)
      fun P plain sends => adds_submitBytes c _ (fun _ => plain _ rfl) (fun _ => plain _ rfl)
        fun state id other held _ => sends state id other held
  | request code header payload now =>
    have core : (c.requestSubmission code header payload).2.session.core =
        c.session.advanced.core := core_submitBytes _ _ _
    have kept : (c.request code header payload now).2.session.state = c.session.state ∧
        (c.request code header payload now).2.session.connectionId = c.session.connectionId ∧
        (c.request code header payload now).2.session.transport = c.session.transport ∧
        (c.request code header payload now).2.session.watch = c.session.watch ∧
        (c.request code header payload now).2.session.estimates = c.session.estimates := by
      have same : (c.requestSubmission code header payload).2.session.state = c.session.state ∧
          (c.requestSubmission code header payload).2.session.connectionId =
            c.session.connectionId ∧
          (c.requestSubmission code header payload).2.session.transport = c.session.transport ∧
          (c.requestSubmission code header payload).2.session.watch = c.session.watch ∧
          (c.requestSubmission code header payload).2.session.estimates =
            c.session.estimates :=
        ⟨(congrArg Session.state core :), (congrArg Session.connectionId core :),
          (congrArg Session.transport core :), (congrArg Session.watch core :),
          (congrArg Session.estimates core :)⟩
      rcases result : (c.requestSubmission code header payload).1 with e | ⟨⟨⟩⟩
      · rw [request_of_error c result]
        exact same
      · rw [request_of_ok c result]
        exact same
    exact course_of_submission rfl kept.1 kept.2 fun P plain sends =>
      adds_request c code header payload now (fun _ => plain _ rfl) (fun _ => plain _ rfl)
        fun state id other held _ => sends state id other held
  | _ => cases submission

/-! ### Events -/

theorem course_opened (h : InPhase c.session) (id : ConnectionId) (now : Instant) :
    Course ⟨c, .whole (.handleEvent id .opened now)⟩ := by
  by_cases accepted : id = c.session.connectionId ∧ c.session.state.isAttempting = true
  · obtain ⟨rfl, attempts⟩ := accepted
    have opened : c.handleEvent c.session.connectionId .opened now =
        (c.modify fun s => s.recordOpened now (Environment.wallClock c.world)).flushQueue := by
      unfold handleEvent
      rw [if_pos rfl]
      exact if_pos attempts
    have records (wall : UInt64) : Stays c.session (c.session.recordOpened now wall) ∧
        (c.session.recordOpened now wall).watch =
          ({ c.session.heartbeat with probe := none, running := true },
            some ⟨.heartbeat, now + c.session.heartbeat.interval, c.session.generation⟩) := by
      unfold Session.recordOpened
      dsimp only
      split
      · exact ⟨⟨rfl, rfl, rfl, rfl, Adds.trans (t := Session.enter _ .reconnected none wall)
          (.of_note rfl rfl) (.of_note rfl rfl)⟩, rfl⟩
      · exact ⟨⟨rfl, rfl, rfl, rfl, .of_note rfl rfl⟩, rfl⟩
    obtain ⟨recorded, watch⟩ := records (Environment.wallClock c.world)
    have flushed : Steady (c.session.recordOpened now (Environment.wallClock c.world))
        (c.modify fun s => s.recordOpened now (Environment.wallClock c.world)).flushQueue.session :=
      steady_flushQueue
        (c := c.modify fun s => s.recordOpened now (Environment.wallClock c.world)) recorded.live
    have stays : Stays c.session (c.handleEvent c.session.connectionId .opened now).session := by
      rw [opened]
      exact recorded.trans flushed.toStays
    refine .opens (h.attempting_of attempts) rfl stays ?_
    show (c.handleEvent c.session.connectionId .opened now).session.watch = _
    rw [opened]
    exact flushed.watch.trans watch
  · refine .of_still (?_ : c.handleEvent id .opened now = c) fun _ _ _ =>
      Stride.not_pongs rfl _ _
    unfold handleEvent
    split
    · next own => exact if_neg fun attempts => accepted ⟨own, attempts⟩
    · rfl

theorem course_frame (c : Station σ) (id : ConnectionId) (bytes : Bytes) (now : Instant) :
    Course ⟨c, .whole (.handleEvent id (.frame bytes) now)⟩ := by
  by_cases heard : id = c.session.connectionId ∧ c.session.state.isLive = true
  · obtain ⟨rfl, live⟩ := heard
    have arrived : Steady c.session
        (c.session.recordArrival bytes (Environment.wallClock c.world)) :=
      ⟨⟨live, rfl, rfl, rfl, .of_eq rfl⟩, rfl, rfl⟩
    cases decodes : Frame.decode bytes with
    | error e =>
      refine .steady live ?_ ?_
      · show Steady c.session (c.handleEvent c.session.connectionId (.frame bytes) now).session
        rw [handleEvent_garbled live decodes now]
        exact ⟨⟨live, rfl, rfl, rfl, .of_eq rfl⟩, rfl, rfl⟩
      · intro probe at_ _ pongs
        obtain ⟨-, frame, decoded, -⟩ := Stride.frame_of_pongs pongs
        rw [decodes] at decoded
        cases decoded
    | ok frame =>
      have pongs {probe : Probe} (answer : probe.AnsweredBy frame) :
          Stride.Pongs ⟨c, .whole (.handleEvent c.session.connectionId (.frame bytes) now)⟩
            probe.requestId now :=
        ⟨live, bytes, frame, rfl, decodes, answer⟩
      have after : c.go (.whole (.handleEvent c.session.connectionId (.frame bytes) now)) =
          (c.modify fun s => s.recordArrival bytes (Environment.wallClock c.world)).hear
            frame now := handleEvent_heard live decodes now
      have hearing : Hearing c frame
          (c.go (.whole (.handleEvent c.session.connectionId (.frame bytes) now))) := by
        rw [after]
        exact Hearing.after (b := c.modify fun s =>
            s.recordArrival bytes (Environment.wallClock c.world))
          arrived (.of_eq rfl) (hearing_hear (c := c.modify fun s =>
            s.recordArrival bytes (Environment.wallClock c.world)) arrived.live frame now)
      cases hearing with
      | steady h other =>
        refine .steady live h ?_
        intro probe at_ under pongs
        obtain ⟨-, otherFrame, decoded, answer⟩ := Stride.frame_of_pongs pongs
        rw [decodes] at decoded
        cases decoded
        exact other probe under answer
      | answered under answer h watch => exact .answered under (pongs answer) h watch
      | rejected kind h =>
        refine .leaves_quietly live ?_ h
        intro request at_ pongs
        obtain ⟨-, otherFrame, decoded, pong, -⟩ := Stride.frame_of_pongs pongs
        rw [decodes] at decoded
        cases decoded
        rw [kind] at pong
        cases pong
  · refine .of_still (handleEvent_unheard heard now) ?_
    intro probe at_ _ pongs
    exact heard (Stride.frame_of_pongs pongs).1

theorem course_handleEvent (h : InPhase c.session) (id : ConnectionId) (event : TransportEvent)
    (now : Instant) : Course ⟨c, .whole (.handleEvent id event now)⟩ := by
  cases event with
  | opened => exact course_opened h id now
  | frame bytes => exact course_frame c id bytes now
  | failed reason => exact course_lost reason nofun rfl
  | closed => exact course_lost "closed by peer" nofun rfl

/-! ### Timers -/

/-- A timer that is not armed, or armed for later, does nothing. -/
theorem course_of_early {kind : TimerKind} {now : Instant} (early : c.fire now kind = c) :
    Course ⟨c, .timer kind now⟩ :=
  .of_still early fun _ _ _ => Stride.not_pongs rfl _ _

theorem course_pollConnect (h : InPhase c.session) (now : Instant) :
    Course ⟨c, .timer .connectTimeout now⟩ := by
  by_cases fires : (c.session.timers.connect.due? now c.session.generation).isSome = true ∧
      c.session.state.isAttempting = true
  · exact course_of_failure (b := c.modify fun s => s.connectTaken now) rfl
      ((pollConnect_eq c now).trans (if_pos fires)) nofun rfl rfl ⟨rfl, rfl⟩
  · apply course_of_early
    apply pollConnect_early
    rw [← Bool.not_eq_true]
    intro due
    exact fires (((Coherent.of_inPhase h).fires now).1 due)

theorem course_pollRetry (h : InPhase c.session) (now : Instant) :
    Course ⟨c, .timer .retry now⟩ := by
  by_cases fires : (c.session.timers.retry.due? now c.session.generation).isSome = true ∧
      c.session.state = .error
  · have dead : c.session.state.isLive = false := by rw [fires.2]; rfl
    refine course_of_attempt (b := c.modify fun s => s.retryTaken now) dead
      ((pollRetry_eq c now).trans (if_pos fires)) rfl rfl ?_
    split <;> rfl
  · apply course_of_early
    apply pollRetry_early
    rw [← Bool.not_eq_true]
    intro due
    exact fires (((Coherent.of_inPhase h).fires now).2.2 due)

/-- A failure for want of an answer tells of a silent peer once. -/
theorem told_silence (b : Station σ) (now : Instant) :
    ∃ acts, (b.failAttempt .heartbeatTimeout now).session.journal = b.session.journal ++ acts ∧
      acts.countP Act.isSilence = 1 := by
  obtain ⟨acts, later, journal, plain, final⟩ := told_failAttempt b .heartbeatTimeout now
  refine ⟨_, journal, ?_⟩
  have quiet : later.countP Act.isSilence = 0 :=
    List.countP_eq_zero.mpr fun act mem silent =>
      nomatch Act.fault_of_silence (final act mem) silent
  rw [List.countP_append, Act.countP_isSilence plain, List.countP_cons_of_pos rfl, quiet]

/-- A tick that finds a probe under way gives the connection up. -/
theorem silence_of_tick {stale : Probe} (live : c.session.state.isLive = true)
    (under : c.session.heartbeat.probe = some stale) {now : Instant}
    (after : c.go (.timer .heartbeat now) =
      (c.modify fun s => s.tickTaken now).heartbeatTick now) :
    (Stride.acts ⟨c, .timer .heartbeat now⟩).countP Act.isSilence = 1 ∧
      Leaves (some .heartbeatTimeout) c.session (c.go (.timer .heartbeat now)).session := by
  rw [heartbeatTick_of_silence (c.modify fun s => s.tickTaken now) live under] at after
  obtain ⟨b, fails, session⟩ : ∃ b : Station σ,
      c.go (.timer .heartbeat now) = b.failAttempt .heartbeatTimeout now ∧ b.session =
        { ((c.session.tickTaken now).expireRequests now).advanced with
          heartbeat := c.session.heartbeat.stop } := ⟨_, after, rfl⟩
  have found : b.session.state.isLive = true := by
    rw [session, Session.expireRequests_eq_foldl]
    exact live
  have generation : b.session.generation = c.session.generation := by
    rw [session, Session.expireRequests_eq_foldl]
    rfl
  have expired : AddsPlain c.session b.session :=
    (Session.addsPlain_expireRequests (c.session.tickTaken now) now).congr rfl
      (by rw [session]; rfl)
  obtain ⟨ended, kept⟩ := parted_failAttempt b .heartbeatTimeout now
  have failed := adds_failAttempt b .heartbeatTimeout now
  have told : (Stride.acts ⟨c, .timer .heartbeat now⟩).countP Act.isSilence = 1 := by
    obtain ⟨acts, journal, plain⟩ := expired
    obtain ⟨more, whole, once⟩ := told_silence b now
    rw [← fails, journal, List.append_assoc] at whole
    rw [Stride.acts_eq (s := ⟨c, .timer .heartbeat now⟩) whole, List.countP_append,
      Act.countP_isSilence plain, once]
  refine ⟨told, ?_, ?_, ?_, ?_, ?_⟩
  · show (c.go (.timer .heartbeat now)).session.state.isLive = false
    rw [fails]
    exact dead_failAttempt b _ now
  · show (c.go (.timer .heartbeat now)).session.requests.pending = []
    rw [fails]
    exact pending_failAttempt found _ now
  · show c.session.generation < (c.go (.timer .heartbeat now)).session.generation
    rw [fails, ended, generation]
    exact Nat.lt_succ_self _
  · show (c.go (.timer .heartbeat now)).session.heartbeat.interval = _
    rw [fails, kept, session]
    rfl
  · show Adds _ c.session (c.go (.timer .heartbeat now)).session
    rw [fails]
    exact (expired.parting _).trans failed

/-- A frame that is sent after what is plain is told of if the world takes it. -/
theorem told_after_plain {b : Station σ} {id : ConnectionId}
    (plain : AddsPlain c.session b.session) (held : b.session.transport = some id)
    (purpose : Purpose) (written : Bytes) :
    ∃ acts, (b.sendAnyway purpose (.ok written)).session.journal = c.session.journal ++ acts ∧
      (.delivered id ⟨purpose, written⟩ ∈ acts ↔
        (Environment.deliver b.world id written).1 = .ok ()) := by
  obtain ⟨acts, journal, sort⟩ := plain
  obtain ⟨more, told, taken⟩ := b.told_sendAnyway held purpose written
  rw [journal, List.append_assoc] at told
  refine ⟨_, told, ?_⟩
  rw [← taken, List.mem_append, or_iff_right]
  intro mem
  cases sort _ mem

/-- A tick that is due is taken, and it finds a connection that is open. -/
theorem ticks_of_due (h : InPhase c.session) {now : Instant}
    (due : c.session.timers.heartbeat.isDue now = true) :
    c.session.state.isLive = true ∧ c.go (.timer .heartbeat now) =
      (c.modify fun s => s.tickTaken now).heartbeatTick now := by
  obtain ⟨fires, live⟩ := ((Coherent.of_inPhase h).fires now).2.1 due
  exact ⟨live, (pollHeartbeat_eq c now).trans (if_pos fires)⟩

/-- A tick that finds no probe under way asks the peer, sends the frame that asks, and schedules the
tick after it. -/
theorem asks_of_tick (live : c.session.state.isLive = true)
    (idle : c.session.heartbeat.probe = none) {now : Instant}
    (after : c.go (.timer .heartbeat now) =
      (c.modify fun s => s.tickTaken now).heartbeatTick now) :
    ∃ b d : Station σ, c.go (.timer .heartbeat now) = d.modify (fun s => s.scheduleTick now) ∧
      d = b.sendAnyway .ping (c.session.probeBytes (Environment.wallClock c.world)) ∧
      b.session = c.session.asking (Environment.wallClock c.world) now ∧ b.world = c.world := by
  rw [heartbeatTick_of_answer (c.modify fun s => s.tickTaken now) live idle] at after
  dsimp only [modify] at after
  rw [(c.session.tickTaken now).probeBytes_expireRequests] at after
  exact ⟨_, _, after, rfl, rfl, rfl⟩

/-- A tick that finds no probe under way sends the next one. -/
theorem pings_of_tick (live : c.session.state.isLive = true)
    (idle : c.session.heartbeat.probe = none) {now : Instant}
    (due : c.session.timers.heartbeat.isDue now = true)
    (after : c.go (.timer .heartbeat now) =
      (c.modify fun s => s.tickTaken now).heartbeatTick now) :
    ∃ probe, Stride.Pings ⟨c, .timer .heartbeat now⟩ probe ∧
      Stays c.session (c.go (.timer .heartbeat now)).session ∧
      (c.go (.timer .heartbeat now)).session.watch =
        ({ c.session.heartbeat with probe := some probe }, some ⟨.heartbeat,
          probe.sentAt + c.session.heartbeat.interval, c.session.generation⟩) := by
  obtain ⟨wall, clock⟩ : ∃ wall, wall = Environment.wallClock c.world := ⟨_, rfl⟩
  obtain ⟨asked, names⟩ : ∃ probe : Probe, probe = ⟨c.session.requests.nextId, wall, now⟩ :=
    ⟨_, rfl⟩
  obtain ⟨b, d, ends, sends, session, world⟩ := asks_of_tick live idle after
  rw [← clock] at sends session
  have plain : AddsPlain c.session b.session := session ▸ c.session.addsPlain_asking wall now
  have heartbeat : b.session.heartbeat = { c.session.heartbeat with probe := some asked } := by
    rw [session, c.session.heartbeat_asking, names]
  obtain ⟨state, connectionId, held⟩ := session ▸ c.session.link_asking wall now
  have sent : Steady b.session d.session :=
    sends ▸ steady_sendAnyway ((congrArg _ state).trans live) .ping _
  have stays : Stays c.session (c.go (.timer .heartbeat now)).session := by
    rw [ends]
    refine ⟨sent.live, sent.connectionId.trans connectionId, sent.transport.trans held, ?_, ?_⟩
    · show d.session.heartbeat.interval = _
      rw [sent.interval, heartbeat]
    · have kept := sent.adds
      rw [held] at kept
      have told := (plain.keeping c.session.transport).trans kept
      exact told.congr rfl rfl
  have watch : (c.go (.timer .heartbeat now)).session.watch =
      ({ c.session.heartbeat with probe := some asked }, some ⟨.heartbeat,
        now + c.session.heartbeat.interval, c.session.generation⟩) := by
    have same : d.session.heartbeat = b.session.heartbeat := congrArg Prod.fst sent.watch
    have generation : d.session.generation = c.session.generation :=
      congrArg ConnectionId.generation (sent.connectionId.trans connectionId)
    rw [ends]
    show (Session.scheduleTick _ now).watch = _
    unfold Session.scheduleTick Session.watch Heartbeat.nextTick
    dsimp only
    rw [same, generation, heartbeat]
  have offered (id : ConnectionId) (written : Bytes) (own : c.session.transport = some id)
      (writes : c.session.probeBytes wall = .ok written) :
      .delivered id ⟨.ping, written⟩ ∈ Stride.acts ⟨c, .timer .heartbeat now⟩ ↔
        (Environment.deliver c.world id written).1 = .ok () := by
    obtain ⟨acts, told, taken⟩ := told_after_plain plain (held.trans own) .ping written
    rw [← writes, ← sends] at told
    have same : Stride.acts ⟨c, .timer .heartbeat now⟩ = acts := by
      apply Stride.acts_eq (s := ⟨c, .timer .heartbeat now⟩)
      show (c.go (.timer .heartbeat now)).session.journal = _
      rw [ends]
      exact told
    rw [same, taken, world]
  have issued : (c.go (.timer .heartbeat now)).session.heartbeat.probe = some asked :=
    congrArg (fun w => w.1.probe) watch
  subst names
  exact ⟨_, ⟨rfl, due, live, idle, rfl, clock, issued, offered⟩, stays, watch⟩

/-- A tick that is due finds an open connection, and gives it up or sends a probe. -/
theorem tick_cases (h : InPhase c.session) {now : Instant}
    (due : c.session.timers.heartbeat.isDue now = true) :
    c.session.state.isLive = true ∧
    ((∃ stale, c.session.heartbeat.probe = some stale ∧
        (Stride.acts ⟨c, .timer .heartbeat now⟩).countP Act.isSilence = 1 ∧
        Leaves (some .heartbeatTimeout) c.session (c.go (.timer .heartbeat now)).session) ∨
      ∃ probe, Stride.Pings ⟨c, .timer .heartbeat now⟩ probe ∧
        Stays c.session (c.go (.timer .heartbeat now)).session ∧
        (c.go (.timer .heartbeat now)).session.watch =
          ({ c.session.heartbeat with probe := some probe }, some ⟨.heartbeat,
            probe.sentAt + c.session.heartbeat.interval, c.session.generation⟩)) := by
  obtain ⟨live, after⟩ := ticks_of_due h due
  refine ⟨live, ?_⟩
  cases under : c.session.heartbeat.probe with
  | some stale => exact .inl ⟨stale, rfl, silence_of_tick live under after⟩
  | none => exact .inr (pings_of_tick live under due after)

theorem course_pollHeartbeat (h : InPhase c.session) (now : Instant) :
    Course ⟨c, .timer .heartbeat now⟩ := by
  by_cases due : c.session.timers.heartbeat.isDue now = true
  · obtain ⟨live, ⟨stale, under, told, leaves⟩ | ⟨probe, pings, stays, watch⟩⟩ := tick_cases h due
    · exact .silent rfl due live under told leaves
    · exact .pings pings stays watch
  · exact course_of_early (pollHeartbeat_early (Bool.not_eq_true _ ▸ due))

end Station

/-- Every leg of a coherent session takes one of the courses. -/
theorem Stride.course {s : Stride σ} (single : s.leg.IsSingle) (h : InPhase s.before.session) :
    s.Course := by
  obtain ⟨c, leg⟩ := s
  cases leg with
  | timer kind now =>
    cases kind with
    | connectTimeout => exact Station.course_pollConnect h now
    | heartbeat => exact Station.course_pollHeartbeat h now
    | retry => exact Station.course_pollRetry h now
  | whole call =>
    cases call with
    | connect now => exact Station.course_connect c now
    | disconnect => exact Station.course_disconnect h
    | close => exact Station.course_close h
    | authenticate credentials => exact Station.course_authenticate c credentials
    | handleEvent id event now => exact Station.course_handleEvent h id event now
    | pollTimers now => exact single.elim
    | _ => exact Station.course_submission c rfl

/-- Whatever its course, a leg ends on an open connection, leaves one, or stays without. -/
theorem Stride.stays_leaves_or_away {s : Stride σ} (single : s.leg.IsSingle)
    (h : InPhase s.before.session) :
    Stays s.before.session s.after.session ∨
      (s.before.session.state.isLive = true ∧
        ∃ fault, Leaves fault s.before.session s.after.session) ∨
      s.before.session.state.isLive = false ∧
        ∃ fault, Away fault s.before.session s.after.session := by
  cases course single h with
  | steady _ h => exact .inl h.toStays
  | answered _ _ h => exact .inl h
  | pings _ h => exact .inl h
  | opens _ _ h => exact .inl h
  | silent _ _ found _ _ h => exact .inr (.inl ⟨found, _, h⟩)
  | leaves found _ _ h => exact .inr (.inl ⟨found, _, h⟩)
  | away found _ h => exact .inr (.inr ⟨found, _, h⟩)

end Courses

end Switchboard
