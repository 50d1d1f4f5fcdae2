import Switchboard.Proofs.Session.Conduct
import Switchboard.Proofs.Session.Transcript
/-!
# Every run has a lawful transcript

A session is `Recounted` by lines that tell how it came about: they keep to the rules, their last
scene is the session's, and what they tell of the transports is what the session keeps track of.
Every move adds lines and keeps this (`Station.Move.recounts`), so every call does, and the lines of
a call leave out nothing: all acts of the journal stand in them, and the world was asked for what
they say and for nothing else (`Moment.Transcribed`).

`Run.transcript` gives the transcript of a whole run.
-/

namespace Switchboard

namespace Session

/-- Lines tell how a session came about. -/
structure Recounted (s : Session) (lines : List Line) : Prop where
  lawful : Lawful lines
  scene : sceneAfter lines = ⟨s.state, s.transport⟩
  tracks : s.Tracks (signalsOf lines)
  submitted : ∀ packet ∈ s.queue, packet.purpose.isSubmitted = true
  /-- The owner may have taken the beginning of the journal. -/
  journal : s.journal <:+ actsOf lines

namespace Recounted

variable {s t : Session} {lines : List Line} {cause : Call}

theorem state (h : s.Recounted lines) : (sceneAfter lines).state = s.state := by rw [h.scene]

theorem transport (h : s.Recounted lines) : (sceneAfter lines).transport = s.transport := by
  rw [h.scene]

theorem congr (h : s.Recounted lines) (calm : Calm s t) (state : t.state = s.state)
    (submitted : ∀ packet ∈ t.queue, packet.purpose.isSubmitted = true)
    (journal : t.journal <:+ s.journal) : t.Recounted lines where
  lawful := h.lawful
  scene := by rw [h.scene, state, calm.transport]
  tracks := h.tracks.congr calm state
  submitted := submitted
  journal := journal.trans h.journal

/-- What the session heard last stands last among the acts. -/
theorem lastPhase? (h : s.Recounted lines) {phase : AuthPhase} (heard : s.lastPhase? = some phase) :
    Switchboard.lastPhase? lines = some phase := by
  unfold Session.lastPhase? at heard
  obtain ⟨older, journal⟩ := h.journal
  rw [Switchboard.lastPhase?, ← journal]
  rw [Option.bind_eq_some_iff] at heard
  obtain ⟨act, last, phase⟩ := heard
  rw [List.getLast?_append, last]
  exact phase

theorem concat (h : s.Recounted lines) {entry : Entry} (rule : Rule lines cause entry)
    (scene : (Scene.mk s.state s.transport).step entry = ⟨t.state, t.transport⟩)
    (tracks : t.Tracks (signalsOf lines ++ entry.signal?.toList))
    (submitted : ∀ packet ∈ t.queue, packet.purpose.isSubmitted = true)
    (journal : t.journal = s.journal ++ entry.act?.toList) :
    t.Recounted (lines ++ [⟨cause, sceneAfter lines, entry⟩]) where
  lawful := h.lawful.concat rule
  scene := by rw [sceneAfter_concat, h.scene]; exact scene
  tracks := by rw [signalsOf_append, signalsOf_singleton]; exact tracks
  submitted := submitted
  journal := by
    obtain ⟨older, same⟩ := h.journal
    refine ⟨older, ?_⟩
    rw [actsOf_append, actsOf_singleton, ← same, journal, List.append_assoc]

theorem turn (h : s.Recounted lines) {state : SessionState}
    (leads : s.state.leadsTo state = true)
    (free : state.isAttempting = true → s.transport = none)
    (prompted : Prompted cause s.connectionId s.lastPhase? s.state state) :
    Turn lines cause state where
  leads := by rw [h.state]; exact leads
  free := by rw [h.transport]; exact free
  prompted := by
    rw [h.state, h.transport]
    exact ⟨_, prompted.mono fun _ => h.lastPhase?, h.tracks.own⟩

end Recounted

end Session

namespace Station

variable {σ : Type} [Environment σ] {cause : Call} {c d e : Station σ}

/-- Lines tell in full what happened between two stations in the course of a call. -/
structure Account (cause : Call) (c : Station σ) (lines : List Line) (d : Station σ) : Prop where
  cause : ∀ line ∈ lines, line.cause = cause
  told : d.session.journal = c.session.journal ++ actsOf lines
  conducted : Conducted c.world (signalsOf lines) d.world

theorem Account.trans {lines more : List Line} (h : Account cause c lines d)
    (k : Account cause d more e) : Account cause c (lines ++ more) e where
  cause line mem := (List.mem_append.mp mem).elim (h.cause line) (k.cause line)
  told := by rw [k.told, h.told, actsOf_append, List.append_assoc]
  conducted := by
    rw [signalsOf_append]
    exact h.conducted.trans k.conducted

/-- Whatever lines tell how a session came about, more of them tell how it goes on. -/
def Recounts (cause : Call) (c d : Station σ) : Prop :=
  ∀ lines, c.session.Recounted lines →
    ∃ more, Account cause c more d ∧ d.session.Recounted (lines ++ more)

namespace Recounts

theorem refl (c : Station σ) : Recounts cause c c := by
  intro lines h
  refine ⟨[], ⟨List.forall_mem_nil _, (List.append_nil _).symm, .nothing⟩, ?_⟩
  rwa [List.append_nil]

theorem trans (h : Recounts cause c d) (k : Recounts cause d e) : Recounts cause c e := by
  intro lines recounted
  obtain ⟨more, account, recounted⟩ := h lines recounted
  obtain ⟨others, accountToo, recounted⟩ := k _ recounted
  refine ⟨more ++ others, account.trans accountToo, ?_⟩
  rwa [← List.append_assoc]

/-- One line. -/
theorem line {lines : List Line} (h : c.session.Recounted lines) {entry : Entry}
    (rule : Rule lines cause entry)
    (scene : (Scene.mk c.session.state c.session.transport).step entry =
      ⟨d.session.state, d.session.transport⟩)
    (tracks : d.session.Tracks (signalsOf lines ++ entry.signal?.toList))
    (submitted : ∀ packet ∈ d.session.queue, packet.purpose.isSubmitted = true)
    (journal : d.session.journal = c.session.journal ++ entry.act?.toList)
    (conducted : Conducted c.world entry.signal?.toList d.world) :
    Account cause c [⟨cause, sceneAfter lines, entry⟩] d ∧
      d.session.Recounted (lines ++ [⟨cause, sceneAfter lines, entry⟩]) := by
  refine ⟨⟨List.forall_mem_singleton.mpr rfl, ?_, ?_⟩,
    h.concat rule scene tracks submitted journal⟩
  · rw [actsOf_singleton]
    exact journal
  · rw [signalsOf_singleton]
    exact conducted

end Recounts

/-! ## Changes of the session alone -/

section Alone

open Session (Calm Edit)

variable {s t : Session}

/-- Fields that no line tells of. -/
theorem recounts_still (world : σ) (calm : Calm s t) (state : t.state = s.state)
    (queue : ∀ packet ∈ t.queue, packet ∈ s.queue ∨ packet.purpose.isSubmitted = true)
    (journal : t.journal = s.journal) : Recounts cause ⟨s, world⟩ ⟨t, world⟩ := by
  intro lines h
  refine ⟨[], ⟨List.forall_mem_nil _, ?_, .nothing⟩, ?_⟩
  · rw [journal]
    exact (List.append_nil _).symm
  · rw [List.append_nil]
    refine h.congr calm state (fun packet mem => ?_) ?_
    · exact (queue packet mem).elim (h.submitted packet) id
    · simp [journal]

/-- Acts between the session and its callers, by induction on the acts. -/
theorem recounts_asides (world : σ) (acts : List Act) (aside : ∀ act ∈ acts, act.isAside = true)
    (calm : Calm s t) (state : t.state = s.state)
    (queue : ∀ packet ∈ t.queue, packet ∈ s.queue ∨ packet.purpose.isSubmitted = true)
    (journal : t.journal = s.journal ++ acts) : Recounts cause ⟨s, world⟩ ⟨t, world⟩ := by
  induction acts generalizing s with
  | nil => exact recounts_still world calm state queue (journal.trans (List.append_nil _))
  | cons act acts ih =>
    have silent := aside act List.mem_cons_self
    have first : Recounts cause ⟨s, world⟩ ⟨s.note act, world⟩ := by
      intro lines h
      have untold := (Entry.of_aside silent).2.2.2
      refine ⟨_, Recounts.line h (.aside silent) (Scene.step_of_aside silent _) ?_ h.submitted rfl
        ?_⟩
      · rw [untold, Option.toList_none, List.append_nil]
        exact h.tracks.congr ⟨rfl, rfl, rfl⟩ rfl
      · rw [untold]
        exact .nothing
    refine first.trans (ih (fun act mem => aside act (List.mem_cons_of_mem _ mem))
      ⟨calm.key, calm.generation, calm.transport⟩ state queue ?_)
    rw [journal]
    exact (List.append_assoc _ [act] acts).symm

theorem recounts_note (world : σ) {act : Act} (aside : act.isAside = true) (calm : Calm s t)
    (state : t.state = s.state) (queue : t.queue = s.queue)
    (journal : t.journal = s.journal ++ [act]) : Recounts cause ⟨s, world⟩ ⟨t, world⟩ :=
  recounts_asides world [act] (List.forall_mem_singleton.mpr aside) calm state
    (fun _ mem => .inl (queue ▸ mem)) journal

theorem recounts_settled (world : σ) (ids : List String) (result : String → Except Error Frame)
    (calm : Calm s t) (state : t.state = s.state) (queue : t.queue = s.queue)
    (journal : t.journal = s.journal ++ ids.map fun id => .settled ⟨id, result id⟩) :
    Recounts cause ⟨s, world⟩ ⟨t, world⟩ := by
  refine recounts_asides world _ (fun act mem => ?_) calm state (fun _ mem => .inl (queue ▸ mem))
    journal
  obtain ⟨id, -, rfl⟩ := List.mem_map.mp mem
  rfl

theorem recounts_failRequests (s : Session) (world : σ) :
    Recounts cause ⟨s, world⟩ ⟨s.failRequests, world⟩ := by
  rw [Session.failRequests_eq]
  exact recounts_settled world _ _ ⟨rfl, rfl, rfl⟩ rfl rfl rfl

theorem recounts_discardQueue (s : Session) (world : σ) :
    Recounts cause ⟨s, world⟩ ⟨s.discardQueue, world⟩ := by
  rw [Session.discardQueue_eq]
  refine recounts_asides world _ (fun act mem => ?_) ⟨rfl, rfl, rfl⟩ rfl nofun rfl
  unfold Session.losses at mem
  split at mem
  · cases mem
  · cases List.mem_singleton.mp mem
    rfl

/-- A state is entered that is live only if the transport is ready. -/
theorem enter_recounted {lines : List Line} (h : s.Recounted lines) (world : σ)
    (error : Option Error) (wall : UInt64) {state : SessionState} (turn : Turn lines cause state)
    (ready : state.isLive = true → ∀ id, s.transport = some id →
      stageOf id (signalsOf lines) = some .ready) :
    Account cause ⟨s, world⟩
        [⟨cause, sceneAfter lines, .told (.entered ⟨s.key, s.target, state, error, wall⟩)⟩]
        ⟨s.enter state error wall, world⟩ ∧
      (s.enter state error wall).Recounted (lines ++
        [⟨cause, sceneAfter lines, .told (.entered ⟨s.key, s.target, state, error, wall⟩)⟩]) := by
  have rule : Rule lines cause (.told (.entered ⟨s.key, s.target, state, error, wall⟩)) :=
    .entered turn
  refine Recounts.line (d := ⟨s.enter state error wall, world⟩) h rule rfl ?_ h.submitted rfl
    .nothing
  rw [show (Entry.told (.entered ⟨s.key, s.target, state, error, wall⟩)).signal?.toList = [] from rfl,
    List.append_nil]
  refine h.tracks.calm ⟨rfl, rfl, rfl⟩ fun id held opening => ?_
  rw [Bool.eq_false_iff]
  intro live
  rw [ready live id held] at opening
  cases opening

theorem recounts_enter (world : σ) {state : SessionState} {error : Option Error} {wall : UInt64}
    (leads : s.state.leadsTo state = true)
    (free : state.isAttempting = true → s.transport = none)
    (prompted : Prompted cause s.connectionId s.lastPhase? s.state state)
    (live : state.isLive = true → s.state.isLive = true) :
    Recounts cause ⟨s, world⟩ ⟨s.enter state error wall, world⟩ := by
  intro lines h
  exact ⟨_, enter_recounted h world error wall (h.turn leads free prompted) fun becomes id held =>
    h.tracks.ready held (live becomes)⟩

/-- The states that only a failure or the end of a session leads to. -/
theorem recounts_fall (world : σ) {state : SessionState} {error : Option Error} {wall : UInt64}
    (leads : s.state.leadsTo state = true) (dead : state.isLive = false)
    (idle : state.isAttempting = false) :
    Recounts cause ⟨s, world⟩ ⟨s.enter state error wall, world⟩ := by
  refine recounts_enter world leads ?_ (prompted_of_dead dead) ?_
  · rw [idle]
    nofun
  · rw [dead]
    nofun

/-- The report that the transport is open is acted upon, if there is one to be opened. -/
theorem recounts_opened (s : Session) (world : σ)
    (opens : ∃ now, cause = .handleEvent s.connectionId .opened now) {lines : List Line}
    (h : s.Recounted lines) :
    ∃ more, Account cause ⟨s, world⟩ more ⟨s, world⟩ ∧ s.Recounted (lines ++ more) ∧
      ∀ id, s.transport = some id → stageOf id (signalsOf (lines ++ more)) = some .ready := by
  by_cases opening : ∃ id, s.transport = some id ∧
      stageOf id (signalsOf lines) = some .opening
  · obtain ⟨id, held, opening⟩ := opening
    have own := h.tracks.own id held
    have ready : stageOf id (signalsOf lines ++ [.opened id]) = some .ready :=
      stageOf_step rfl opening rfl
    obtain ⟨now, brings⟩ := opens
    have rule : Rule lines cause (.opened id) :=
      .opened (h.transport.trans held) (brings.trans (by rw [own]))
    refine ⟨[⟨cause, sceneAfter lines, .opened id⟩], ⟨List.forall_mem_singleton.mpr rfl,
      (List.append_nil _).symm, .opened .nothing id⟩, ?_, ?_⟩
    · exact h.concat rule rfl (h.tracks.concat held rfl ⟨rfl, rfl, rfl⟩ ready) h.submitted
        (List.append_nil _).symm
    · intro other holds
      rw [held, Option.some.injEq] at holds
      rw [← holds, signalsOf_append]
      exact ready
  · refine ⟨[], ⟨List.forall_mem_nil _, (List.append_nil _).symm, .nothing⟩, ?_, ?_⟩
    · rwa [List.append_nil]
    · intro id held
      rw [List.append_nil]
      rcases h.tracks.held id held with ready | ⟨still, -⟩
      · exact ready
      · exact absurd ⟨id, held, still⟩ opening

theorem recounts_connected (world : σ) (wall : UInt64)
    (state : s.state = .connecting ∨ s.state = .reconnected)
    (opens : ∃ now, cause = .handleEvent s.connectionId .opened now) :
    Recounts cause ⟨s, world⟩
      ⟨({ s with hasConnected := true }).enter .connected none wall, world⟩ := by
  intro lines h
  obtain ⟨more, account, recounted, ready⟩ := recounts_opened s world opens h
  have marked : ({ s with hasConnected := true } : Session).Recounted (lines ++ more) :=
    recounted.congr ⟨rfl, rfl, rfl⟩ rfl recounted.submitted List.suffix_rfl
  have turn : Turn (lines ++ more) cause .connected := by
    refine marked.turn ?_ nofun ?_
    · rcases state with state | state <;> rw [show _ = _ from state] <;> rfl
    · rcases state with state | state <;> rw [show _ = _ from state] <;> exact opens
  obtain ⟨accountToo, entered⟩ := enter_recounted marked world none wall turn fun _ => ready
  refine ⟨_, account.trans ⟨accountToo.cause, accountToo.told, accountToo.conducted⟩, ?_⟩
  rwa [← List.append_assoc]

/-- A frame that is held back comes from a caller. -/
theorem recounts_enqueue (world : σ) {packet : Packet}
    (submitted : packet.purpose.isSubmitted = true) :
    Recounts cause ⟨s, world⟩ ⟨s.enqueue packet, world⟩ := by
  rw [Session.enqueue_eq]
  refine recounts_asides world _ (fun act mem => ?_) ⟨rfl, rfl, rfl⟩ rfl (fun other mem => ?_) rfl
  · obtain ⟨packet, -, rfl⟩ := List.mem_map.mp mem
    rfl
  · unfold Session.queueAfter at mem
    dsimp only at mem
    split at mem
    · exact .inl mem
    · rcases List.mem_append.mp mem with mem | mem
      · exact .inl (List.mem_of_mem_drop mem)
      · cases List.mem_singleton.mp mem
        exact .inr submitted

theorem recounts_heard (world : σ) {bytes : Bytes} {frame : Frame} (wall : UInt64)
    (brings : ∃ now, cause = .handleEvent s.connectionId (.frame bytes) now)
    (decodes : Frame.decode bytes = .ok frame) :
    Recounts cause ⟨s, world⟩ ⟨(s.recordArrival bytes wall).note
      (.heard ⟨frame, (Message.ofFrame frame).toOption.join⟩), world⟩ := by
  intro lines h
  have rule : Rule lines cause
      (.told (.heard ⟨frame, (Message.ofFrame frame).toOption.join⟩)) := by
    refine .heard (fun id held => ?_) rfl
    obtain ⟨now, brings⟩ := brings
    rw [h.transport] at held
    rw [h.tracks.own id held]
    exact ⟨bytes, now, brings, decodes⟩
  refine ⟨_, Recounts.line (d := ⟨_, world⟩) h rule rfl ?_ h.submitted rfl .nothing⟩
  exact (List.append_nil (signalsOf lines)).symm ▸ h.tracks.congr ⟨rfl, rfl, rfl⟩ rfl

/-- To let go of nothing only uses up a generation. -/
theorem recounts_unplug (world : σ) (free : s.transport = none) :
    Recounts cause ⟨s, world⟩ ⟨s.unplug, world⟩ := by
  intro lines h
  refine ⟨[], ⟨List.forall_mem_nil _, ?_, .nothing⟩, ?_⟩
  · rw [Session.unplug_eq, free]
    rfl
  · rw [List.append_nil]
    refine ⟨h.lawful, ?_, h.tracks.unplug_of_free free, ?_, ?_⟩
    · rw [h.scene, Session.unplug_eq, free]
    · rw [Session.unplug_eq]
      exact h.submitted
    · rw [Session.unplug_eq, free]
      exact (List.append_nil s.journal).symm ▸ h.journal

/-- An edit that asks nothing adds lines that no world hears of. -/
theorem recounts_of_silent (edit : Edit cause s t) (silent : s.Silent t) (world : σ) :
    Recounts cause ⟨s, world⟩ ⟨t, world⟩ := by
  have quiet {t : Session} (calm : Calm s t) (state : t.state = s.state)
      (queue : t.queue = s.queue) (journal : t.journal = s.journal) :
      Recounts cause ⟨s, world⟩ ⟨t, world⟩ :=
    recounts_still world calm state (fun _ mem => .inl (queue ▸ mem)) journal
  have asks {acts : List Act} {act : Act} (journal : t.journal = s.journal ++ acts)
      (mem : act ∈ acts) (asks : act.asks = true) : Recounts cause ⟨s, world⟩ ⟨t, world⟩ := by
    rw [silent.mem journal _ mem] at asks
    cases asks
  cases edit with
  | quiet => exact quiet ⟨rfl, rfl, rfl⟩ rfl rfl rfl
  | latency => exact quiet ⟨rfl, rfl, rfl⟩ rfl rfl rfl
  | advance => exact quiet ⟨rfl, rfl, rfl⟩ rfl rfl rfl
  | probe => exact quiet ⟨rfl, rfl, rfl⟩ rfl rfl rfl
  | misread => exact quiet ⟨rfl, rfl, rfl⟩ rfl rfl rfl
  | enter turns again free prompted =>
    exact recounts_enter world (SessionState.leadsTo_of_turnsTo _ _ turns).1 free prompted
      (Session.isLive_of_turnsTo turns)
  | reconnected state =>
    refine Recounts.trans (quiet (t := { s with stats := s.stats.recordReconnect }) ⟨rfl, rfl, rfl⟩
      rfl rfl rfl) (recounts_fall world ?_ rfl rfl)
    rw [show _ = _ from state]
    rfl
  | connected state opens => exact recounts_connected world _ state opens
  | fail error state => exact recounts_fall world (s.state.leadsTo_error state) rfl rfl
  | giveUp attempts state =>
    refine ((recounts_discardQueue s world).trans (recounts_failRequests _ world)).trans
      (recounts_fall world ?_ rfl rfl)
    rw [Session.failRequests_eq, Session.discardQueue_eq]
    exact congrArg (fun state => state.leadsTo .disconnected) state
  | reject reason state =>
    refine (recounts_discardQueue s world).trans (recounts_fall world ?_ rfl rfl)
    rw [Session.discardQueue_eq]
    exact congrArg (fun state => state.leadsTo .error) state
  | tearDown asked state =>
    have reset : Recounts cause ⟨s.discardQueue.failRequests, world⟩
        ⟨{ s.discardQueue.failRequests with
          policy := s.discardQueue.failRequests.policy.reset }, world⟩ :=
      recounts_still world ⟨rfl, rfl, rfl⟩ rfl (fun _ => .inl) rfl
    refine (((recounts_discardQueue s world).trans (recounts_failRequests _ world)).trans
      reset).trans (recounts_fall world ?_ rfl rfl)
    rw [Session.failRequests_eq, Session.discardQueue_eq]
    exact congrArg (fun state => state.leadsTo .disconnected) state
  | settleAll => exact recounts_failRequests s world
  | expire now =>
    rw [Session.expireRequests_eq_foldl]
    exact recounts_settled world _ (fun id => .error (.requestTimeout id)) ⟨rfl, rfl, rfl⟩ rfl rfl rfl
  | answer => exact recounts_note world rfl ⟨rfl, rfl, rfl⟩ rfl rfl rfl
  | accept => exact recounts_note world rfl ⟨rfl, rfl, rfl⟩ rfl rfl rfl
  | hold packet submission submitted => exact recounts_enqueue world submitted
  | hear wall brings decodes => exact recounts_heard world wall brings decodes
  | unplug =>
    cases held : s.transport with
    | none => exact recounts_unplug world held
    | some id =>
      have journal : s.unplug.journal = s.journal ++ [.hungUp id] := by
        rw [Session.unplug_eq, held]
        rfl
      exact asks journal List.mem_cons_self rfl
  | announce => exact asks (List.append_assoc ..) (List.mem_cons_of_mem _ List.mem_cons_self) rfl
  | _ => exact asks rfl List.mem_cons_self rfl

end Alone

/-! ## Every move -/

section Moves

open Session (Calm)

/-- A transport that is ready is handed a frame. Whether it takes it or not, the scene stays. -/
theorem handed_recounted {lines : List Line} (h : c.session.Recounted lines) (entry : Entry)
    {id : ConnectionId} {packet : Packet} (handed : entry.handed? = some (id, packet))
    (held : c.session.transport = some id) (ready : stageOf id (signalsOf lines) = some .ready)
    (genuine : packet.Genuine) (occasion : Occasion lines cause packet.purpose)
    (calm : Calm c.session d.session) (state : d.session.state = c.session.state)
    (queue : d.session.queue ⊆ c.session.queue)
    (journal : d.session.journal = c.session.journal ++ entry.act?.toList)
    (conducted : Conducted c.world entry.signal?.toList d.world) :
    ∃ more, Account cause c more d ∧ d.session.Recounted (lines ++ more) := by
  have rule : Rule lines cause entry :=
    .handed handed (h.transport.trans held) ready genuine occasion
  refine ⟨_, Recounts.line h rule ?_ ?_ (fun packet mem => h.submitted packet (queue mem)) journal
    conducted⟩
  · rw [Scene.step_of_handed handed, state, calm.transport]
  · obtain ⟨taken, sent⟩ := Entry.signal?_of_handed handed
    rw [sent]
    exact h.tracks.concat held rfl calm (stageOf_step rfl ready rfl)

/-- What a call may hand over at once, it has an occasion to hand over. -/
theorem occasion_of_permits {s : Session} {lines : List Line} (h : s.Recounted lines)
    {purpose : Purpose} (permitted : s.Permits cause purpose) : Occasion lines cause purpose := by
  unfold Occasion
  rw [h.state]
  cases purpose with
  | submission => exact permitted.2.1
  | request => exact permitted.2.1
  | ping => exact permitted.1
  | pong => exact permitted
  | credentials => cases permitted
  | farewell => cases permitted

/-- The frames held back are sent while the session is connected. -/
theorem occasion_of_submitted {s : Session} {lines : List Line} (h : s.Recounted lines)
    {purpose : Purpose} (submitted : purpose.isSubmitted = true) (state : s.state = .connected) :
    Occasion lines cause purpose := by
  unfold Occasion
  rw [h.state]
  cases purpose <;> first | exact state | cases submitted

theorem occasion_of_announces {lines : List Line} {state : SessionState} {purpose : Purpose}
    (due : state.announces? = some purpose) (enters : Enters lines cause state) :
    Occasion lines cause purpose := by
  cases state <;> cases due <;> exact enters

/-- A live connection enters a state and offers the frame that goes with it. -/
theorem announce_recounted {c : Station σ} {lines : List Line} (h : c.session.Recounted lines)
    {state : SessionState} (turns : c.session.state.turnsTo state = true)
    (prompted : Prompted cause c.session.connectionId c.session.lastPhase? c.session.state state)
    (live : c.session.state.isLive = true) {id : ConnectionId}
    (held : c.session.transport = some id) {packet : Packet}
    (due : state.announces? = some packet.purpose) (genuine : packet.Genuine) (entry : Entry)
    (handed : entry.handed? = some (id, packet)) {d : Station σ}
    (calm : Calm (c.enter state none).session d.session) (stateToo : d.session.state = state)
    (queue : d.session.queue ⊆ c.session.queue)
    (journal : d.session.journal = (c.enter state none).session.journal ++ entry.act?.toList)
    (conducted : Conducted c.world entry.signal?.toList d.world) :
    ∃ more, Account cause c more d ∧ d.session.Recounted (lines ++ more) := by
  have turn : Turn lines cause state := by
    refine h.turn (SessionState.leadsTo_of_turnsTo _ _ turns).1 ?_ prompted
    rw [SessionState.isAttempting_of_announces due]
    nofun
  have ready := h.tracks.ready held live
  obtain ⟨account, entered⟩ := enter_recounted h c.world none _ turn
    fun _ other holds => h.tracks.ready holds live
  obtain ⟨more, accountToo, recounted⟩ := handed_recounted
    (c := c.enter state none) entered entry handed held
    (by rw [signalsOf_append]; exact (List.append_nil (signalsOf lines)).symm ▸ ready) genuine
    (occasion_of_announces due (enters_concat.mpr ⟨rfl, rfl⟩)) calm stateToo queue journal conducted
  refine ⟨_, account.trans accountToo, ?_⟩
  rwa [← List.append_assoc]

theorem Move.recounts (h : Move cause c d) : Recounts cause c d := by
  cases h with
  | alone world edit silent => exact recounts_of_silent edit silent world
  | dial now attempts free _ answer =>
    intro lines h
    refine ⟨_, Recounts.line h (.dialled (by rw [h.state]; exact attempts)
      (by rw [h.transport]; exact free) (h.tracks.unused free)) rfl
      (h.tracks.dialled free attempts now) h.submitted rfl (.dialled .nothing answer)⟩
  | refuse attempts free _ answer =>
    intro lines h
    refine ⟨_, Recounts.line h (.dialled (by rw [h.state]; exact attempts)
      (by rw [h.transport]; exact free) (h.tracks.unused free)) rfl
      (h.tracks.refused free) h.submitted rfl (.dialled .nothing answer)⟩
  | @hangUp _ id held =>
    intro lines h
    refine ⟨_, Recounts.line h (.hungUp (h.transport.trans held)) ?_ (h.tracks.hungUp held) ?_ ?_
      (.hungUp .nothing id)⟩
    all_goals rw [Session.unplug_eq]
    · rfl
    · exact h.submitted
    · rw [held]
      rfl
  | hand held permitted genuine answer =>
    intro lines h
    exact handed_recounted h (.told (.delivered _ _)) rfl held
      (h.tracks.ready held permitted.isLive) genuine (occasion_of_permits h permitted)
      ⟨rfl, rfl, rfl⟩ rfl (fun _ mem => mem) rfl (.sent .nothing answer)
  | @flush _ id packet rest world held state queue _ answer =>
    intro lines h
    have submitted := h.submitted packet (by rw [queue]; exact List.mem_cons_self)
    exact handed_recounted h (.told (.delivered id packet)) rfl held
      (h.tracks.ready held (congrArg SessionState.isLive state))
      (Packet.genuine_of_submitted submitted) (occasion_of_submitted h submitted state)
      ⟨rfl, rfl, rfl⟩ rfl (by rw [queue]; exact List.subset_cons_self _ _) rfl
      (.sent .nothing answer)
  | @announce _ id state packet world turns prompted live held due genuine _ answer =>
    intro lines h
    exact announce_recounted h turns prompted live held due genuine
      (.told (.delivered id packet)) rfl ⟨rfl, rfl, rfl⟩ rfl (fun _ mem => mem) rfl
      (.sent .nothing answer)
  | @announceInVain _ id state packet world e turns prompted live held due genuine _ answer =>
    intro lines h
    exact announce_recounted h turns prompted live held due genuine
      (.refused id packet) rfl ⟨rfl, rfl, rfl⟩ rfl (fun _ mem => mem)
      (List.append_nil _).symm (.sent .nothing answer)
  | @lose _ id packet world e held offers answer =>
    intro lines h
    have ready := h.tracks.ready held offers.isLive
    have offered : packet.Genuine ∧ Occasion lines cause packet.purpose := by
      rcases offers with ⟨genuine, permitted⟩ | ⟨state, rest, queue⟩
      · exact ⟨genuine, occasion_of_permits h permitted⟩
      · have submitted := h.submitted packet (by rw [queue]; exact List.mem_cons_self)
        exact ⟨Packet.genuine_of_submitted submitted, occasion_of_submitted h submitted state⟩
    exact handed_recounted h (.refused id packet) rfl held ready offered.1 offered.2
      ⟨rfl, rfl, rfl⟩ rfl (fun _ mem => mem) (List.append_nil _).symm (.sent .nothing answer)

theorem Moves.recounts (h : Moves cause c d) : Recounts cause c d := by
  induction h with
  | refl => exact .refl c
  | tail _ move ih => exact ih.trans move.recounts

end Moves

end Station

/-! ## Calls and runs -/

section Runs

variable {σ : Type} [Environment σ]

/-- Lines tell in full what a call did. -/
structure Moment.Transcribed (m : Moment σ) (lines : List Line) : Prop where
  cause : ∀ line ∈ lines, line.cause = m.call
  told : actsOf lines = m.acts
  /-- The world was asked for what the lines say, and answered so. -/
  conducted : Conducted m.before.world (signalsOf lines) m.after.world

theorem Moment.recounts (m : Moment σ) {lines : List Line}
    (h : m.before.session.Recounted lines) :
    ∃ more, m.Transcribed more ∧ m.after.session.Recounted (lines ++ more) := by
  obtain ⟨d, moves, journal, after⟩ := m.moves
  obtain ⟨more, account, recounted⟩ := moves.recounts lines h
  refine ⟨more, ⟨account.cause, ?_, ?_⟩, ?_⟩
  · exact List.append_cancel_left (account.told.symm.trans journal)
  · rw [after]
    exact account.conducted
  · rw [after]
    refine recounted.congr (d.session.calm_entering _ _) (d.session.state_entering _ _) ?_ ?_
    · exact (d.session.queue_entering _ _).symm ▸ recounted.submitted
    · exact (d.session.journal_entering _ _).symm ▸ List.suffix_rfl

/-- Lines tell in full what the calls of a run did, one after the other, and each call found the
session in the scene that they tell. -/
inductive Transcript : List (Moment σ) → List Line → Prop where
  | nil : Transcript [] []
  | call {ms : List (Moment σ)} {lines more : List Line} (h : Transcript ms lines) {m : Moment σ}
      (found : sceneAfter lines = ⟨m.before.session.state, m.before.session.transport⟩)
      (told : m.Transcribed more) : Transcript (ms ++ [m]) (lines ++ more)

namespace Run

variable {key : String} {target : Target} {config : SessionConfig} {generation serial : Nat}
  {mark : String}
  {ms : List (Moment σ)} {c : Station σ}

theorem transcript (h : Run (.create key target config generation serial mark) ms c) :
    ∃ lines, Transcript ms lines ∧ c.session.Recounted lines := by
  induction h with
  | begin world =>
    exact ⟨[], .nil, .nil, rfl, ⟨nofun, nofun, fun _ _ _ => .inl rfl⟩, nofun, List.suffix_rfl⟩
  | @call ms c _ call ih =>
    obtain ⟨lines, transcript, recounted⟩ := ih
    have found := recounted.scene
    obtain ⟨more, told, recounted⟩ := Moment.recounts ⟨c, call⟩ recounted
    exact ⟨_, transcript.call found told, recounted⟩
  | drain _ ih =>
    obtain ⟨lines, transcript, recounted⟩ := ih
    exact ⟨lines, transcript, recounted.congr ⟨rfl, rfl, rfl⟩ rfl recounted.submitted
      List.nil_suffix⟩
  | world _ _ ih => exact ih

end Run

end Runs

end Switchboard
