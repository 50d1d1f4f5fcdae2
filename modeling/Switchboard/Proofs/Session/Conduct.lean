import Switchboard.Proofs.Session.Moves
import Switchboard.Proofs.Session.Stages
/-!
# A session and its transports

A session `Tracks` a trace if it holds what the trace has left open: a transport that it holds is
opening or ready, and ready if the session is live; the ids that it can still dial are unused, for
every transport that was let go has an older generation. Every move keeps this, with a trace of what
passed between the session and the world (`Station.Move.tracks`), and so does every call
(`Moment.tracks`).
-/

namespace Switchboard

section Conducted

variable {σ : Type} [Environment σ]

/-- A world that was asked for what a trace says, and answered so. -/
inductive Conducted (world : σ) : List Signal → σ → Prop where
  | nothing : Conducted world [] world
  /-- A report asks nothing. -/
  | opened {trace : List Signal} {later : σ} (h : Conducted world trace later)
      (id : ConnectionId) : Conducted world (trace ++ [.opened id]) later
  | dialled {trace : List Signal} {later last : σ} {answer : Except Error Unit}
      (h : Conducted world trace later) {id : ConnectionId} {target : Target}
      (answered : Environment.dial later target id = (answer, last)) :
      Conducted world (trace ++ [.dialled id target answer.isOk]) last
  | sent {trace : List Signal} {later last : σ} {answer : Except Error Unit}
      (h : Conducted world trace later) {id : ConnectionId} {bytes : Bytes}
      (answered : Environment.deliver later id bytes = (answer, last)) :
      Conducted world (trace ++ [.sent id bytes answer.isOk]) last
  | hungUp {trace : List Signal} {later : σ} (h : Conducted world trace later)
      (id : ConnectionId) : Conducted world (trace ++ [.hungUp id]) (Environment.hangUp later id)

theorem Conducted.trans {u v w : σ} {trace more : List Signal} (h : Conducted u trace v)
    (k : Conducted v more w) : Conducted u (trace ++ more) w := by
  induction k with
  | nothing => rwa [List.append_nil]
  | opened _ id ih => rw [← List.append_assoc]; exact ih.opened id
  | dialled _ answered ih => rw [← List.append_assoc]; exact ih.dialled answered
  | sent _ answered ih => rw [← List.append_assoc]; exact ih.sent answered
  | hungUp _ id ih => rw [← List.append_assoc]; exact ih.hungUp id

/-- A world that keeps a record of what it was asked for. -/
structure Recorded (σ : Type) where
  world : σ
  record : List Signal := []

instance : Environment (Recorded σ) where
  dial w target id :=
    let (answer, world) := Environment.dial w.world target id
    (answer, ⟨world, w.record ++ [.dialled id target answer.isOk]⟩)
  deliver w id bytes :=
    let (answer, world) := Environment.deliver w.world id bytes
    (answer, ⟨world, w.record ++ [.sent id bytes answer.isOk]⟩)
  hangUp w id := ⟨Environment.hangUp w.world id, w.record ++ [.hungUp id]⟩
  wallClock w := Environment.wallClock w.world

/-- A trace leaves out nothing: what a recorded world was asked for is what stands in the trace. -/
theorem Conducted.record {w w' : Recorded σ} {trace : List Signal} (h : Conducted w trace w') :
    w'.record = w.record ++ trace.filter Signal.asks := by
  induction h with
  | nothing => exact (List.append_nil _).symm
  | opened _ id ih =>
    rw [ih, List.filter_append]
    exact congrArg _ (List.append_nil _).symm
  | dialled _ answered ih =>
    cases answered
    rw [List.filter_append, ← List.append_assoc, ← ih]
    rfl
  | sent _ answered ih =>
    cases answered
    rw [List.filter_append, ← List.append_assoc, ← ih]
    rfl
  | hungUp _ id ih =>
    rw [List.filter_append, ← List.append_assoc, ← ih]
    rfl

end Conducted

namespace Session

/-- No move of the state machine makes a connection live that was not. -/
theorem isLive_of_turnsTo {before after : SessionState} (turns : before.turnsTo after = true)
    (live : after.isLive = true) : before.isLive = true := by
  revert turns live
  cases before <;> cases after <;> decide

/-- What an edit that asks nothing leaves as it is. -/
structure Calm (s t : Session) : Prop where
  key : t.key = s.key
  generation : t.generation = s.generation
  transport : t.transport = s.transport

/-- An edit that asks nothing leaves the transport alone, and it makes a connection live only if the
call reports it open. To let go of nothing only uses up a generation. -/
theorem Edit.calm {cause : Call} {s t : Session} (h : Edit cause s t) (silent : s.Silent t) :
    Calm s t ∧ (t.state.isLive = true → s.state.isLive = true ∨
        ∃ now, cause = .handleEvent s.connectionId .opened now) ∨
      s.transport = none ∧ t = s.unplug := by
  -- Most edits do not enter a live state, or leave the state as it is.
  have still {t : Session} (calm : Calm s t) (state : t.state = s.state) :
      Calm s t ∧ (t.state.isLive = true → s.state.isLive = true ∨
          ∃ now, cause = .handleEvent s.connectionId .opened now) ∨
        s.transport = none ∧ t = s.unplug :=
    .inl ⟨calm, fun live => .inl (state ▸ live)⟩
  cases h with
  | unplug =>
    cases held : s.transport with
    | none => exact .inr ⟨rfl, rfl⟩
    | some id =>
      have journal : s.unplug.journal = s.journal ++ [.hungUp id] := by
        rw [unplug_eq, held]
        rfl
      cases silent.mem journal _ List.mem_cons_self
  | dial => cases silent.mem rfl _ List.mem_cons_self
  | enter turns =>
    exact .inl ⟨⟨rfl, rfl, rfl⟩, fun live => .inl (isLive_of_turnsTo turns live)⟩
  | reconnected => exact .inl ⟨⟨rfl, rfl, rfl⟩, nofun⟩
  | connected _ opens => exact .inl ⟨⟨rfl, rfl, rfl⟩, fun _ => .inr opens⟩
  | fail => exact .inl ⟨⟨rfl, rfl, rfl⟩, nofun⟩
  | giveUp =>
    rw [failRequests_eq, discardQueue_eq]
    exact .inl ⟨⟨rfl, rfl, rfl⟩, nofun⟩
  | reject =>
    rw [discardQueue_eq]
    exact .inl ⟨⟨rfl, rfl, rfl⟩, nofun⟩
  | announce _ turns => exact .inl ⟨⟨rfl, rfl, rfl⟩, fun live => .inl (isLive_of_turnsTo turns live)⟩
  | tearDown =>
    rw [failRequests_eq, discardQueue_eq]
    exact .inl ⟨⟨rfl, rfl, rfl⟩, nofun⟩
  | settleAll => rw [failRequests_eq]; exact still ⟨rfl, rfl, rfl⟩ rfl
  | expire now => rw [expireRequests_eq_foldl]; exact still ⟨rfl, rfl, rfl⟩ rfl
  | hold packet => rw [enqueue_eq]; exact still ⟨rfl, rfl, rfl⟩ rfl
  | _ => exact still ⟨rfl, rfl, rfl⟩ rfl

/-- A session holds what a trace has left open of the transports of its key. -/
structure Tracks (s : Session) (trace : List Signal) : Prop where
  own : ∀ id, s.transport = some id → id = s.connectionId
  held : ∀ id, s.transport = some id → stageOf id trace = some .ready ∨
    stageOf id trace = some .opening ∧ s.state.isLive = false
  /-- What is not held was never granted or has an older generation. -/
  rest : ∀ id : ConnectionId, id.key = s.key → s.transport ≠ some id →
    stageOf id trace = some .unused ∨ stageOf id trace = some .gone ∧ id.generation < s.generation

namespace Tracks

variable {s t : Session} {trace more : List Signal}

theorem calm (h : s.Tracks trace) (still : Calm s t)
    (dead : ∀ id, s.transport = some id → stageOf id trace = some .opening →
      t.state.isLive = false) : t.Tracks trace := by
  refine ⟨?_, ?_, ?_⟩
  · intro id held
    rw [still.transport] at held
    rw [h.own id held, connectionId, connectionId, still.key, still.generation]
  · intro id held
    rw [still.transport] at held
    exact (h.held id held).imp_right fun ⟨opening, _⟩ => ⟨opening, dead id held opening⟩
  · intro id named free
    rw [still.key] at named
    rw [still.transport] at free
    rw [still.generation]
    exact h.rest id named free

theorem dead (h : s.Tracks trace) {id : ConnectionId} (held : s.transport = some id)
    (opening : stageOf id trace = some .opening) : s.state.isLive = false := by
  rcases h.held id held with ready | ⟨-, dead⟩
  · rw [opening] at ready
    cases ready
  · exact dead

theorem congr (h : s.Tracks trace) (still : Calm s t) (state : t.state = s.state) :
    t.Tracks trace := by
  apply h.calm still
  intro id held opening
  rw [state]
  exact h.dead held opening

theorem append_of_ne (h : s.Tracks trace) (other : ∀ signal ∈ more, signal.id.key ≠ s.key) :
    s.Tracks (trace ++ more) := by
  have same (id : ConnectionId) (named : id.key = s.key) :
      stageOf id (trace ++ more) = stageOf id trace := by
    apply stageOf_append_of_ne
    intro signal mem eq
    apply other signal mem
    rw [eq, named]
  refine ⟨h.own, ?_, ?_⟩
  · intro id held
    have named : id.key = s.key := by rw [h.own id held]; rfl
    rw [same id named]
    exact h.held id held
  · intro id named free
    rw [same id named]
    exact h.rest id named free

theorem ready (h : s.Tracks trace) {id : ConnectionId} (held : s.transport = some id)
    (live : s.state.isLive = true) : stageOf id trace = some .ready := by
  rcases h.held id held with ready | ⟨-, dead⟩
  · exact ready
  · rw [live] at dead
    cases dead

theorem rest_concat (h : s.Tracks trace) {id : ConnectionId} (named : id.key = s.key)
    (free : s.transport ≠ some id) {signal : Signal} (other : signal.id ≠ id) :
    stageOf id (trace ++ [signal]) = some .unused ∨
      stageOf id (trace ++ [signal]) = some .gone ∧ id.generation < s.generation := by
  rw [stageOf_concat_of_ne other]
  exact h.rest id named free

theorem concat (h : s.Tracks trace) {id : ConnectionId} (held : s.transport = some id)
    {signal : Signal} (own : signal.id = id) (still : Calm s t)
    (ready : stageOf id (trace ++ [signal]) = some .ready) : t.Tracks (trace ++ [signal]) := by
  refine ⟨?_, ?_, ?_⟩
  · intro other holds
    rw [still.transport] at holds
    rw [h.own other holds, connectionId, connectionId, still.key, still.generation]
  · intro other holds
    rw [still.transport, held, Option.some.injEq] at holds
    rw [← holds]
    exact .inl ready
  · intro other named free
    rw [still.key] at named
    rw [still.transport] at free
    rw [still.generation]
    apply h.rest_concat named free
    intro eq
    exact free (by rw [held, ← own, eq])

theorem sent (h : s.Tracks trace) {id : ConnectionId} (held : s.transport = some id)
    (live : s.state.isLive = true) (bytes : Bytes) (taken : Bool) (still : Calm s t) :
    t.Tracks (trace ++ [.sent id bytes taken]) := by
  exact h.concat held rfl still (stageOf_step rfl (h.ready held live) rfl)

theorem hungUp (h : s.Tracks trace) {id : ConnectionId} (held : s.transport = some id) :
    s.unplug.Tracks (trace ++ [.hungUp id]) := by
  rw [unplug_eq]
  refine ⟨nofun, nofun, ?_⟩
  intro other named _
  by_cases same : other = id
  · subst same
    refine .inr ⟨?_, ?_⟩
    · rcases h.held other held with ready | ⟨opening, -⟩
      · exact stageOf_step rfl ready rfl
      · exact stageOf_step rfl opening rfl
    · rw [h.own other held]
      exact Nat.lt_succ_self _
  · have free : s.transport ≠ some other := fun holds => same (by simpa [held] using holds.symm)
    have kept := h.rest_concat named free (show (Signal.hungUp id).id ≠ other from Ne.symm same)
    exact kept.imp_right fun ⟨gone, old⟩ => ⟨gone, Nat.lt_succ_of_lt old⟩

theorem unplug_of_free (h : s.Tracks trace) (free : s.transport = none) :
    s.unplug.Tracks trace := by
  rw [unplug_eq]
  refine ⟨nofun, nofun, ?_⟩
  intro other named _
  have kept := h.rest other named (by rw [free]; nofun)
  exact kept.imp_right fun ⟨gone, old⟩ => ⟨gone, Nat.lt_succ_of_lt old⟩

theorem unused (h : s.Tracks trace) (free : s.transport = none) :
    stageOf s.connectionId trace = some .unused := by
  rcases h.rest s.connectionId rfl (by rw [free]; nofun) with unused | ⟨-, old⟩
  · exact unused
  · exact absurd old (Nat.lt_irrefl _)

theorem dialled (h : s.Tracks trace) (free : s.transport = none)
    (state : s.state.isAttempting = true) (now : Instant) :
    ((s.note (.dialled s.connectionId s.target true)).plug now).Tracks
      (trace ++ [.dialled s.connectionId s.target true]) := by
  refine ⟨?_, ?_, ?_⟩
  · intro id held
    exact (Option.some.inj held).symm
  · intro id held
    rw [← Option.some.inj held]
    exact .inr ⟨stageOf_step rfl (h.unused free) rfl, s.state.isLive_eq_false state⟩
  · intro id named other
    apply h.rest_concat named (by rw [free]; nofun)
    intro eq
    exact other (congrArg some eq)

theorem refused (h : s.Tracks trace) (free : s.transport = none) :
    (s.note (.dialled s.connectionId s.target false)).Tracks
      (trace ++ [.dialled s.connectionId s.target false]) := by
  have held (id : ConnectionId) : s.transport ≠ some id := by rw [free]; nofun
  refine ⟨?_, ?_, ?_⟩
  · intro id holds
    exact absurd holds (held id)
  · intro id holds
    exact absurd holds (held id)
  · intro id named _
    by_cases same : s.connectionId = id
    · subst same
      exact .inl (stageOf_step rfl (h.unused free) rfl)
    · exact h.rest_concat named (held id) same

end Tracks

end Session

namespace Station

variable {σ : Type} [Environment σ] {cause : Call} {c d e : Station σ} {trace more : List Signal}

/-- What passes between a session and the world in the course of a call. -/
structure Conduct (cause : Call) (c : Station σ) (trace : List Signal) (d : Station σ) : Prop where
  key : d.session.key = c.session.key
  conducted : Conducted c.world trace d.world
  told : ∃ acts, d.session.journal = c.session.journal ++ acts ∧
    trace.filter Signal.told = acts.filterMap Act.signal?
  named : ∀ signal ∈ trace, signal.id.key = c.session.key
  /-- A report is what the call brings. -/
  reported : ∀ id, .opened id ∈ trace → ∃ now, cause = .handleEvent id .opened now

theorem Conduct.trans (h : Conduct cause c trace d) (k : Conduct cause d more e) :
    Conduct cause c (trace ++ more) e where
  key := k.key.trans h.key
  conducted := h.conducted.trans k.conducted
  told := by
    obtain ⟨acts, journal, told⟩ := h.told
    obtain ⟨others, journalToo, toldToo⟩ := k.told
    refine ⟨acts ++ others, by rw [journalToo, journal, List.append_assoc], ?_⟩
    rw [List.filter_append, List.filterMap_append, told, toldToo]
  named signal mem := by
    rcases List.mem_append.mp mem with mem | mem
    · exact h.named signal mem
    · rw [k.named signal mem, h.key]
  reported id mem := (List.mem_append.mp mem).elim (h.reported id) (k.reported id)

/-- A silent change, with a report or without. -/
theorem Conduct.of_silent {s t : Session} {world : σ} (key : t.key = s.key) (silent : s.Silent t)
    (reports : ∀ signal ∈ trace, ∃ id now, signal = .opened id ∧ id.key = s.key ∧
      cause = .handleEvent id .opened now)
    (conducted : Conducted world trace world) : Conduct cause ⟨s, world⟩ trace ⟨t, world⟩ := by
  refine ⟨key, conducted, ?_, ?_, ?_⟩
  · obtain ⟨acts, journal, silent⟩ := silent
    refine ⟨acts, journal, ?_⟩
    have untold : trace.filter Signal.told = [] := by
      rw [List.filter_eq_nil_iff]
      intro signal mem
      obtain ⟨id, now, rfl, -, -⟩ := reports signal mem
      exact Bool.false_ne_true
    rw [untold, eq_comm, List.filterMap_eq_nil_iff]
    intro act mem
    have asks := silent act mem
    cases act <;> first | rfl | cases asks
  · intro signal mem
    obtain ⟨id, now, rfl, named, -⟩ := reports signal mem
    exact named
  · intro id mem
    obtain ⟨other, now, same, -, brings⟩ := reports _ mem
    cases same
    exact ⟨now, brings⟩

/-- One signal that is no report. -/
theorem Conduct.of_signal {signal : Signal} {acts : List Act}
    (key : d.session.key = c.session.key)
    (conducted : Conducted c.world [signal] d.world)
    (journal : d.session.journal = c.session.journal ++ acts)
    (told : [signal].filter Signal.told = acts.filterMap Act.signal?)
    (named : signal.id.key = c.session.key) (asks : ∀ id, signal ≠ .opened id) :
    Conduct cause c [signal] d := by
  refine ⟨key, conducted, ⟨acts, journal, told⟩, List.forall_mem_singleton.mpr named, ?_⟩
  intro id mem
  exact absurd (List.mem_singleton.mp mem).symm (asks id)

/-- A silent edit reports at most that the transport held is open. -/
theorem tracks_of_silent {s t : Session} (edit : Session.Edit cause s t) (silent : s.Silent t)
    (world : σ) (k : s.Tracks trace) :
    ∃ more, Conduct cause ⟨s, world⟩ more ⟨t, world⟩ ∧ t.Tracks (trace ++ more) := by
  have quiet (key : t.key = s.key) (tracks : t.Tracks trace) :
      ∃ more, Conduct cause ⟨s, world⟩ more ⟨t, world⟩ ∧ t.Tracks (trace ++ more) := by
    refine ⟨[], .of_silent key silent nofun .nothing, ?_⟩
    rw [List.append_nil]
    exact tracks
  rcases edit.calm silent with ⟨still, live⟩ | ⟨free, rfl⟩
  · by_cases opens : ∃ id, s.transport = some id ∧ stageOf id trace = some .opening ∧
        t.state.isLive = true
    · -- The connection becomes live, so the call reports it open.
      obtain ⟨id, held, opening, becomes⟩ := opens
      have own := k.own id held
      have brings : ∃ now, cause = .handleEvent id .opened now := by
        rcases live becomes with already | brings
        · rw [k.dead held opening] at already
          cases already
        · rwa [own]
      obtain ⟨now, brings⟩ := brings
      refine ⟨[.opened id], .of_silent still.key silent ?_ (.opened .nothing id),
        k.concat held rfl still (stageOf_step rfl opening rfl)⟩
      exact List.forall_mem_singleton.mpr ⟨id, now, rfl, by rw [own]; rfl, brings⟩
    · apply quiet still.key
      apply k.calm still
      intro id held opening
      rw [Bool.eq_false_iff]
      intro becomes
      exact opens ⟨id, held, opening, becomes⟩
  · apply quiet
    · rw [Session.unplug_eq]
    · exact k.unplug_of_free free

theorem Move.tracks (h : Move cause c d) (k : c.session.Tracks trace) :
    ∃ more, Conduct cause c more d ∧ d.session.Tracks (trace ++ more) := by
  have named {id : ConnectionId} (held : c.session.transport = some id) :
      id.key = c.session.key := by
    rw [k.own id held]
    rfl
  cases h with
  | alone world edit silent => exact tracks_of_silent edit silent world k
  | dial now state free _ answer =>
    exact ⟨_, .of_signal rfl (.dialled .nothing answer) rfl rfl rfl nofun,
      k.dialled free state now⟩
  | refuse state free _ answer =>
    exact ⟨_, .of_signal rfl (.dialled .nothing answer) rfl rfl rfl nofun, k.refused free⟩
  | @hangUp _ id held =>
    have key : c.session.unplug.key = c.session.key := by rw [Session.unplug_eq]
    have journal : c.session.unplug.journal = c.session.journal ++ [.hungUp id] := by
      rw [Session.unplug_eq, held]
      rfl
    exact ⟨_, .of_signal key (.hungUp .nothing id) journal rfl (named held) nofun, k.hungUp held⟩
  | hand held permitted _ answer =>
    exact ⟨_, .of_signal rfl (.sent .nothing answer) rfl rfl (named held) nofun,
      k.sent held permitted.isLive _ true ⟨rfl, rfl, rfl⟩⟩
  | flush held state _ _ answer =>
    exact ⟨_, .of_signal rfl (.sent .nothing answer) rfl rfl (named held) nofun,
      k.sent held (congrArg SessionState.isLive state) _ true ⟨rfl, rfl, rfl⟩⟩
  | announce _ _ live held _ _ _ answer =>
    exact ⟨_, .of_signal rfl (.sent .nothing answer) (List.append_assoc ..) rfl (named held) nofun,
      k.sent held live _ true ⟨rfl, rfl, rfl⟩⟩
  | announceInVain _ _ live held _ _ _ answer =>
    exact ⟨_, .of_signal rfl (.sent .nothing answer) rfl rfl (named held) nofun,
      k.sent held live _ false ⟨rfl, rfl, rfl⟩⟩
  | lose held offers answer =>
    exact ⟨_, .of_signal rfl (.sent .nothing answer) (List.append_nil _).symm rfl (named held) nofun,
      k.sent held offers.isLive _ false ⟨rfl, rfl, rfl⟩⟩

theorem Moves.tracks (h : Moves cause c d) (k : c.session.Tracks trace) :
    ∃ more, Conduct cause c more d ∧ d.session.Tracks (trace ++ more) := by
  induction h with
  | refl =>
    exact ⟨[], .of_silent rfl (.of_eq rfl) nofun .nothing, by rw [List.append_nil]; exact k⟩
  | tail _ move ih =>
    obtain ⟨more, conduct, tracks⟩ := ih
    obtain ⟨others, conductToo, tracksToo⟩ := move.tracks tracks
    exact ⟨more ++ others, conduct.trans conductToo, by rwa [← List.append_assoc]⟩

end Station

namespace Session

theorem calm_entering (s : Session) (call : Call) (answer : Except Error (Option String)) :
    Calm s (s.entering call answer) := by
  unfold entering
  split <;> exact ⟨rfl, rfl, rfl⟩

theorem state_entering (s : Session) (call : Call) (answer : Except Error (Option String)) :
    (s.entering call answer).state = s.state := by
  unfold entering
  split <;> rfl

end Session

theorem Moment.tracks {σ : Type} [Environment σ] (m : Moment σ) {trace : List Signal}
    (h : m.before.session.Tracks trace) :
    ∃ more, Station.Conduct m.call m.before more m.after ∧
      m.after.session.Tracks (trace ++ more) := by
  obtain ⟨d, moves, -, after⟩ := m.moves
  obtain ⟨more, conduct, tracks⟩ := moves.tracks h
  have calm := d.session.calm_entering m.call m.answer
  rw [after]
  refine ⟨more, ⟨calm.key.trans conduct.key, conduct.conducted, ?_, conduct.named,
    conduct.reported⟩, tracks.congr calm (d.session.state_entering _ _)⟩
  obtain ⟨acts, journal, told⟩ := conduct.told
  exact ⟨acts, (d.session.journal_entering _ _).trans journal, told⟩

end Switchboard
