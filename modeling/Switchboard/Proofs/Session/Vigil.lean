import Switchboard.Proofs.Session.Courses
import Switchboard.Proofs.Session.Milestones
/-!
# Watching the peer

While a connection is open a PING goes out at each tick, and the tick after it finds it answered or
gives the connection up. A PONG answers a PING when it has its id and comes after it over the same
connection; the PING that is `Unanswered` is the one that the session has under way, and its next
tick comes an interval after it (`March.watches`).

A connection that was left is never found open again (`March.passed`).
-/

namespace Switchboard

open Session (InPhase Attempting Stays Steady Leaves Away)

section Vigil

variable {σ : Type} [Environment σ]

namespace Stride

/-- The connection that a leg finds, or would find if there were one. -/
def connection (s : Stride σ) : ConnectionId := s.before.session.connectionId

/-- The leg finds an open connection and gives it up because the peer stays silent. -/
def timesOut (s : Stride σ) : Bool :=
  s.before.session.state.isLive && s.acts.any Act.isSilence

/-- The leg finds an open connection and leaves it. -/
def Ends (s : Stride σ) : Prop :=
  s.before.session.state.isLive = true ∧ s.after.session.state.isLive = false

variable {s : Stride σ}

/-- Sessions that part from a connection, or stay without one, report a silent peer only as the
fault. -/
theorem silence_of_parting {fault : Option Error}
    (adds : Session.Adds (Act.PartsBy fault) s.before.session s.after.session)
    (silence : s.acts.any Act.isSilence = true) : fault = some .heartbeatTimeout := by
  obtain ⟨act, mem, silent⟩ := List.any_eq_true.mp silence
  exact Act.fault_of_silence (adds.mem s.journal act mem) silent

theorem silence_of_keeping {held : Option ConnectionId}
    (adds : Session.Adds (Act.KeepsTo held) s.before.session s.after.session) :
    s.acts.any Act.isSilence = false := by
  apply List.any_eq_false.mpr
  intro act mem silent
  have keeps := adds.mem s.journal act mem
  cases act with
  | entered event =>
    have error : event.error = some .heartbeatTimeout := of_decide_eq_true silent
    rw [show event.error = none from keeps] at error
    cases error
  | _ => cases silent

/-- A silent peer is told of by a tick that is due and finds a PING under way, and without a
connection only where the world refuses a dial in these words. -/
theorem of_silence (single : s.leg.IsSingle) (h : InPhase s.before.session)
    (silence : s.acts.any Act.isSilence = true) :
    (s.before.session.state.isLive = true ∧ ∃ stale now, s.leg = .timer .heartbeat now ∧
      s.before.session.timers.heartbeat.isDue now = true ∧
      s.before.session.heartbeat.probe = some stale ∧ s.acts.countP Act.isSilence = 1 ∧
      Leaves (some .heartbeatTimeout) s.before.session s.after.session) ∨
    s.before.session.state.isLive = false ∧ s.acts.any Act.refuses = true := by
  have kept {P : Prop} {held : Option ConnectionId}
      (adds : Session.Adds (Act.KeepsTo held) s.before.session s.after.session) : P := by
    rw [silence_of_keeping adds] at silence
    cases silence
  cases course single h with
  | steady _ h => exact kept h.adds
  | answered _ _ h => exact kept h.adds
  | pings _ h => exact kept h.adds
  | opens _ _ h => exact kept h.adds
  | silent ticks due found under told h => exact .inl ⟨found, _, _, ticks, due, under, told, h⟩
  | leaves _ other _ h => exact absurd (silence_of_parting h.adds silence) other
  | away found refused h => exact .inr ⟨found, refused (silence_of_parting h.adds silence)⟩

/-- A silent peer is reported where a connection is given up for it, and where the world refuses a
dial in these words. -/
theorem raised (single : s.leg.IsSingle) (h : InPhase s.before.session)
    (silence : s.acts.any Act.isSilence = true) :
    s.timesOut = true ∨ s.acts.any Act.refuses = true := by
  rcases of_silence single h silence with ⟨live, -⟩ | ⟨-, refused⟩
  · exact .inl ((Bool.and_eq_true _ _).mpr ⟨live, silence⟩)
  · exact .inr refused

/-- A connection is given up for a silent peer by a tick that is due and finds a PING under way. -/
theorem of_timesOut (single : s.leg.IsSingle) (h : InPhase s.before.session)
    (out : s.timesOut = true) :
    s.before.session.state.isLive = true ∧ ∃ stale now, s.leg = .timer .heartbeat now ∧
      s.before.session.timers.heartbeat.isDue now = true ∧
      s.before.session.heartbeat.probe = some stale ∧ s.acts.countP Act.isSilence = 1 ∧
      Leaves (some .heartbeatTimeout) s.before.session s.after.session := by
  obtain ⟨live, silence⟩ := (Bool.and_eq_true _ _).mp out
  refine (of_silence single h silence).resolve_right ?_
  rintro ⟨dead, -⟩
  rw [live] at dead
  cases dead

/-- A PONG answers the PING under way, or it does nothing to the watch. -/
theorem answers_or_keeps (single : s.leg.IsSingle) (h : InPhase s.before.session) {id : String}
    {now : Instant} (pongs : s.Pongs id now) :
    (∃ probe, s.before.session.heartbeat.probe = some probe ∧ probe.requestId = id ∧
      Stays s.before.session s.after.session ∧
      s.after.session.watch = ({ s.before.session.heartbeat with probe := none },
        s.before.session.timers.heartbeat)) ∨
    (∀ probe, s.before.session.heartbeat.probe = some probe → probe.requestId ≠ id) ∧
      s.after.session.watch = s.before.session.watch := by
  have unfound {P : Prop} {leg : Leg} (same : s.leg = leg) (quiet : leg.isFrame = false) : P := by
    rw [← same] at quiet
    exact absurd pongs (not_pongs quiet id now)
  cases course single h with
  | steady _ h other =>
    refine .inr ⟨?_, h.watch⟩
    rintro probe under rfl
    exact other probe now under pongs
  | @answered probe _ under pongsToo h watch =>
    refine .inl ⟨probe, under, ?_, h, watch⟩
    obtain ⟨-, bytes, frame, brought, decodes, -, named⟩ := pongs
    obtain ⟨-, bytesToo, frameToo, broughtToo, decodesToo, -, namedToo⟩ := pongsToo
    rw [brought] at broughtToo
    cases broughtToo
    rw [decodes] at decodesToo
    cases decodesToo
    rw [named] at namedToo
    exact (Option.some.inj namedToo).symm
  | pings pings => exact unfound pings.ticks rfl
  | silent ticks => exact unfound ticks rfl
  | leaves _ _ unanswered => exact absurd pongs (unanswered id now)
  | away dead =>
    rw [pongs.live] at dead
    cases dead
  | opens _ opened => exact unfound opened rfl

/-- A leg that finds an open connection goes on with it or leaves it. -/
theorem stays_or_leaves (single : s.leg.IsSingle) (h : InPhase s.before.session)
    (live : s.before.session.state.isLive = true) :
    Stays s.before.session s.after.session ∨
      ∃ fault, Leaves fault s.before.session s.after.session := by
  rcases stays_leaves_or_away single h with stays | ⟨-, leaves⟩ | ⟨dead, -⟩
  · exact .inl stays
  · exact .inr leaves
  · rw [live] at dead
    cases dead

theorem interval (single : s.leg.IsSingle) (h : InPhase s.before.session) :
    s.after.session.heartbeat.interval = s.before.session.heartbeat.interval := by
  rcases stays_leaves_or_away single h with stays | ⟨-, fault, leaves⟩ | ⟨-, fault, away⟩
  · exact stays.interval
  · exact leaves.interval
  · exact away.interval

theorem inPhase (s : Stride σ) (h : InPhase s.before.session) : InPhase s.after.session := by
  obtain ⟨c, leg⟩ := s
  cases leg with
  | whole call => exact Station.inPhase_perform h call
  | timer kind now => exact Station.inPhase_fire h kind now

theorem generation_le (s : Stride σ) :
    s.before.session.generation ≤ s.after.session.generation := by
  obtain ⟨t, answer, edits, -, after⟩ := s.edits
  rw [after, t.generation_entering]
  exact edits.generation_le

theorem ends_of_timesOut (single : s.leg.IsSingle) (h : InPhase s.before.session)
    (out : s.timesOut = true) : s.Ends := by
  obtain ⟨live, -, -, -, -, -, -, leaves⟩ := of_timesOut single h out
  exact ⟨live, leaves.dead⟩

end Stride

/-! ### Unanswered PINGs -/

/-- A PONG with the id comes over the connection at the instant. -/
def AnsweredAt (strides : List (Stride σ)) (id : ConnectionId) (request : String)
    (now : Instant) : Prop :=
  ∃ s ∈ strides, s.connection = id ∧ s.Pongs request now

/-- A PONG with the id comes over the connection. -/
def Answered (strides : List (Stride σ)) (id : ConnectionId) (request : String) : Prop :=
  ∃ now, AnsweredAt strides id request now

/-- A PING was sent over the connection, and no PONG with its id has come since. -/
def Unanswered (strides : List (Stride σ)) (id : ConnectionId) (probe : Probe) : Prop :=
  ∃ early s late, strides = early ++ s :: late ∧ s.connection = id ∧ s.Pings probe ∧
    ¬ Answered late id probe.requestId

section Answers

variable {strides early late : List (Stride σ)} {s : Stride σ} {id : ConnectionId} {probe : Probe}
  {request : String}

omit [Environment σ] in
theorem answered_concat : Answered (strides ++ [s]) id request ↔
    Answered strides id request ∨ s.connection = id ∧ ∃ now, s.Pongs request now := by
  constructor
  · rintro ⟨now, other, mem, own, pongs⟩
    rcases List.mem_append.mp mem with mem | mem
    · exact .inl ⟨now, other, mem, own, pongs⟩
    · rw [List.mem_singleton.mp mem] at own pongs
      exact .inr ⟨own, now, pongs⟩
  · rintro (⟨now, other, mem, told⟩ | ⟨own, now, pongs⟩)
    · exact ⟨now, other, List.mem_append_left _ mem, told⟩
    · exact ⟨now, s, List.mem_append_right _ (List.mem_singleton_self _), own, pongs⟩

/-- A leg more: it sends a PING, or it leaves those that it does not answer. -/
theorem unanswered_concat : Unanswered (strides ++ [s]) id probe ↔
    s.connection = id ∧ s.Pings probe ∨
      Unanswered strides id probe ∧
        ¬ (s.connection = id ∧ ∃ now, s.Pongs probe.requestId now) := by
  constructor
  · rintro ⟨early, other, late, split, own, pings, silent⟩
    rcases split_of_concat split with ⟨rfl, rfl, -⟩ | ⟨rest, rfl, cut⟩
    · exact .inl ⟨own, pings⟩
    · rw [answered_concat, not_or] at silent
      exact .inr ⟨⟨early, other, rest, cut, own, pings, silent.1⟩, silent.2⟩
  · rintro (⟨own, pings⟩ | ⟨⟨early, other, late, split, own, pings, silent⟩, quiet⟩)
    · refine ⟨strides, s, [], rfl, own, pings, ?_⟩
      rintro ⟨now, other, mem, -⟩
      cases mem
    · refine ⟨early, other, late ++ [s], ?_, own, pings, ?_⟩
      · rw [split, List.append_assoc]
        rfl
      · rw [answered_concat, not_or]
        exact ⟨silent, quiet⟩

end Answers

/-- What an open session knows of its peer: the PING that waits for an answer over the connection is
the one under way, and the tick after it comes an interval later. -/
def Watches (interval : Duration) (strides : List (Stride σ)) (s : Session) : Prop :=
  s.state.isLive = true → ∀ probe,
    (Unanswered strides s.connectionId probe ↔ s.heartbeat.probe = some probe) ∧
      (s.heartbeat.probe = some probe →
        s.timers.heartbeat.deadline = some (probe.sentAt + interval))

namespace Stride

variable {strides : List (Stride σ)} {s : Stride σ} {interval : Duration}

theorem watches_of_steady (h : Watches interval strides s.before.session)
    (found : s.before.session.state.isLive = true)
    (steady : Steady s.before.session s.after.session)
    (other : ∀ probe now, s.before.session.heartbeat.probe = some probe →
      ¬ s.Pongs probe.requestId now) : Watches interval (strides ++ [s]) s.after.session := by
  have heartbeat : s.after.session.heartbeat = s.before.session.heartbeat :=
    congrArg Prod.fst steady.watch
  have tick : s.after.session.timers.heartbeat = s.before.session.timers.heartbeat :=
    congrArg Prod.snd steady.watch
  intro _ probe
  obtain ⟨waits, due⟩ := h found probe
  rw [heartbeat, tick, steady.connectionId, unanswered_concat]
  refine ⟨⟨?_, ?_⟩, due⟩
  · rintro (⟨-, pings⟩ | ⟨unanswered, -⟩)
    · rw [← heartbeat]
      exact pings.issued
    · exact waits.mp unanswered
  · intro under
    exact .inr ⟨waits.mpr under, fun ⟨_, now, pongs⟩ => other probe now under pongs⟩

theorem watches_of_answer (h : Watches interval strides s.before.session) {answered : Probe}
    {now : Instant} (under : s.before.session.heartbeat.probe = some answered)
    (pongs : s.Pongs answered.requestId now) (stays : Stays s.before.session s.after.session)
    (watch : s.after.session.watch = ({ s.before.session.heartbeat with probe := none },
      s.before.session.timers.heartbeat)) : Watches interval (strides ++ [s]) s.after.session := by
  have heartbeat : s.after.session.heartbeat = { s.before.session.heartbeat with probe := none } :=
    congrArg Prod.fst watch
  intro _ probe
  rw [heartbeat, stays.connectionId, unanswered_concat]
  refine ⟨⟨?_, nofun⟩, nofun⟩
  rintro (⟨-, pings⟩ | ⟨unanswered, silent⟩)
  · rw [pings.idle] at under
    cases under
  · rw [(h pongs.live probe).1.mp unanswered] at under
    cases under
    exact absurd ⟨rfl, now, pongs⟩ silent

theorem watches_of_ping (h : Watches interval strides s.before.session) {asked : Probe}
    (same : s.before.session.heartbeat.interval = interval) (pings : s.Pings asked)
    (stays : Stays s.before.session s.after.session)
    (watch : s.after.session.watch = ({ s.before.session.heartbeat with probe := some asked },
      some ⟨.heartbeat, asked.sentAt + s.before.session.heartbeat.interval,
        s.before.session.generation⟩)) : Watches interval (strides ++ [s]) s.after.session := by
  have tick : s.after.session.timers.heartbeat = some ⟨.heartbeat, asked.sentAt + interval,
      s.before.session.generation⟩ := by
    rw [← same]
    exact congrArg Prod.snd watch
  intro _ probe
  rw [pings.issued, tick, stays.connectionId, unanswered_concat]
  refine ⟨⟨?_, ?_⟩, ?_⟩
  · rintro (⟨-, pings'⟩ | ⟨unanswered, -⟩)
    · rw [← pings.issued]
      exact pings'.issued
    · have under := (h pings.live probe).1.mp unanswered
      rw [pings.idle] at under
      cases under
  · intro same
    cases same
    exact .inl ⟨rfl, pings⟩
  · intro same
    cases same
    rfl

/-- A connection that has just opened waits for no answer: no PING was sent over it. -/
theorem watches_of_opening {now : Instant} (found : Attempting s.before.session)
    (unused : ∀ other ∈ strides, other.before.session.state.isLive = true →
      other.connection ≠ s.connection) (stays : Stays s.before.session s.after.session)
    (watch : s.after.session.watch =
      ({ s.before.session.heartbeat with probe := none, running := true },
        some ⟨.heartbeat, now + s.before.session.heartbeat.interval,
          s.before.session.generation⟩)) : Watches interval (strides ++ [s]) s.after.session := by
  have heartbeat : s.after.session.heartbeat =
      { s.before.session.heartbeat with probe := none, running := true } :=
    congrArg Prod.fst watch
  intro _ probe
  rw [heartbeat, stays.connectionId, unanswered_concat]
  refine ⟨⟨?_, nofun⟩, nofun⟩
  rintro (⟨-, pings⟩ | ⟨⟨early, other, late, rfl, same, pings, -⟩, -⟩)
  · have live := pings.live
    rw [found.isLive_eq] at live
    cases live
  · exact absurd same (unused other (by simp) pings.live)

/-- A leg keeps what the session knows of its peer. -/
theorem watches (single : s.leg.IsSingle) (phase : InPhase s.before.session)
    (h : Watches interval strides s.before.session)
    (same : s.before.session.heartbeat.interval = interval)
    (unused : s.before.session.state.isLive = false → ∀ other ∈ strides,
      other.before.session.state.isLive = true → other.connection ≠ s.connection) :
    Watches interval (strides ++ [s]) s.after.session := by
  have of_dead (dead : s.after.session.state.isLive = false) :
      Watches interval (strides ++ [s]) s.after.session := by
    intro live
    rw [dead] at live
    cases live
  cases course single phase with
  | steady found steady other => exact watches_of_steady h found steady other
  | answered under pongs stays watch => exact watches_of_answer h under pongs stays watch
  | pings pings stays watch => exact watches_of_ping h same pings stays watch
  | silent _ _ _ _ _ leaves => exact of_dead leaves.dead
  | leaves _ _ _ leaves => exact of_dead leaves.dead
  | away _ _ away => exact of_dead away.dead
  | opens found _ stays watch =>
    exact watches_of_opening found (unused found.isLive_eq) stays watch

end Stride

/-! ### Runs -/

namespace March

variable {key : String} {target : Target} {config : SessionConfig} {generation serial : Nat}
  {mark : String}
  {strides early late : List (Stride σ)} {s : Stride σ} {c : Station σ}

theorem inPhase_of_start {start : Session} (h : March start strides c) (phase : InPhase start) :
    InPhase c.session := by
  induction h with
  | begin world => exact phase
  | @go strides c _ leg _ ih => exact Stride.inPhase ⟨c, leg⟩ ih
  | drain _ ih => exact ih.drained
  | world _ _ ih => exact ih

theorem inPhase (h : March (.create key target config generation serial mark) strides c) :
    InPhase c.session :=
  h.inPhase_of_start (Session.inPhase_create key target config generation serial mark)

theorem interval (h : March (.create key target config generation serial mark) strides c) :
    c.session.heartbeat.interval = config.heartbeatInterval := by
  induction h with
  | begin world => rfl
  | @go strides c h leg single ih =>
    exact (Stride.interval (s := ⟨c, leg⟩) single h.inPhase).trans ih
  | drain _ ih => exact ih
  | world _ _ ih => exact ih

/-- A connection that was found open is open still, or its generation has passed. -/
theorem passed (h : March (.create key target config generation serial mark) strides c)
    (mem : s ∈ strides) (found : s.before.session.state.isLive = true) :
    s.connection.generation < c.session.generation ∨
      c.session.state.isLive = true ∧ s.connection = c.session.connectionId ∧ ¬ s.Ends := by
  induction h with
  | begin world => cases mem
  | @go strides c h leg single ih =>
    rcases List.mem_append.mp mem with mem | mem
    · rcases ih mem with past | ⟨live, same, still⟩
      · exact .inl (Nat.lt_of_lt_of_le past (Stride.generation_le ⟨c, leg⟩))
      · rcases Stride.stays_or_leaves (s := ⟨c, leg⟩) single h.inPhase live with
          stays | ⟨fault, leaves⟩
        · exact .inr ⟨stays.live, same.trans stays.connectionId.symm, still⟩
        · left
          rw [same]
          exact leaves.later
    · rw [List.mem_singleton.mp mem] at found ⊢
      rcases Stride.stays_or_leaves (s := ⟨c, leg⟩) single h.inPhase found with
        stays | ⟨fault, leaves⟩
      · refine .inr ⟨stays.live, stays.connectionId.symm, ?_⟩
        rintro ⟨-, dead⟩
        exact Bool.false_ne_true (dead.symm.trans stays.live)
      · exact .inl leaves.later
  | drain _ ih => exact ih mem
  | world _ _ ih => exact ih mem

theorem watches (h : March (.create key target config generation serial mark) strides c) :
    Watches config.heartbeatInterval strides c.session := by
  induction h with
  | begin world => exact nofun
  | @go strides c h leg single ih =>
    refine Stride.watches (s := ⟨c, leg⟩) single h.inPhase ih h.interval ?_
    intro dead other mem found same
    rcases h.passed mem found with past | ⟨live, -⟩
    · rw [same] at past
      exact Nat.lt_irrefl _ past
    · rw [dead] at live
      cases live
  | drain _ ih => exact ih
  | world _ _ ih => exact ih

end March

end Vigil

end Switchboard
