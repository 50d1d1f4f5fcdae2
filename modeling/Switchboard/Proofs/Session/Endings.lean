import Switchboard.Proofs.Session.Retries
/-!
# How a session ends

A session that was started and not given up is usable or may become so, and the last error that it
remembers does not say otherwise (`Session.Ongoing`). A call leaves such a session ongoing or gives
it up, and then the error that the session remembers tells why: the credentials were rejected just
now, the budget was spent just now, or a caller tore the session down (`Moment.ongoingOrEnded`).

What a world answers to a dial is remembered like any failure. A world that words its refusals as
failed connections cannot make a session look rejected or spent (`PlainRefusals`).
-/

namespace Switchboard

/-- A world that refuses transports with failed connections only. -/
def PlainRefusals (σ : Type) [Environment σ] : Prop :=
  ∀ (world later : σ) (target : Target) (id : ConnectionId) (e : Error),
    Environment.dial world target id = (.error e, later) → ∃ reason, e = .connect reason

theorem plainRefusals_scriptedNetwork : PlainRefusals ScriptedNetwork := by
  intro world later target id e refused
  have answered : world.dial target id = (.error e, later) := refused
  unfold ScriptedNetwork.dial at answered
  dsimp only at answered
  split at answered
  · cases answered
    exact ⟨_, rfl⟩
  · cases answered

namespace Session

/-- The session has been started and was not given up, and its last error does not say otherwise. -/
structure Ongoing (s : Session) : Prop where
  started : s.state ≠ .idle
  kept : s.state ≠ .disconnected
  lastError : ∀ e, s.lastError = some e → e.isFinal = false

/-- The session was given up because its budget is spent. -/
structure Spent (s : Session) : Prop where
  state : s.state = .disconnected
  lastError : s.lastError = some (.reconnectExhausted s.policy.attempts.toNat)

variable {s t : Session}

theorem Ongoing.congr (h : Ongoing s) (state : t.state = s.state)
    (lastError : t.lastError = s.lastError) : Ongoing t :=
  ⟨state ▸ h.started, state ▸ h.kept, lastError ▸ h.lastError⟩

theorem Ongoing.of_live (live : s.state.isLive = true)
    (lastError : ∀ e, s.lastError = some e → e.isFinal = false) : Ongoing s := by
  refine ⟨?_, ?_, lastError⟩
  all_goals
    intro e
    rw [e] at live
    cases live

/-- What goes on as before gives no session up. -/
theorem Ongoing.of_goesOn (h : Ongoing s) (goes : GoesOn s t) : Ongoing t := by
  rcases goes.state with same | ⟨-, live⟩
  · exact h.congr same goes.lastError
  · exact .of_live live (goes.lastError ▸ h.lastError)

theorem Ongoing.not_resting (h : Ongoing s) : ¬ Resting s := by
  intro rest
  rcases rest.state with idle | gone | ⟨-, reason, rejected⟩
  · exact h.started idle
  · exact h.kept gone
  · cases h.lastError _ rejected

end Session

open Session (Ongoing Spent Resting InPhase)

/-! ## After a failure -/

theorem RetryPolicy.attempts_of_exhausted {policy : RetryPolicy} {attempts : UInt32}
    (h : policy.decision = .exhausted attempts) : attempts = policy.attempts := by
  unfold decision at h
  split at h
  · cases h
    rfl
  · cases h

/-- A failure that is none of the session's own leaves the session ongoing, or it
spends the budget. -/
theorem Session.ongoing_retryOrGiveUp {s : Session} {e : Error} (state : s.state = .error)
    (lastError : s.lastError = some e) (plain : e.isFinal = false) (now : Instant)
    (wall : UInt64) : Ongoing (s.retryOrGiveUp now wall) ∨ Spent (s.retryOrGiveUp now wall) := by
  cases decision : s.policy.count.decision with
  | retry attempt delay =>
    rw [retryOrGiveUp_of_retry decision]
    refine .inl ⟨?_, ?_, ?_⟩
    · exact state ▸ SessionState.noConfusion
    · exact state ▸ SessionState.noConfusion
    · intro other same
      cases lastError.symm.trans same
      exact plain
  | exhausted attempts =>
    rw [retryOrGiveUp_of_exhausted decision, failRequests_eq, discardQueue_eq,
      RetryPolicy.attempts_of_exhausted decision]
    exact .inr ⟨rfl, rfl⟩

namespace Station

variable {σ : Type} [Environment σ] {c : Station σ}

theorem ongoing_failAttempt (c : Station σ) {e : Error} (plain : e.isFinal = false)
    (now : Instant) :
    Ongoing (c.failAttempt e now).session ∨ Spent (c.failAttempt e now).session := by
  unfold failAttempt
  exact Session.ongoing_retryOrGiveUp rfl rfl plain now _

/-- An attempt forgets nothing and adds no more than a failed connection. -/
theorem ongoing_beginAttempt (plain : PlainRefusals σ) {state : SessionState}
    (attempts : state.isAttempting = true)
    (lastError : ∀ e, c.session.lastError = some e → e.isFinal = false) (now : Instant) :
    Ongoing (c.beginAttempt state now).session ∨ Spent (c.beginAttempt state now).session := by
  unfold beginAttempt
  dsimp only
  split
  · refine .inl ⟨?_, ?_, ?_⟩
    · rintro rfl
      cases attempts
    · rintro rfl
      cases attempts
    · dsimp only [modify, enter, stopConnection]
      rw [Session.unplug_eq]
      exact lastError
  · next e world refused =>
    obtain ⟨reason, rfl⟩ := plain _ _ _ _ _ refused
    exact ongoing_failAttempt _ rfl now

end Station

/-! ## Legs -/

variable {σ : Type} [Environment σ]

/-- What becomes of an ongoing session in a leg. -/
inductive Stride.OngoingOrEnded (s : Stride σ) : Prop
  | ongoing (h : Ongoing s.after.session)
  | rejected {reason : String} (rejects : Rejection s.before.session s.leg.cause reason)
      (rest : Resting s.after.session)
      (lastError : s.after.session.lastError = some (.auth reason))
  | spent (fails : s.fails = true) (h : Spent s.after.session)
  | tornDown (asked : s.leg = .whole .disconnect ∨ s.leg = .whole .close)
      (lastError : s.after.session.lastError = s.before.session.lastError)

/-- An attempt leaves the session ongoing, or its transport was refused and the budget is spent. -/
theorem Stride.ongoingOrEnded_of_attempt {s : Stride σ} {b : Station σ} {state : SessionState}
    {now : Instant} (plain : PlainRefusals σ) (asks : s.fails = s.acts.any Act.refuses)
    (after : s.after = b.beginAttempt state now)
    (journal : b.session.journal = s.before.session.journal)
    (attempts : state.isAttempting = true)
    (lastError : ∀ e, b.session.lastError = some e → e.isFinal = false) : s.OngoingOrEnded := by
  have becomes := Station.ongoing_beginAttempt plain attempts lastError now
  rw [← after] at becomes
  rcases becomes with ongoing | spent
  · exact .ongoing ongoing
  · refine .spent ?_ spent
    rcases b.beginAttempt_cases attempts now with
      ⟨-, -, -, entered, -⟩ | ⟨-, -, acts, -, grown, refused, -⟩
    · -- An attempt that is under way has spent nothing.
      rw [← after, spent.state] at entered
      rw [← entered] at attempts
      cases attempts
    · rw [← after, journal] at grown
      rw [asks, acts_eq grown]
      exact refused

/-- A leg leaves an ongoing session ongoing or gives it up for a reason, and so does the attempt of
a caller with any session. -/
theorem Stride.ongoingOrEnded (plain : PlainRefusals σ) {s : Stride σ} (single : s.leg.IsSingle)
    (h : Ongoing s.before.session ∨
      (∃ now, s.leg = .whole (.connect now)) ∧ s.before.session.state.canConnect = true) :
    s.OngoingOrEnded := by
  have started (continues : s.restarts = false) : Ongoing s.before.session := by
    refine h.resolve_right fun ⟨⟨now, asked⟩, able⟩ => ?_
    unfold restarts at continues
    rw [asked] at continues
    cases able.symm.trans continues
  cases s.classify single with
  | calm _ restarts goes => exact .ongoing ((started restarts).of_goesOn goes)
  | connects asked _ after journal _ none =>
    refine ongoingOrEnded_of_attempt plain (fails_of_connect asked) after journal rfl ?_
    rw [none]
    nofun
  | retries ticks after attempts journal _ _ same =>
    have ongoing := started (restarts_of_timer ticks)
    exact ongoingOrEnded_of_attempt plain (fails_of_retry ticks) after journal attempts
      (same ▸ ongoing.lastError)
  | @fails b e now _ fails _ after notFinal =>
    have becomes := b.ongoing_failAttempt notFinal now
    rw [← after] at becomes
    exact becomes.elim (fun ongoing => .ongoing ongoing) fun spent => .spent fails spent
  | opens _ _ _ state _ none =>
    refine .ongoing (.of_live (by rw [state]; rfl) ?_)
    rw [none]
    nofun
  | rejected rejection _ _ rest _ lastError => exact .rejected rejection rest lastError
  | tornDown asked _ _ _ lastError => exact .tornDown asked lastError

/-! ## Calls -/

/-- A session that was given up after as many failures in a row as its settings allow. -/
structure Session.Exhausted (s : Session) : Prop where
  state : s.state = .disconnected
  rest : Resting s
  attempts : s.policy.attempts.toNat = s.config.budget
  lastError : s.lastError = some (.reconnectExhausted s.config.budget)

/-- What becomes of an ongoing session in a call. -/
inductive Moment.OngoingOrEnded (m : Moment σ) : Prop
  | ongoing (h : Ongoing m.after.session)
  | rejected {reason : String} (rejects : Rejection m.before.session m.call reason)
      (rest : Resting m.after.session)
      (lastError : m.after.session.lastError = some (.auth reason))
  | exhausted (h : m.after.session.Exhausted)
  | tornDown (asked : m.call = .disconnect ∨ m.call = .close) (rest : Resting m.after.session)
      (lastError : ∀ e, m.after.session.lastError = some e → e.isFinal = false)

/-- What the count of failures and the phases say of a session, ongoing or not. -/
structure Session.Counted (s : Session) : Prop where
  phase : InPhase s
  within : ∃ number, s.Within number
  sorted : KeyMap.Sorted s.requests.pending

theorem InPhase.rest_of_disconnected {s : Session} (h : InPhase s)
    (state : s.state = .disconnected) : Resting s := by
  refine Station.resting_of_unable h ?_
  rw [state]
  nofun

/-- A session that a leg gives up has failed as often as its settings allow. -/
theorem Stride.exhausted {s : Stride σ} (single : s.leg.IsSingle)
    (counted : s.before.session.Counted) (phase : InPhase s.after.session)
    (fails : s.fails = true) (spent : Spent s.after.session) : s.after.session.Exhausted := by
  obtain ⟨number, within⟩ := counted.within
  have tallied := Stride.tallied single within counted.sorted
  have total : s.tally number = s.after.session.config.budget := by
    rw [s.sameIdentity.config]
    refine Nat.le_antisymm (tallied.bounded fails) (Nat.le_of_not_lt fun left => ?_)
    have waits := (tallied.retries fails left).state
    rw [spent.state] at waits
    cases waits
  have attempts := tallied.within.counted.trans total
  refine ⟨spent.state, InPhase.rest_of_disconnected phase spent.state, attempts, ?_⟩
  rw [spent.lastError, attempts]

namespace Station

variable {c : Station σ}

theorem inPhase_fire (h : InPhase c.session) (kind : TimerKind) (now : Instant) :
    InPhase (c.fire now kind).session := by
  cases kind with
  | connectTimeout => exact inPhase_pollConnect h now
  | heartbeat => exact inPhase_pollHeartbeat h now
  | retry => exact inPhase_pollRetry h now

theorem counted_fire (h : c.session.Counted) (kind : TimerKind) (now : Instant) :
    (c.fire now kind).session.Counted := by
  obtain ⟨number, within⟩ := h.within
  exact ⟨inPhase_fire h.phase kind now,
    ⟨_, (Stride.tallied (s := ⟨c, .timer kind now⟩) trivial within h.sorted).within⟩,
    Stride.sorted_after (s := ⟨c, .timer kind now⟩) h.sorted⟩

theorem fire_of_resting (rest : Resting c.session) (kind : TimerKind) (now : Instant) :
    c.fire now kind = c := by
  cases kind with
  | connectTimeout => exact pollConnect_early (by rw [rest.timers]; rfl)
  | heartbeat => exact pollHeartbeat_early (by rw [rest.timers]; rfl)
  | retry => exact pollRetry_early (by rw [rest.timers]; rfl)

/-- Timers find nothing to do about a session at rest. -/
theorem fires_of_resting (rest : Resting c.session) (kinds : List TimerKind) (now : Instant) :
    kinds.foldl (fun c kind => c.fire now kind) c = c := by
  induction kinds with
  | nil => rfl
  | cons kind kinds ih => rw [List.foldl_cons, fire_of_resting rest, ih]

/-- A timer leaves a session ongoing, or it gives the session up after the last failure. -/
theorem ongoing_or_exhausted_fire (plain : PlainRefusals σ) (counted : c.session.Counted)
    (h : Ongoing c.session) (kind : TimerKind) (now : Instant) :
    Ongoing (c.fire now kind).session ∨ (c.fire now kind).session.Exhausted := by
  have single : Leg.IsSingle (.timer kind now) := trivial
  have becomes : Stride.OngoingOrEnded ⟨c, .timer kind now⟩ :=
    Stride.ongoingOrEnded plain single (.inl h)
  cases becomes with
  | ongoing h => exact .inl h
  | rejected rejects =>
    obtain ⟨-, bytes, at', words, brings, -⟩ := rejects
    cases brings
  | spent fails spent =>
    exact .inr (Stride.exhausted (s := ⟨c, .timer kind now⟩) single counted
      (inPhase_fire counted.phase kind now) fails spent)
  | tornDown asked => exact asked.elim nofun nofun

/-- Timers that fire in a row: after the last failure the others find nothing to do. -/
theorem ongoing_or_exhausted_fires (plain : PlainRefusals σ) (counted : c.session.Counted)
    (h : Ongoing c.session) (kinds : List TimerKind) (now : Instant) :
    Ongoing (kinds.foldl (fun c kind => c.fire now kind) c).session ∨
      (kinds.foldl (fun c kind => c.fire now kind) c).session.Exhausted := by
  induction kinds generalizing c with
  | nil => exact .inl h
  | cons kind kinds ih =>
    rw [List.foldl_cons]
    rcases ongoing_or_exhausted_fire plain counted h kind now with ongoing | exhausted
    · exact ih (counted_fire counted kind now) ongoing
    · rw [fires_of_resting exhausted.rest]
      exact .inr exhausted

end Station

/-- A call leaves an ongoing session ongoing or gives it up for a reason, and so does the attempt of
a caller with any session. -/
theorem Moment.ongoingOrEnded (plain : PlainRefusals σ) {m : Moment σ}
    (counted : m.before.session.Counted)
    (h : Ongoing m.before.session ∨
      (∃ now, m.call = .connect now) ∧ m.before.session.state.canConnect = true) :
    m.OngoingOrEnded := by
  obtain ⟨c, call⟩ := m
  have whole (single : Leg.IsSingle (.whole call)) : Moment.OngoingOrEnded ⟨c, call⟩ := by
    have phase : InPhase (c.perform call).2.session := Station.inPhase_perform counted.phase call
    have becomes : Stride.OngoingOrEnded ⟨c, .whole call⟩ :=
      Stride.ongoingOrEnded plain single
        (h.imp_right (And.imp_left fun ⟨now, asked⟩ => ⟨now, asked ▸ rfl⟩))
    cases becomes with
    | ongoing h => exact .ongoing h
    | rejected rejects rest lastError => exact .rejected rejects rest lastError
    | spent fails spent =>
      exact .exhausted (Stride.exhausted (s := ⟨c, .whole call⟩) single counted phase fails spent)
    | tornDown asked lastError =>
      have ends : call = .disconnect ∨ call = .close :=
        asked.imp (fun same => Leg.whole.inj same) fun same => Leg.whole.inj same
      have ongoing : Ongoing c.session := h.resolve_right fun ⟨⟨now, other⟩, _⟩ => by
        rcases ends with same | same <;> cases same.symm.trans other
      refine .tornDown ends ?_ fun e remembers => ongoing.lastError e (lastError ▸ remembers)
      rcases ends with rfl | rfl
      · exact Station.resting_disconnected counted.phase
      · exact Station.resting_close counted.phase
  cases call with
  | pollTimers now =>
    have fires := Station.ongoing_or_exhausted_fires plain counted (h.resolve_right nofun)
      [.connectTimeout, .heartbeat, .retry] now
    exact fires.elim (fun h => .ongoing h) fun h => .exhausted h
  | _ => exact whole trivial

/-- A session at rest stays at rest unless a caller starts it. -/
theorem Moment.resting {m : Moment σ} (rest : Resting m.before.session)
    (unasked : ∀ now, m.call ≠ .connect now) : Resting m.after.session := by
  obtain ⟨c, call⟩ := m
  have whole (single : Leg.IsSingle (.whole call)) : Resting (c.perform call).2.session :=
    (Stride.resting (s := ⟨c, .whole call⟩) single rest fun now same =>
      unasked now (Leg.whole.inj same)).1
  cases call with
  | pollTimers now =>
    have still := Station.fires_of_resting rest [.connectTimeout, .heartbeat, .retry] now
    have after : (Moment.mk c (.pollTimers now)).after = c := still
    rw [after]
    exact rest
  | _ => exact whole trivial

theorem Session.Resting.canConnect {s : Session} (h : Resting s) :
    s.state.canConnect = true := by
  rcases h.state with e | e | ⟨e, -⟩ <;> rw [e] <;> rfl

theorem Session.Resting.drained {s : Session} (h : Resting s) : Resting s.drained :=
  ⟨h.state, h.transport, h.timers, h.heartbeat, h.queue, h.requests⟩

theorem Session.Ongoing.drained {s : Session} (h : Ongoing s) : Ongoing s.drained :=
  h.congr rfl rfl

theorem Session.Exhausted.drained {s : Session} (h : s.Exhausted) : s.drained.Exhausted :=
  ⟨h.state, h.rest.drained, h.attempts, h.lastError⟩

namespace Run

variable {key : String} {target : Target} {config : SessionConfig} {generation serial : Nat}
  {mark : String}
  {ms : List (Moment σ)} {c : Station σ}

theorem counted (h : Run (.create key target config generation serial mark) ms c) :
    c.session.Counted := by
  obtain ⟨-, sorted, within⟩ := h.march.within
  exact ⟨h.inPhase, ⟨_, within⟩, sorted⟩

/-- Between two calls a session is ongoing or at rest. -/
theorem ongoing_or_resting (plain : PlainRefusals σ)
    (h : Run (.create key target config generation serial mark) ms c) :
    Ongoing c.session ∨ Resting c.session := by
  induction h with
  | begin world => exact .inr ⟨.inl rfl, rfl, rfl, ⟨rfl, rfl⟩, rfl, rfl⟩
  | @call ms c run call ih =>
    have started (h : Ongoing c.session ∨ (∃ now, call = .connect now) ∧
        c.session.state.canConnect = true) :
        Ongoing (c.perform call).2.session ∨ Resting (c.perform call).2.session := by
      cases Moment.ongoingOrEnded plain (m := ⟨c, call⟩) run.counted h with
      | ongoing h => exact .inl h
      | rejected _ rest => exact .inr rest
      | exhausted h => exact .inr h.rest
      | tornDown _ rest => exact .inr rest
    rcases ih with ongoing | rest
    · exact started (.inl ongoing)
    · by_cases asked : ∃ now, call = .connect now
      · exact started (.inr ⟨asked, rest.canConnect⟩)
      · exact .inr (Moment.resting (m := ⟨c, call⟩) rest fun now same => asked ⟨now, same⟩)
  | drain _ ih =>
    rcases ih with ongoing | rest
    · exact .inl ongoing.drained
    · exact .inr rest.drained
  | world _ _ ih => exact ih

end Run

end Switchboard
