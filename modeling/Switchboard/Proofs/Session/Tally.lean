import Switchboard.Proofs.Session.Classification
/-!
# Failures in a row

Failures in a row are counted from the last connection, or from the last time that a caller started
or ended the session (`failures`). The policy of a session counts along (`Session.Within`).

That is kept by every stride (`Stride.tallied`), which also says what a failure leads to: to a retry
after the delay that belongs to its number, or, once the budget is spent, to the end of the session.
-/

namespace Switchboard

/-- How many failures in a row a session may have. The last one ends it, and without retries the
first one is the last. -/
def SessionConfig.budget (config : SessionConfig) : Nat := max 1 config.reconnect.maxAttempts.toNat

theorem SessionConfig.budget_pos (config : SessionConfig) : 0 < config.budget :=
  Nat.le_max_left _ _

namespace RetryPolicy

variable {policy : RetryPolicy} {config : SessionConfig}

theorem toNat_count (left : policy.attempts.toNat < config.budget) :
    policy.count.attempts.toNat = policy.attempts.toNat + 1 := by
  have word := config.reconnect.maxAttempts.toNat_lt
  unfold SessionConfig.budget at left
  have room : policy.attempts ≠ maxWord := by
    intro full
    rw [full, show maxWord.toNat = 4294967295 from rfl] at left
    omega
  unfold count
  rw [if_neg room]
  dsimp only
  rw [UInt32.toNat_add, show (1 : UInt32).toNat = 1 from rfl]
  omega

/-- Within the budget a failure is followed by a retry. -/
theorem decision_of_lt (of : policy.config = config.reconnect)
    (left : policy.attempts.toNat + 1 < config.budget) :
    policy.count.decision =
      .retry policy.count.attempts (policy.delayFor policy.count.attempts) := by
  have counted := toNat_count (Nat.lt_of_succ_lt left)
  unfold SessionConfig.budget at left
  unfold decision
  rw [if_neg]
  · rfl
  · rw [UInt32.le_iff_toNat_le, counted, show policy.count.config = config.reconnect from of]
    omega

/-- The last failure of the budget is followed by none. -/
theorem decision_of_eq (of : policy.config = config.reconnect)
    (spent : policy.attempts.toNat + 1 = config.budget) :
    policy.count.decision = .exhausted policy.count.attempts := by
  have counted := toNat_count (Nat.lt_of_succ_le (Nat.le_of_eq spent))
  unfold SessionConfig.budget at spent
  unfold decision
  rw [if_pos]
  rw [UInt32.le_iff_toNat_le, counted, show policy.count.config = config.reconnect from of]
  omega

/-- The delay of an attempt does not depend on what was counted. -/
theorem delayFor_eq (of : policy.config = config.reconnect) (attempt : UInt32) :
    policy.delayFor attempt = (ofConfig config.reconnect).delayFor attempt := by
  rw [← of]
  rfl

end RetryPolicy

section Failures

variable {σ : Type} [Environment σ]

namespace Stride

/-- The failures in a row that a stride starts from. -/
def base (s : Stride σ) (failures : Nat) : Nat := if s.restarts then 0 else failures

/-- The failures in a row after a stride. A caller's attempt may start and fail at once. -/
def tally (s : Stride σ) (failures : Nat) : Nat := s.base failures + if s.fails then 1 else 0

/-- A failure that leaves something of the budget: the session waits for the retry, and for nothing
else. -/
structure Retries (s : Stride σ) (number : Nat) : Prop where
  state : s.after.session.state = .error
  attempts : s.after.session.policy.attempts.toNat = number
  armed : ∃ now, s.leg.now? = some now ∧ s.after.session.timers =
    { retry := some ⟨.retry, now + (RetryPolicy.ofConfig
        s.before.session.config.reconnect).delayFor (.ofNat number), s.after.session.generation⟩ }

/-- A failure that spends the budget: the session holds nothing back any more. -/
structure Exhausts (s : Stride σ) (number : Nat) : Prop where
  state : s.after.session.state = .disconnected
  lastError : s.after.session.lastError = some (.reconnectExhausted number)
  timers : s.after.session.timers = .idle
  queue : s.after.session.queue = []
  pending : s.after.session.requests.pending = []
  failed : ∀ id ∈ s.before.session.requests.ids,
    ∃ error, .settled ⟨id, .error error⟩ ∈ s.acts

end Stride

/-- The failures in a row at the end of strides. -/
def failures (strides : List (Stride σ)) : Nat :=
  strides.foldl (fun number stride => stride.tally number) 0

theorem failures_concat (strides : List (Stride σ)) (stride : Stride σ) :
    failures (strides ++ [stride]) = stride.tally (failures strides) :=
  List.foldl_concat ..

/-! ## What a failure leads to -/

namespace Session

/-- The policy of a session counts the failures in a row, and there are fewer than the budget while
a connection is hoped for. -/
structure Within (s : Session) (failures : Nat) : Prop where
  settings : s.policy.config = s.config.reconnect
  counted : s.policy.attempts.toNat = failures
  live : s.state.isLive = true → failures = 0
  left : s.state.isAttempting = true ∨ s.timers.retry.isArmed = true → failures < s.config.budget

namespace Within

variable {s t : Session} {number : Nat}

theorem congr (h : s.Within number) (policy : t.policy = s.policy) (config : t.config = s.config)
    (live : t.state.isLive = true → s.state.isLive = true)
    (left : t.state.isAttempting = true ∨ t.timers.retry.isArmed = true →
      s.state.isAttempting = true ∨ s.timers.retry.isArmed = true) : t.Within number := by
  refine ⟨?_, ?_, fun becomes => h.live (live becomes), fun hopes => ?_⟩
  · rw [policy, config]
    exact h.settings
  · rw [policy]
    exact h.counted
  · rw [config]
    exact h.left (left hopes)

/-- What goes on as before counts nothing. -/
theorem of_goesOn (h : s.Within number) (goes : GoesOn s t) (config : t.config = s.config) :
    t.Within number := by
  refine h.congr goes.policy config ?_ ?_
  · intro live
    exact goes.state.elim (fun same => same ▸ live) And.left
  · rintro (attempts | armed)
    · rcases goes.state with same | ⟨-, live⟩
      · exact .inl (same ▸ attempts)
      · rw [SessionState.isAttempting_eq_false _ live] at attempts
        cases attempts
    · exact .inr (goes.armed armed)

/-- After a reset there is a whole budget. -/
theorem of_reset (h : s.Within number) (policy : t.policy = s.policy.reset)
    (config : t.config = s.config) : t.Within 0 := by
  refine ⟨?_, ?_, fun _ => rfl, fun _ => t.config.budget_pos⟩
  · rw [policy, config]
    exact h.settings
  · rw [policy]
    rfl

end Within

theorem retryOrGiveUp_of_retry {s : Session} {attempt : UInt32} {delay : Duration}
    (h : s.policy.count.decision = .retry attempt delay) (now : Instant) (wall : UInt64) :
    s.retryOrGiveUp now wall = { s with policy := s.policy.count }.scheduleRetry (now + delay) := by
  unfold retryOrGiveUp
  dsimp only
  rw [h]

theorem retryOrGiveUp_of_exhausted {s : Session} {attempts : UInt32}
    (h : s.policy.count.decision = .exhausted attempts) (now : Instant) (wall : UInt64) :
    s.retryOrGiveUp now wall =
      { s with policy := s.policy.count }.cancelTimers.discardQueue.failRequests.enter .disconnected
        (some (.reconnectExhausted attempts.toNat)) wall := by
  unfold retryOrGiveUp
  dsimp only
  rw [h]

end Session

open Session (Within InPhase Resting)

namespace Station

/-- A failure lets the transport go and leaves it to the policy what follows. -/
theorem failAttempt_session (c : Station σ) (error : Error) (now : Instant) :
    ∃ (s : Session) (wall : UInt64), (c.failAttempt error now).session = s.retryOrGiveUp now wall ∧
      s.policy = c.session.policy ∧ s.config = c.session.config ∧ s.state = .error ∧
      s.timers = { retry := c.session.timers.retry } := by
  unfold failAttempt
  refine ⟨_, _, rfl, ?_⟩
  dsimp only [modify, enter, stopConnection]
  rw [Session.unplug_eq]
  split
  · rw [Session.failRequests_eq]
    exact ⟨rfl, rfl, rfl, rfl⟩
  · exact ⟨rfl, rfl, rfl, rfl⟩

/-- Within the budget a failure schedules the next retry. -/
theorem failAttempt_of_lt {c : Station σ} {config : SessionConfig}
    (settings : c.session.policy.config = config.reconnect)
    (left : c.session.policy.attempts.toNat + 1 < config.budget) (error : Error) (now : Instant) :
    (c.failAttempt error now).session.state = .error ∧
      (c.failAttempt error now).session.policy = c.session.policy.count ∧
      (c.failAttempt error now).session.timers =
        { retry := some ⟨.retry, now + (RetryPolicy.ofConfig config.reconnect).delayFor
            (.ofNat (c.session.policy.attempts.toNat + 1)),
          (c.failAttempt error now).session.generation⟩ } := by
  obtain ⟨s, wall, session, policy, -, state, timers⟩ := c.failAttempt_session error now
  have decision := RetryPolicy.decision_of_lt settings left
  have number : UInt32.ofNat (c.session.policy.attempts.toNat + 1) =
      c.session.policy.count.attempts := by
    rw [← RetryPolicy.toNat_count (Nat.lt_of_succ_lt left), UInt32.ofNat_toNat]
  rw [← policy] at decision
  rw [session, Session.retryOrGiveUp_of_retry decision, number,
    ← RetryPolicy.delayFor_eq settings, ← policy]
  refine ⟨state, rfl, ?_⟩
  unfold Session.scheduleRetry
  dsimp only
  rw [timers]

/-- The failure that spends the budget ends the session. -/
theorem failAttempt_of_eq {c : Station σ} {config : SessionConfig}
    (settings : c.session.policy.config = config.reconnect)
    (spent : c.session.policy.attempts.toNat + 1 = config.budget) (error : Error)
    (now : Instant) :
    Resting (c.failAttempt error now).session ∧
      (c.failAttempt error now).session.state = .disconnected ∧
      (c.failAttempt error now).session.policy = c.session.policy.count ∧
      (c.failAttempt error now).session.lastError =
        some (.reconnectExhausted (c.session.policy.attempts.toNat + 1)) := by
  obtain ⟨s, wall, session, policy, -⟩ := c.failAttempt_session error now
  have decision := RetryPolicy.decision_of_eq settings spent
  have counted := RetryPolicy.toNat_count (Nat.lt_of_succ_le (Nat.le_of_eq spent))
  have phase := inPhase_failAttempt c error now
  rw [← policy] at decision
  rw [session, Session.retryOrGiveUp_of_exhausted decision, Session.failRequests_eq,
    Session.discardQueue_eq] at phase ⊢
  refine ⟨resting_of_unable phase nofun, rfl, ?_, ?_⟩
  · rw [← policy]
    rfl
  · rw [← counted, ← policy]
    rfl

/-- An attempt is under way, or the transport was refused and the attempt has failed. -/
theorem beginAttempt_cases (c : Station σ) {state : SessionState}
    (attempts : state.isAttempting = true) (now : Instant) :
    (∃ acts, (c.beginAttempt state now).session.journal = c.session.journal ++ acts ∧
        acts.any Act.refuses = false ∧ (c.beginAttempt state now).session.state = state ∧
        (c.beginAttempt state now).session.policy = c.session.policy) ∨
      ∃ (d : Station σ) (error : Error) (acts : List Act),
        c.beginAttempt state now = d.failAttempt error now ∧
          (c.beginAttempt state now).session.journal = c.session.journal ++ acts ∧
          acts.any Act.refuses = true ∧ d.session.policy = c.session.policy := by
  obtain ⟨begun, begins⟩ : ∃ d, d = c.stopConnection.enter state none := ⟨_, rfl⟩
  have policy : begun.session.policy = c.session.policy := by
    rw [begins]
    dsimp only [enter, modify, stopConnection]
    rw [Session.unplug_eq]
    rfl
  obtain ⟨acts, journal, granted⟩ : ∃ acts, begun.session.journal = c.session.journal ++ acts ∧
      acts.any Act.refuses = false := by
    refine ⟨Session.partings c.session.transport ++ [.entered ⟨c.session.key, c.session.target,
      state, none, Environment.wallClock c.stopConnection.world⟩], ?_, ?_⟩
    · rw [begins]
      dsimp only [enter, modify, stopConnection]
      rw [Session.unplug_eq, ← List.append_assoc]
      rfl
    · cases c.session.transport <;> rfl
  have entered : begun.session.state = state := by
    rw [begins]
    rfl
  unfold beginAttempt
  dsimp only
  rw [← begins]
  split
  · left
    refine ⟨acts ++ [.dialled begun.session.connectionId begun.session.target true], ?_, ?_,
      entered, policy⟩
    · dsimp only [Session.plug, Session.note]
      rw [journal, List.append_assoc]
    · rw [List.any_append, granted]
      rfl
  · next e world _ =>
    right
    have fails : Moves .close
        ⟨begun.session.note (.dialled begun.session.connectionId begun.session.target false),
          world⟩ _ :=
      moves_failAttempt Call.not_flushes_close (.inl (entered.symm ▸ attempts)) e now
    obtain ⟨more, whole⟩ := fails.edits.journal_prefix
    refine ⟨_, e, acts ++ .dialled begun.session.connectionId begun.session.target false :: more,
      rfl, ?_, ?_, policy⟩
    · rw [← whole]
      dsimp only [Session.note]
      rw [journal, List.append_assoc, List.append_assoc]
      rfl
    · rw [List.any_append, List.any_cons]
      exact Bool.or_true _

end Station

/-! ## What a stride does to the count -/

namespace Stride

variable {s : Stride σ} {number : Nat}

/-- A stride keeps the count, and a failure leads to what its number says. -/
structure Tallied (s : Stride σ) (number : Nat) : Prop where
  within : s.after.session.Within (s.tally number)
  bounded : s.fails = true → s.tally number ≤ s.before.session.config.budget
  retries : s.fails = true → s.tally number < s.before.session.config.budget →
    s.Retries (s.tally number)
  exhausts : s.fails = true → s.tally number = s.before.session.config.budget →
    s.Exhausts (s.tally number) ∧ Resting s.after.session

theorem tallied_of_calm (calm : s.fails = false) (within : s.after.session.Within (s.base number)) :
    s.Tallied number := by
  have same : s.tally number = s.base number := by
    unfold tally
    rw [calm]
    rfl
  have never : ¬ s.fails = true := by rw [calm]; exact Bool.false_ne_true
  rw [← same] at within
  exact ⟨within, fun fails => absurd fails never, fun fails => absurd fails never,
    fun fails => absurd fails never⟩

/-- The parts of a run that fail bring no frame and take no request. -/
theorem cause_of_fails (h : s.fails = true) : (∀ bytes, ¬ s.leg.cause.Brings bytes) ∧
    ∀ (t : Session) (answer : Except Error (Option String)), t.entering s.leg.cause answer = t := by
  obtain ⟨c, leg⟩ := s
  have plain {call : Call} (other : ∀ id bytes now, call ≠ .handleEvent id (.frame bytes) now)
      (quiet : ∀ code header payload now, call ≠ .request code header payload now) :
      (∀ bytes, ¬ call.Brings bytes) ∧ ∀ (t : Session) (answer : Except Error (Option String)),
        t.entering call answer = t := by
    refine ⟨?_, ?_⟩
    · rintro bytes ⟨id, now, rfl⟩
      exact other id bytes now rfl
    · intro t answer
      unfold Session.entering
      split
      · exact absurd rfl (quiet _ _ _ _)
      · rfl
  cases leg with
  | timer kind now => exact plain nofun nofun
  | whole call =>
    cases call with
    | request => cases h
    | handleEvent id event now =>
      cases event with
      | frame bytes => cases h
      | _ => exact plain nofun nofun
    | _ => exact plain nofun nofun

/-- When nothing is outstanding after a failure, all that was outstanding has failed. -/
theorem failed_of_fails (sorted : KeyMap.Sorted s.before.session.requests.pending)
    (fails : s.fails = true) (empty : s.after.session.requests.pending = []) :
    ∀ id ∈ s.before.session.requests.ids, ∃ error, .settled ⟨id, .error error⟩ ∈ s.acts := by
  obtain ⟨deaf, plain⟩ := cause_of_fails fails
  obtain ⟨t, answer, edits, journal, after⟩ := s.edits
  obtain ⟨acts, settled⟩ := edits.effects.settling sorted
  have same : s.acts = acts := List.append_cancel_left (journal.symm.trans settled.journal)
  rw [plain] at after
  intro id mem
  have ended : id ∈ settledIds acts := by
    have whole := settled.balance.symm.subset mem
    rw [← after, Requests.ids, empty] at whole
    exact whole
  obtain ⟨outcome, among, rfl⟩ := List.mem_map.mp ended
  obtain ⟨act, told, settles⟩ := List.mem_filterMap.mp among
  have error : ∃ error, outcome = ⟨outcome.requestId, .error error⟩ := by
    cases settled.due outcome among with
    | answered brings => exact absurd brings (deaf _)
    | closed id => exact ⟨_, rfl⟩
    | expired id now tick => exact ⟨_, rfl⟩
  obtain ⟨error, result⟩ := error
  refine ⟨error, ?_⟩
  rw [same, ← result]
  cases act <;> cases settles
  exact told

theorem tallied_of_failure {d : Station σ} {error : Error} {now : Instant}
    (sorted : KeyMap.Sorted s.before.session.requests.pending) (fails : s.fails = true)
    (after : s.after = d.failAttempt error now) (instant : s.leg.now? = some now)
    (settings : d.session.policy.config = s.before.session.config.reconnect)
    (counted : d.session.policy.attempts.toNat = s.base number)
    (left : s.base number < s.before.session.config.budget) : s.Tallied number := by
  have one : s.tally number = d.session.policy.attempts.toNat + 1 := by
    unfold tally
    rw [fails, counted]
    rfl
  have attempts := RetryPolicy.toNat_count (counted.symm ▸ left)
  have config := s.sameIdentity.config
  have total : s.tally number ≤ s.before.session.config.budget := by omega
  rcases Nat.lt_or_eq_of_le total with short | spent
  · have lt : d.session.policy.attempts.toNat + 1 < s.before.session.config.budget := by omega
    obtain ⟨state, policy, timers⟩ := Station.failAttempt_of_lt settings lt error now
    rw [← after] at state policy timers
    refine ⟨⟨?_, ?_, ?_, fun _ => ?_⟩, fun _ => total, fun _ _ => ⟨state, ?_, now, instant, ?_⟩,
      fun _ equal => absurd equal (Nat.ne_of_lt short)⟩
    · rw [policy, config]
      exact settings
    · rw [policy, attempts, one]
    · rw [state]
      nofun
    · rw [config]
      exact short
    · rw [policy, attempts, one]
    · rw [timers, one]
  · have eq : d.session.policy.attempts.toNat + 1 = s.before.session.config.budget := by omega
    obtain ⟨rest, state, policy, lastError⟩ := Station.failAttempt_of_eq settings eq error now
    rw [← after] at rest state policy lastError
    refine ⟨⟨?_, ?_, ?_, ?_⟩, fun _ => total, fun _ short => absurd spent (Nat.ne_of_lt short),
      fun _ _ => ⟨⟨state, ?_, rest.timers, rest.queue, rest.requests,
        failed_of_fails sorted fails rest.requests⟩, rest⟩⟩
    · rw [policy, config]
      exact settings
    · rw [policy, attempts, one]
    · rw [state]
      nofun
    · rw [state, rest.timers]
      nofun
    · rw [lastError, one]

omit [Environment σ] in
theorem base_of_restarts (h : s.restarts = true) : s.base number = 0 := if_pos h

omit [Environment σ] in
theorem base_of_continues (h : s.restarts = false) : s.base number = number := by
  unfold base
  rw [h]
  rfl

/-- An attempt that begins within the budget counts if its transport is refused. -/
theorem tallied_of_attempt {c : Station σ} {state : SessionState} {now : Instant}
    (sorted : KeyMap.Sorted s.before.session.requests.pending)
    (asks : s.fails = s.acts.any Act.refuses) (after : s.after = c.beginAttempt state now)
    (journal : c.session.journal = s.before.session.journal)
    (attempts : state.isAttempting = true) (instant : s.leg.now? = some now)
    (settings : c.session.policy.config = s.before.session.config.reconnect)
    (counted : c.session.policy.attempts.toNat = s.base number)
    (left : s.base number < s.before.session.config.budget) : s.Tallied number := by
  rcases c.beginAttempt_cases attempts now with
    ⟨acts, grown, granted, entered, policy⟩ | ⟨d, error, acts, failed, grown, refused, policy⟩
  all_goals
    rw [← after, journal] at grown
    rw [acts_eq grown] at asks
  · rw [← after] at entered policy
    refine tallied_of_calm (asks.trans granted) ⟨?_, ?_, ?_, fun _ => ?_⟩
    · rw [policy, s.sameIdentity.config]
      exact settings
    · rw [policy]
      exact counted
    · rw [entered, state.isLive_eq_false attempts]
      nofun
    · rw [s.sameIdentity.config]
      exact left
  · refine tallied_of_failure sorted (asks.trans refused) (after.trans failed) instant ?_ ?_ left
    · rw [policy]
      exact settings
    · rw [policy]
      exact counted

end Stride

/-- Every stride keeps the count. -/
theorem Stride.tallied {s : Stride σ} {number : Nat} (single : s.leg.IsSingle)
    (h : s.before.session.Within number)
    (sorted : KeyMap.Sorted s.before.session.requests.pending) : s.Tallied number := by
  have config := s.sameIdentity.config
  cases s.classify single with
  | calm fails restarts goes =>
    refine tallied_of_calm fails ?_
    rw [base_of_continues restarts]
    exact h.of_goesOn goes config
  | connects asked restarts after journal policy =>
    have zero : s.base number = 0 := base_of_restarts restarts
    refine tallied_of_attempt sorted (fails_of_connect asked) after journal rfl
      (by rw [asked]; rfl) ?_ ?_ (zero ▸ s.before.session.config.budget_pos)
    · rw [policy]
      exact h.settings
    · rw [policy, zero]
      rfl
  | retries ticks after attempts journal armed policy =>
    have same : s.base number = number := base_of_continues (restarts_of_timer ticks)
    refine tallied_of_attempt sorted (fails_of_retry ticks) after journal attempts
      (by rw [ticks]; rfl) ?_ ?_ ?_
    · rw [policy]
      exact h.settings
    · rw [policy, same]
      exact h.counted
    · rw [same]
      exact h.left (.inr armed)
  | fails instant fails restarts after _ found policy =>
    have same : s.base number = number := base_of_continues restarts
    refine tallied_of_failure sorted fails after instant ?_ ?_ ?_
    · rw [policy]
      exact h.settings
    · rw [policy, same]
      exact h.counted
    · rw [same]
      rcases found with attempts | live
      · exact h.left (.inl attempts)
      · rw [h.live live]
        exact s.before.session.config.budget_pos
  | opens _ fails restarts _ policy =>
    refine tallied_of_calm fails ?_
    rw [base_of_restarts restarts]
    exact h.of_reset policy config
  | rejected rejection fails rejects _ policy =>
    -- An open connection has counted nothing, so it does not matter that it starts anew.
    have zero := h.live (by rw [rejection.1]; rfl)
    refine tallied_of_calm fails ?_
    have base : s.base number = 0 := by
      unfold base
      rw [zero, ite_self]
    rw [base]
    refine ⟨?_, ?_, fun _ => rfl, fun _ => SessionConfig.budget_pos _⟩
    · rw [policy, config]
      exact h.settings
    · rw [policy]
      exact h.counted.trans zero
  | tornDown _ fails restarts policy =>
    refine tallied_of_calm fails ?_
    rw [base_of_restarts restarts]
    exact h.of_reset policy config

end Failures

end Switchboard
