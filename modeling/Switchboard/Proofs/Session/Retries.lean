import Switchboard.Proofs.Session.Tally
import Switchboard.Scripted.Network
/-!
# The retry budget

Each failure but the last one of the budget schedules exactly one retry, and the last one ends the
session. Then, and after a rejection, the session is at rest (`March.resting_of_ended`), and nothing
but a caller opens a transport again (`Stride.resting`).
-/

namespace Switchboard

section Budget

open Session (Resting)

variable {σ : Type} [Environment σ]

/-- The act tells that a transport was asked for. -/
def Act.dials : Act → Bool
  | .dialled .. => true
  | _ => false

theorem Act.ComesOf.dials_eq_false {act : Act} {cause : Call} {s : Session}
    (comes : act.ComesOf cause s) (idle : ¬ cause.Attempts) : act.dials = false := by
  cases act with
  | dialled id target granted => exact absurd comes idle
  | _ => rfl

/-! ## A session at rest -/

namespace Station

variable {c : Station σ}

theorem requestSubmission_resting (h : Resting c.session) (code : UInt8) (header : Header)
    (payload : Option Bytes) : ∃ e,
      c.requestSubmission code header payload = (.error e, c.modify Session.advanced) := by
  unfold requestSubmission
  cases requestBytes c.session.requests.nextId code header payload with
  | error e => exact ⟨e, rfl⟩
  | ok bytes =>
    have rest : Resting (c.modify Session.advanced).session :=
      ⟨h.state, h.transport, h.timers, h.heartbeat, h.queue, h.requests⟩
    exact ⟨_, submit_resting rest _⟩

theorem submitBytes_resting (h : Resting c.session) (purpose : Purpose)
    (bytes : Except Error Bytes) : (c.submitBytes purpose bytes).2 = c := by
  cases bytes with
  | error e => rfl
  | ok bytes => exact congrArg Prod.snd (submit_resting h _)

theorem handleEvent_resting (h : Resting c.session) (id : ConnectionId) (event : TransportEvent)
    (now : Instant) : c.handleEvent id event now = c := by
  have idle : ¬ c.session.state.isAttempting = true := by rw [h.isAttempting_eq]; nofun
  have dead : ¬ c.session.state.isLive = true := by rw [h.isLive_eq]; nofun
  unfold handleEvent
  split
  · cases event with
    | opened => exact if_neg idle
    | frame bytes => exact if_neg dead
    | failed reason => exact (if_neg idle).trans (if_neg dead)
    | closed => exact (if_neg idle).trans (if_neg dead)
  · rfl

end Station

/-- A session at rest stays at rest, and opens no transport, unless a caller starts it. -/
theorem Stride.resting {s : Stride σ} (single : s.leg.IsSingle)
    (h : Resting s.before.session) (unasked : ∀ now, s.leg ≠ .whole (.connect now)) :
    Resting s.after.session ∧ ∀ act ∈ s.acts, act.dials = false := by
  obtain ⟨c, leg⟩ := s
  cases leg with
  | timer kind now =>
    -- At rest no task is armed.
    have still : Stride.after ⟨c, .timer kind now⟩ = c := by
      cases kind with
      | connectTimeout => exact Station.pollConnect_early (by rw [h.timers]; rfl)
      | heartbeat => exact Station.pollHeartbeat_early (by rw [h.timers]; rfl)
      | retry => exact Station.pollRetry_early (by rw [h.timers]; rfl)
    rw [Stride.acts_of_still still, still]
    exact ⟨h, List.forall_mem_nil _⟩
  | whole call =>
    have idle : ¬ call.Attempts := by
      rintro ⟨now, rfl | rfl⟩
      · exact unasked now rfl
      · exact single
    refine ⟨?_, fun act mem => (Stride.comesOf ⟨c, .whole call⟩ act mem).dials_eq_false idle⟩
    have still (same : c.go (.whole call) = c) :
        Resting (Stride.after ⟨c, .whole call⟩).session := by
      rw [Stride.after, same]
      exact h
    cases call with
    | connect now => exact absurd rfl (unasked now)
    | disconnect => exact Station.resting_disconnected (.resting h)
    | close => exact Station.resting_close (.resting h)
    | authenticate credentials =>
      refine still (if_neg fun asked => ?_)
      rcases h.state with e | e | ⟨e, -⟩ <;> rw [e] at asked <;> cases asked
    | send code header payload => exact still (Station.submitBytes_resting h _ _)
    | sendMessage message payload => exact still (Station.submitBytes_resting h _ _)
    | request code header payload now =>
      obtain ⟨e, submission⟩ := Station.requestSubmission_resting h code header payload
      show Resting (c.request code header payload now).2.session
      rw [Station.request_of_error c (congrArg Prod.fst submission), submission]
      exact ⟨h.state, h.transport, h.timers, h.heartbeat, h.queue, h.requests⟩
    | handleEvent id event now => exact still (Station.handleEvent_resting h id event now)
    | pollTimers now => exact single.elim

/-! ## Whole runs -/

/-- The session has spent its budget, or its credentials were rejected, and no caller has started it
since. -/
def Ended (config : SessionConfig) (strides : List (Stride σ)) : Prop :=
  ∃ early last late, strides = early ++ last :: late ∧
    (last.fails = true ∧ failures (early ++ [last]) = config.budget ∨ last.rejects = true) ∧
    ∀ stride ∈ late, ∀ now, stride.leg ≠ .whole (.connect now)

/-- The failures of a run keep to the budget. -/
structure Budgeted (config : SessionConfig) (strides : List (Stride σ)) : Prop where
  bounded : ∀ early stride late, strides = early ++ stride :: late → stride.fails = true →
    0 < failures (early ++ [stride]) ∧ failures (early ++ [stride]) ≤ config.budget
  retries : ∀ early stride late, strides = early ++ stride :: late → stride.fails = true →
    failures (early ++ [stride]) < config.budget → stride.Retries (failures (early ++ [stride]))
  exhausts : ∀ early stride late, strides = early ++ stride :: late → stride.fails = true →
    failures (early ++ [stride]) = config.budget → stride.Exhausts config.budget
  ended : ∀ early stride late, strides = early ++ stride :: late → Ended config early →
    (∀ now, stride.leg ≠ .whole (.connect now)) → ∀ act ∈ stride.acts, act.dials = false
  live : ∀ stride ∈ strides,
    (stride.before.session.state.isLive = true → stride.before.session.policy.attempts = 0) ∧
      (stride.after.session.state.isLive = true → stride.after.session.policy.attempts = 0)

namespace March

variable {key : String} {target : Target} {config : SessionConfig} {generation serial : Nat}
  {mark : String}
  {strides : List (Stride σ)} {c : Station σ}

/-- What the strides of a session keep. -/
theorem within (h : March (.create key target config generation serial mark) strides c) :
    c.session.config = config ∧ KeyMap.Sorted c.session.requests.pending ∧
      c.session.Within (failures strides) := by
  induction h with
  | begin world =>
    exact ⟨rfl, List.Pairwise.nil, rfl, rfl, nofun, fun _ => SessionConfig.budget_pos _⟩
  | @go strides c _ leg single ih =>
    obtain ⟨settings, sorted, within⟩ := ih
    have tallied := Stride.tallied (s := ⟨c, leg⟩) single within sorted
    refine ⟨(Stride.sameIdentity ⟨c, leg⟩).config.trans settings,
      Stride.sorted_after (s := ⟨c, leg⟩) sorted, ?_⟩
    rw [failures_concat]
    exact tallied.within
  | drain _ ih =>
    obtain ⟨settings, sorted, within⟩ := ih
    exact ⟨settings, sorted, within.congr rfl rfl id id⟩
  | world _ _ ih => exact ih

/-- A stride of a session keeps the count. -/
theorem tallied (h : March (.create key target config generation serial mark) strides c)
    {early late : List (Stride σ)} {stride : Stride σ} (split : strides = early ++ stride :: late) :
    stride.before.session.config = config ∧ stride.Tallied (failures early) := by
  obtain ⟨before, single⟩ := h.before split
  obtain ⟨settings, sorted, within⟩ := before.within
  exact ⟨settings, Stride.tallied single within sorted⟩

theorem resting_of_ended (h : March (.create key target config generation serial mark) strides c)
    (ended : Ended config strides) : Resting c.session := by
  induction h with
  | begin world =>
    obtain ⟨early, last, late, split, -⟩ := ended
    simp at split
  | @go strides c before leg single ih =>
    obtain ⟨early, last, late, split, ends, unasked⟩ := ended
    rcases split_of_concat split with ⟨rfl, rfl, -⟩ | ⟨rest, rfl, earlier⟩
    · rcases ends with ⟨fails, spent⟩ | rejects
      · obtain ⟨settings, sorted, within⟩ := before.within
        have tallied := Stride.tallied (s := ⟨c, leg⟩) single within sorted
        rw [failures_concat] at spent
        exact (tallied.exhausts fails (spent.trans (congrArg _ settings.symm))).2
      · exact Stride.resting_of_rejects rejects
    · have resting := ih ⟨early, last, rest, earlier, ends, fun other mem =>
        unasked other (List.mem_append_left _ mem)⟩
      exact (Stride.resting (s := ⟨c, leg⟩) single resting (unasked _ (List.mem_append_right _
        (List.mem_singleton_self _)))).1
  | drain _ ih =>
    have rest := ih ended
    exact ⟨rest.state, rest.transport, rest.timers, rest.heartbeat, rest.queue, rest.requests⟩
  | world _ _ ih => exact ih ended

theorem budgeted (h : March (.create key target config generation serial mark) strides c) :
    Budgeted config strides where
  bounded early stride late split fails := by
    obtain ⟨settings, tallied⟩ := h.tallied split
    rw [failures_concat, ← settings]
    refine ⟨?_, tallied.bounded fails⟩
    unfold Stride.tally
    rw [if_pos fails]
    exact Nat.succ_pos _
  retries early stride late split fails short := by
    obtain ⟨settings, tallied⟩ := h.tallied split
    rw [failures_concat] at short ⊢
    exact tallied.retries fails (settings.symm ▸ short)
  exhausts early stride late split fails spent := by
    obtain ⟨settings, tallied⟩ := h.tallied split
    rw [failures_concat] at spent
    exact spent ▸ (tallied.exhausts fails (settings.symm ▸ spent)).1
  ended early stride late split ended unasked := by
    obtain ⟨before, single⟩ := h.before split
    exact (Stride.resting single (before.resting_of_ended ended) unasked).2
  live stride mem := by
    obtain ⟨early, late, split⟩ := List.append_of_mem mem
    have none {s : Session} {number : Nat} (within : s.Within number)
        (live : s.state.isLive = true) : s.policy.attempts = 0 := by
      rw [← UInt32.toNat_inj, within.counted, within.live live]
      rfl
    obtain ⟨-, -, found⟩ := (h.before split).1.within
    obtain ⟨-, -, left⟩ := (h.through split).within
    exact ⟨none found, none left⟩

end March

/-- In every run, over every world, failures in a row are followed by one retry each until the
budget is spent, and then, as after a rejection, by no attempt that a caller does not ask for. -/
theorem run_budgeted {key : String} {target : Target} {config : SessionConfig}
    {generation serial : Nat} {mark : String} {ms : List (Moment σ)} {c : Station σ}
    (h : Run (.create key target config generation serial mark) ms c) :
    Budgeted config (Run.strides ms) :=
  h.march.budgeted

end Budget

/-- An attempt does not open in time, and as there is no delay the retry is refused in the same
poll. The third failure in a row spends the budget, with the request that was held back. -/
theorem run_budgeted_spent :
    ∃ (ms : List (Moment ScriptedNetwork)) (c : Station ScriptedNetwork),
      Run (.create "k" default
          { reconnect := { baseDelay := .clamp 0, maxAttempts := 3 } } 0 1 "s0000001") ms c ∧
        (Run.strides ms).map Stride.fails =
          [false, false, true, false, true, false, false, true, false, false, false] ∧
        failures (Run.strides ms) = 3 ∧ c.session.state = .disconnected ∧
        (Run.outcomes ms).length = 1 ∧
        Budgeted { reconnect := { baseDelay := .clamp 0, maxAttempts := 3 } } (Run.strides ms) :=
  have begun : Run (.create "k" default
      { reconnect := { baseDelay := .clamp 0, maxAttempts := 3 } } 0 1 "s0000001") []
      ⟨_, ({} : ScriptedNetwork)⟩ := .begin _
  have held := (begun.call (.connect ⟨0⟩)).call (.request 0x30 [] none ⟨0⟩)
  have refusing := held.world { refuseAll := true }
  have twice := refusing.call (.pollTimers ⟨10000000000⟩)
  have run := (twice.call (.pollTimers ⟨10000000000⟩)).call (.pollTimers ⟨20000000000⟩)
  ⟨_, _, run, by decide +kernel, by decide +kernel, by decide +kernel, by decide +kernel,
    run_budgeted run⟩

end Switchboard
