import Switchboard.Proofs.Session.Transmissions
import Switchboard.Proofs.Session.Silence
/-!
# When requests expire

A request that stays without an answer is given up at a tick of the heartbeat, the first one that
finds it as old as the timeout or older. `run_expiring` says that no request times out anywhere
else, which requests a tick gives up and which it leaves alone, and how long a request can be
outstanding: as long as the connection stays open and no tick is taken late, the timeout and one
interval between ticks at most.

The bound rests on the next tick (`Run.tick_bound`): while a request is outstanding that tick is
never further away than the bound, for a tick that is not the last one for the request finds it
young and puts the next one an interval later.
-/

namespace Switchboard

open Session (InPhase Adds Effect Effects)

/-- The request was given up because it had waited too long. -/
def Outcome.isTimeout (outcome : Outcome) : Bool :=
  match outcome.result with
  | .error (.requestTimeout _) => true
  | _ => false

section Expiry

variable {σ : Type} [Environment σ]

namespace Stride

/-- How requests ended during the leg. -/
def outcomes (s : Stride σ) : List Outcome := s.acts.filterMap Act.outcome?

/-- A poll finds the tick of an open connection due. -/
structure Ticks (s : Stride σ) (now : Instant) : Prop where
  leg : s.leg = .timer .heartbeat now
  due : s.before.session.timers.heartbeat.isDue now = true
  live : s.before.session.state.isLive = true

variable {s : Stride σ}

theorem outcomes_of_journal {acts : List Act}
    (journal : s.after.session.journal = s.before.session.journal ++ acts) :
    s.outcomes = acts.filterMap Act.outcome? :=
  congrArg (List.filterMap Act.outcome?) (acts_eq journal)

end Stride

theorem Moment.outcomes_eq_strides (m : Moment σ) :
    m.outcomes = m.strides.flatMap Stride.outcomes := by
  unfold Moment.outcomes
  rw [m.acts_eq_strides, List.filterMap_flatMap]
  rfl

/-- Strides lead to a session in order, with the configuration that it began with. -/
theorem March.sound {key : String} {target : Target} {config : SessionConfig}
    {generation serial : Nat} {mark : String} {strides : List (Stride σ)} {c : Station σ}
    (h : March (.create key target config generation serial mark) strides c) :
    KeyMap.Sorted c.session.requests.pending ∧ c.session.config = config := by
  induction h with
  | begin world => exact ⟨List.Pairwise.nil, rfl⟩
  | @go strides c _ leg _ ih =>
    let s : Stride σ := ⟨c, leg⟩
    exact ⟨s.sorted_after ih.1, s.sameIdentity.config.trans ih.2⟩
  | drain _ ih => exact ih
  | world _ _ ih => exact ih

/-- What a stride of a run finds. -/
theorem Run.found {key : String} {target : Target} {config : SessionConfig}
    {generation serial : Nat} {mark : String} {ms : List (Moment σ)} {c : Station σ}
    (h : Run (.create key target config generation serial mark) ms c) {s : Stride σ}
    (mem : s ∈ strides ms) :
    s.leg.IsSingle ∧ InPhase s.before.session ∧
      KeyMap.Sorted s.before.session.requests.pending ∧ s.before.session.config = config := by
  obtain ⟨early, late, split⟩ := List.append_of_mem mem
  obtain ⟨before, single⟩ := h.march.before split
  exact ⟨single, before.inPhase, before.sound⟩

/-! ## Only ticks -/

/-- What a teardown settles it settles as lost. -/
theorem Due.closed_of_close {outcome : Outcome} (h : Due .close outcome) :
    outcome = ⟨outcome.requestId, .error .connectionClosed⟩ := by
  cases h with
  | answered brings =>
    obtain ⟨id, now, call⟩ := brings
    cases call
  | closed id => rfl
  | expired id now tick => cases tick

/-- What moves that ask for no time settle: each request as lost, and each one that is not left. -/
theorem Station.Moves.settles {b d : Station σ} (moves : Moves .close b d)
    (sorted : KeyMap.Sorted b.session.requests.pending) :
    ∃ acts, d.session.journal = b.session.journal ++ acts ∧
      (d.session.requests.ids ++ settledIds acts).Perm b.session.requests.ids ∧
      ∀ outcome ∈ acts.filterMap Act.outcome?,
        outcome = ⟨outcome.requestId, .error .connectionClosed⟩ := by
  obtain ⟨acts, settling⟩ := moves.edits.effects.settling sorted
  exact ⟨acts, settling.journal, settling.balance,
    fun outcome mem => (settling.due outcome mem).closed_of_close⟩

namespace Stride

variable {s : Stride σ}

theorem outcomes_of_still (still : s.after = s.before) : s.outcomes = [] := by
  unfold outcomes
  rw [acts_of_still still]
  rfl

/-- What may be done in the course of another call than a poll lets no request time out. -/
theorem lasting_of_edits {cause : Call} (other : ∀ now, cause ≠ .pollTimers now) {t : Session}
    (edits : Session.Edits cause s.before.session t)
    (journal : t.journal = s.before.session.journal ++ s.acts)
    (sorted : KeyMap.Sorted s.before.session.requests.pending) {outcome : Outcome}
    (mem : outcome ∈ s.outcomes) : outcome.isTimeout = false := by
  obtain ⟨acts, settling⟩ := edits.effects.settling sorted
  have same : s.acts = acts := List.append_cancel_left (journal.symm.trans settling.journal)
  unfold outcomes at mem
  rw [same] at mem
  cases settling.due outcome mem with
  | answered => rfl
  | closed => rfl
  | expired id now tick => exact absurd tick (other now)

/-- Requests time out at ticks, each under its own id. -/
theorem ticks_of_timeout (single : s.leg.IsSingle) (phase : InPhase s.before.session)
    (sorted : KeyMap.Sorted s.before.session.requests.pending) {outcome : Outcome}
    (mem : outcome ∈ s.outcomes) (out : outcome.isTimeout = true) : ∃ now, s.Ticks now := by
  have nothing {P : Prop} (still : s.after = s.before) : P := by
    rw [outcomes_of_still still] at mem
    cases mem
  have lasting {P : Prop} {cause : Call} (moves : Station.Moves cause s.before s.after)
      (other : ∀ now, cause ≠ .pollTimers now) : P := by
    rw [lasting_of_edits other moves.edits s.journal sorted mem] at out
    cases out
  obtain ⟨c, leg⟩ := s
  cases leg with
  | whole call =>
    obtain ⟨t, answer, edits, journal, -⟩ := Stride.edits ⟨c, .whole call⟩
    have other : ∀ now, call ≠ .pollTimers now := by
      rintro now rfl
      exact single
    rw [lasting_of_edits other edits journal sorted mem] at out
    cases out
  | timer kind now =>
    cases kind with
    | connectTimeout =>
      exact lasting (Station.moves_pollConnect c Call.not_flushes_close now) nofun
    | retry =>
      have asked : (Call.connect now).Attempts := ⟨now, .inl rfl⟩
      exact lasting (Station.moves_pollRetry c asked now) nofun
    | heartbeat =>
      by_cases due : c.session.timers.heartbeat.isDue now = true
      · exact ⟨now, rfl, due, (Station.tick_cases phase due).1⟩
      · exact nothing (Station.pollHeartbeat_early (Bool.not_eq_true _ ▸ due))

/-! ## What a tick does -/

/-- What a tick comes to: the old requests time out. If the connection goes on, the others are left
as they are, and if not, each of them is lost. -/
structure Expires (s : Stride σ) (now : Instant) (lost : List Outcome) : Prop where
  outcomes : s.outcomes =
    (s.before.session.requests.expired now s.before.session.config.requestTimeout).map
      (fun id => ⟨id, .error (.requestTimeout id)⟩) ++ lost
  closed : ∀ outcome ∈ lost, outcome = ⟨outcome.requestId, .error .connectionClosed⟩
  balance : (s.after.session.requests.ids ++ lost.map Outcome.requestId).Perm
    (s.before.session.requests.expire now s.before.session.config.requestTimeout).ids
  kept : s.after.session.state.isLive = true → s.after.session.requests.pending =
    (s.before.session.requests.expire now s.before.session.config.requestTimeout).pending

omit [Environment σ] in
theorem outcomes_map_settled (result : String → Except Error Frame) (ids : List String) :
    (ids.map fun id => Act.settled ⟨id, result id⟩).filterMap Act.outcome? =
      ids.map fun id => ⟨id, result id⟩ := by
  induction ids with
  | nil => rfl
  | cons id ids ih => exact congrArg (_ :: ·) ih

/-- Requests that time out and whatever ends afterwards. -/
theorem outcomes_of_settled {ids : List String} {acts : List Act}
    (journal : s.after.session.journal = s.before.session.journal ++
      ids.map (fun id => .settled ⟨id, .error (.requestTimeout id)⟩) ++ acts) :
    s.outcomes = ids.map (fun id => ⟨id, .error (.requestTimeout id)⟩) ++
      acts.filterMap Act.outcome? := by
  rw [List.append_assoc] at journal
  rw [outcomes_of_journal journal, List.filterMap_append,
    outcomes_map_settled fun id => .error (.requestTimeout id)]

variable {c : Station σ} {now : Instant}

/-- A tick that finds the peer silent ends with a teardown, which settles what is left. -/
theorem expires_of_silence (sorted : KeyMap.Sorted c.session.requests.pending)
    (live : c.session.state.isLive = true) {stale : Probe}
    (under : c.session.heartbeat.probe = some stale)
    (ticks : c.go (.timer .heartbeat now) = (c.modify fun s => s.tickTaken now).heartbeatTick now) :
    ∃ lost, Expires ⟨c, .timer .heartbeat now⟩ now lost := by
  rw [Station.heartbeatTick_of_silence (c.modify fun s => s.tickTaken now) live under] at ticks
  obtain ⟨b, fails, session⟩ : ∃ b : Station σ,
      c.go (.timer .heartbeat now) = b.failAttempt .heartbeatTimeout now ∧ b.session =
        { ((c.session.tickTaken now).expireRequests now).advanced with
          heartbeat := c.session.heartbeat.stop } := ⟨_, ticks, rfl⟩
  rw [Session.expireRequests_eq (c.session.tickTaken now) sorted now] at session
  have moves : Station.Moves .close b (c.go (.timer .heartbeat now)) := by
    rw [fails]
    refine Station.moves_failAttempt Call.not_flushes_close (.inr ?_) _ now
    rw [session]
    exact live
  obtain ⟨acts, journal, balance, closed⟩ :=
    moves.settles (by rw [session]; exact sorted.filter _)
  rw [session] at journal balance
  refine ⟨acts.filterMap Act.outcome?, outcomes_of_settled journal, closed, balance, ?_⟩
  intro alive
  rw [show Stride.after ⟨c, .timer .heartbeat now⟩ = _ from fails,
    Station.dead_failAttempt] at alive
  cases alive

/-- A tick that asks the peer settles nothing more. -/
theorem expires_of_answer (sorted : KeyMap.Sorted c.session.requests.pending)
    (live : c.session.state.isLive = true) (under : c.session.heartbeat.probe = none)
    (ticks : c.go (.timer .heartbeat now) = (c.modify fun s => s.tickTaken now).heartbeatTick now) :
    Expires ⟨c, .timer .heartbeat now⟩ now [] := by
  obtain ⟨b, d, ends, sends, session, -⟩ := Station.asks_of_tick live under ticks
  rw [Session.asking, Session.expireRequests_eq (c.session.tickTaken now) sorted now] at session
  obtain ⟨acts, journal, silent⟩ : Adds (fun act => act.outcome? = none) b.session d.session :=
    sends ▸ Station.adds_sendAnyway b _ fun _ _ _ => rfl
  have core : d.session.core = b.session.core := sends ▸ Station.core_sendAnyway b .ping _
  have requests : d.session.requests = b.session.requests := (congrArg Session.requests core :)
  have kept : (c.go (.timer .heartbeat now)).session.requests.pending =
      (c.session.requests.expire now c.session.config.requestTimeout).pending := by
    rw [ends]
    show d.session.requests.pending = _
    rw [requests, session]
    rfl
  have told : (c.go (.timer .heartbeat now)).session.journal = b.session.journal ++ acts := by
    rw [ends]
    exact journal
  rw [session] at told
  refine ⟨?_, List.forall_mem_nil _, ?_, fun _ => kept⟩
  · rw [outcomes_of_settled (s := ⟨c, .timer .heartbeat now⟩) told,
      List.filterMap_eq_nil_iff.mpr silent]
    rfl
  · rw [List.map_nil, List.append_nil]
    exact .of_eq (congrArg KeyMap.keys kept)

theorem expires (phase : InPhase s.before.session)
    (sorted : KeyMap.Sorted s.before.session.requests.pending) (ticks : s.Ticks now) :
    ∃ lost, s.Expires now lost := by
  obtain ⟨c, leg⟩ := s
  obtain ⟨same, due, live⟩ := ticks
  cases (show leg = .timer .heartbeat now from same)
  obtain ⟨-, ticks⟩ := Station.ticks_of_due phase due
  cases under : c.session.heartbeat.probe with
  | some stale => exact expires_of_silence sorted live under ticks
  | none => exact ⟨[], expires_of_answer sorted live under ticks⟩

/-- What a tick times out, in order. -/
theorem timeouts_of_ticks (phase : InPhase s.before.session)
    (sorted : KeyMap.Sorted s.before.session.requests.pending) (ticks : s.Ticks now) :
    s.outcomes.filter Outcome.isTimeout = (s.before.session.requests.pending.filter fun entry =>
        Requests.isOld now s.before.session.config.requestTimeout entry.2).map
      fun entry => ⟨entry.1, .error (.requestTimeout entry.1)⟩ := by
  obtain ⟨lost, expires⟩ := expires phase sorted ticks
  have none : lost.filter Outcome.isTimeout = [] := by
    refine List.filter_eq_nil_iff.mpr fun outcome mem => ?_
    rw [expires.closed outcome mem]
    exact Bool.false_ne_true
  rw [expires.outcomes, List.filter_append, none, List.append_nil, List.filter_eq_self.mpr]
  · unfold Requests.expired KeyMap.keys
    rw [List.map_map]
    rfl
  · intro outcome mem
    obtain ⟨id, -, rfl⟩ := List.mem_map.mp mem
    rfl

/-- A tick that gives the connection up fails the requests that it does not time out. -/
theorem lost_of_ticks (phase : InPhase s.before.session)
    (sorted : KeyMap.Sorted s.before.session.requests.pending) (ticks : s.Ticks now)
    (dead : s.after.session.state.isLive = false) :
    s.after.session.requests.pending = [] ∧
      ∀ entry ∈ s.before.session.requests.pending,
        Requests.isOld now s.before.session.config.requestTimeout entry.2 = false →
          ⟨entry.1, .error .connectionClosed⟩ ∈ s.outcomes := by
  have empty : s.after.session.requests.pending = [] := by
    cases Stride.staysOrEnds (by rw [ticks.leg]; trivial) phase with
    | stays stays =>
      rw [stays.live] at dead
      cases dead
    | ends _ settled => exact settled ticks.live
  refine ⟨empty, fun entry mem young => ?_⟩
  obtain ⟨lost, expires⟩ := expires phase sorted ticks
  have left : entry.1 ∈ (s.before.session.requests.expire now
      s.before.session.config.requestTimeout).ids := by
    refine List.mem_map_of_mem (List.mem_filter.mpr ⟨mem, ?_⟩)
    rw [young]
    rfl
  have balance := expires.balance
  rw [Requests.ids, empty] at balance
  obtain ⟨outcome, there, same⟩ := List.mem_map.mp (balance.symm.subset left)
  rw [expires.outcomes, ← same, ← expires.closed outcome there]
  exact List.mem_append_right _ there

/-- What is still outstanding after a tick is young. -/
theorem young_of_left (phase : InPhase s.before.session)
    (sorted : KeyMap.Sorted s.before.session.requests.pending) (ticks : s.Ticks now)
    {entry : String × PendingRequest} (left : entry ∈ s.after.session.requests.pending) :
    Requests.isOld now s.before.session.config.requestTimeout entry.2 = false := by
  obtain ⟨lost, expires⟩ := expires phase sorted ticks
  by_cases alive : s.after.session.state.isLive = true
  · rw [expires.kept alive] at left
    exact (Bool.not_eq_eq_eq_not ..).mp (List.mem_filter.mp left).2
  · rw [(lost_of_ticks phase sorted ticks (Bool.not_eq_true _ ▸ alive)).1] at left
    cases left

end Stride

/-- A request is old from its instant and the timeout on. -/
theorem Requests.isOld_of_le {now : Instant} {timeout : Duration} {request : PendingRequest}
    (h : request.issuedAt + timeout ≤ now) : isOld now timeout request = true := by
  refine decide_eq_true (show timeout.nanos ≤ _ from ?_)
  have least : request.issuedAt.nanos + timeout.nanos ≤ now.nanos := h
  have most := timeout.nanos_le_maxNanos
  simp only [Instant.since, Duration.nanos_clamp]
  omega

/-! ## Requests that stay outstanding -/

theorem Session.Effect.pending_subset {cause : Call} {s t : Session} (h : Effect cause s t) :
    t.requests.pending ⊆ s.requests.pending := by
  cases h with
  | tell told => rw [told.pending]; exact List.Subset.refl _
  | settleAll => rw [failRequests_eq]; exact List.nil_subset _
  | expire now =>
    rw [expireRequests_eq_foldl, Requests.foldl_erase_eq]
    exact List.filter_sublist.subset
  | answer => exact List.filter_sublist.subset
  | unplug => rw [unplug_eq]; exact List.Subset.refl _
  | dial => exact List.Subset.refl _

theorem Session.Effects.pending_subset {cause : Call} {s t : Session} (h : Effects cause s t) :
    t.requests.pending ⊆ s.requests.pending := by
  induction h with
  | refl => exact List.Subset.refl _
  | tail _ effect ih => exact List.Subset.trans effect.pending_subset ih

/-- A timer brings no request. -/
theorem Station.pending_subset_fire (c : Station σ) (kind : TimerKind) (now : Instant) :
    (c.fire now kind).session.requests.pending ⊆ c.session.requests.pending := by
  obtain ⟨t, answer, edits, -, after⟩ := Stride.edits ⟨c, .timer kind now⟩
  have same : (c.fire now kind).session = t := after
  rw [same]
  exact edits.effects.pending_subset

namespace Moment

variable {m : Moment σ}

/-- A request that is outstanding after a call was so before, or the call is that request. -/
theorem mem_pending_after {entry : String × PendingRequest}
    (mem : entry ∈ m.after.session.requests.pending) :
    entry ∈ m.before.session.requests.pending ∨
      m.issued? = some entry.1 ∧ m.now? = some entry.2.issuedAt := by
  cases issued : m.issued? with
  | none =>
    obtain ⟨s, edits, -, after⟩ := m.edits
    rw [after, session_of_quiet issued] at mem
    exact .inl (edits.effects.pending_subset mem)
  | some id =>
    obtain ⟨code, header, payload, now, call, rfl, taken⟩ :=
      Station.perform_issued (answer_of_issued issued)
    have requests : m.after.session.requests = _ :=
      (congrArg (fun call => (m.before.perform call).2.session.requests) call).trans
        (Station.requests_request taken now)
    rw [requests] at mem
    rcases KeyMap.eq_or_mem_of_mem_insert mem with rfl | old
    · right
      exact ⟨rfl, by rw [now?, call]; rfl⟩
    · exact .inl old

/-- What is outstanding at the end of a poll was so after each of its timers. -/
theorem pending_subset_along (kinds : List TimerKind) (c : Station σ) (now : Instant) :
    ((kinds.map (.timer · now)).foldl Station.go c).session.requests.pending ⊆
        c.session.requests.pending ∧
      ∀ s ∈ Stride.along c (kinds.map (.timer · now)),
        ((kinds.map (.timer · now)).foldl Station.go c).session.requests.pending ⊆
          s.after.session.requests.pending := by
  induction kinds generalizing c with
  | nil => exact ⟨List.Subset.refl _, List.forall_mem_nil _⟩
  | cons kind kinds ih =>
    obtain ⟨whole, parts⟩ := ih (c.fire now kind)
    exact ⟨List.Subset.trans whole (c.pending_subset_fire kind now),
      List.forall_mem_cons.mpr ⟨whole, parts⟩⟩

end Moment

namespace Run

variable {key : String} {target : Target} {config : SessionConfig} {generation serial : Nat}
  {mark : String}
  {ms early late : List (Moment σ)} {m : Moment σ} {c : Station σ} {id : String} {t : Instant}

theorem mem_issued (h : m.issued? = some id) : id ∈ issued (early ++ m :: late) :=
  List.mem_filterMap.mpr ⟨m, by simp, h⟩

/-- A request that is outstanding was so ever since the call that made it, and bears the instant of
that call. -/
theorem entry_since (h : Run (.create key target config generation serial mark) ms c)
    (split : ms = early ++ m :: late) (issued : m.issued? = some id) (at_ : m.now? = some t)
    {request : PendingRequest} (left : (id, request) ∈ c.session.requests.pending) :
    request.issuedAt = t ∧ ∀ n ∈ late, (id, request) ∈ n.before.session.requests.pending ∧
      (id, request) ∈ n.after.session.requests.pending := by
  induction h generalizing late with
  | begin world => simp at split
  | @call ms c h call ih =>
    have before := Moment.mem_pending_after (m := ⟨c, call⟩) left
    rcases split_of_concat split with ⟨rfl, rfl, rfl⟩ | ⟨rest, rfl, cut⟩
    · rcases before with old | ⟨-, now⟩
      · have held : c.session.requests.nextId ∈ c.session.requests.ids := by
          rw [← Moment.issued_eq issued]
          exact List.mem_map_of_mem old
        exact absurd held h.booked.next_not_pending
      · rw [at_] at now
        exact ⟨(Option.some.inj now).symm, List.forall_mem_nil _⟩
    · rcases before with old | ⟨again, -⟩
      · obtain ⟨issuedAt, since⟩ := ih cut old
        refine ⟨issuedAt, fun n mem => ?_⟩
        rcases List.mem_append.mp mem with mem | mem
        · exact since n mem
        · rw [List.mem_singleton.mp mem]
          exact ⟨old, left⟩
      · -- No id is given out twice.
        have there : c.session.requests.nextId ∈ Run.issued ms := by
          rw [← Moment.issued_eq again, cut]
          exact mem_issued issued
        exact absurd there h.booked.next_fresh
  | drain _ ih => exact ih split left
  | world _ _ ih => exact ih split left

/-- Once a tick has come at or beyond the instant of a request and the timeout, the request is not
outstanding any more. -/
theorem gone (h : Run (.create key target config generation serial mark) ms c)
    (split : ms = early ++ m :: late) (issued : m.issued? = some id) (at_ : m.now? = some t)
    {s : Stride σ} (mem : s ∈ strides late) {now : Instant} (ticks : s.Ticks now)
    (due : t + config.requestTimeout ≤ now) : id ∉ c.session.requests.ids := by
  intro left
  obtain ⟨⟨_, request⟩, entry, rfl⟩ := List.mem_map.mp left
  obtain ⟨issuedAt, since⟩ := h.entry_since split issued at_ entry
  have whole : s ∈ strides ms := by
    rw [split, strides, List.flatMap_append]
    exact List.mem_append_right _ (List.mem_append_right _ mem)
  obtain ⟨-, phase, sorted, same⟩ := h.found whole
  obtain ⟨⟨found, call⟩, there, mem⟩ := List.mem_flatMap.mp mem
  have leg := Stride.leg_of_mem_along mem
  rw [ticks.leg] at leg
  cases call with
  | pollTimers at_ =>
    have kinds := Moment.pending_subset_along [.connectTimeout, .heartbeat, .retry] found at_
    have after := kinds.2 s mem (since _ there).2
    have young := Stride.young_of_left phase sorted ticks after
    rw [same, Requests.isOld_of_le (by rw [issuedAt]; exact due)] at young
    cases young
  | _ => cases List.mem_singleton.mp leg

end Run

/-! ## How long a request is outstanding -/

/-- Only an open connection has a tick ahead. -/
theorem Session.InPhase.live_of_tick {s : Session} (h : InPhase s) {tick : Instant}
    (armed : s.timers.heartbeat.deadline = some tick) : s.state.isLive = true := by
  cases h with
  | resting h => rw [h.timers] at armed; cases armed
  | waiting h => obtain ⟨deadline, timers⟩ := h.timers; rw [timers] at armed; cases armed
  | attempting h => obtain ⟨deadline, timers⟩ := h.timers; rw [timers] at armed; cases armed
  | live h => exact h.state

namespace Stride

/-- The leg sets the next tick: it takes the one that is due, or it opens the connection. -/
def Arms (s : Stride σ) (now : Instant) : Prop :=
  s.Ticks now ∨ s.before.session.state.isLive = false ∧
    s.leg = .whole (.handleEvent s.before.session.connectionId .opened now)

variable {s : Stride σ} {tick : Instant}

omit [Environment σ] in
theorem Arms.now?_eq {now : Instant} (h : s.Arms now) : s.leg.now? = some now := by
  rcases h with ticks | ⟨-, opened⟩
  · rw [ticks.leg]
    rfl
  · rw [opened]
    rfl

/-- The next tick stays what it is, or it is set an interval ahead. -/
theorem arms_of_armed (single : s.leg.IsSingle) (phase : InPhase s.before.session)
    (armed : s.after.session.timers.heartbeat.deadline = some tick) :
    s.before.session.timers.heartbeat.deadline = some tick ∨
      ∃ now, s.Arms now ∧ tick = now + s.before.session.heartbeat.interval := by
  have left {P : Prop} (dead : s.after.session.state.isLive = false) : P := by
    rw [(s.inPhase phase).live_of_tick armed] at dead
    cases dead
  have set {slot : Heartbeat × TimerSlot} (watch : s.after.session.watch = slot) :
      slot.2.deadline = some tick := by
    rw [← watch]
    exact armed
  cases course single phase with
  | steady _ h => exact .inl (set h.watch)
  | answered _ _ _ watch => exact .inl (set watch)
  | @pings probe pings _ watch =>
    refine .inr ⟨probe.sentAt, .inl ⟨pings.ticks, pings.due, pings.live⟩, ?_⟩
    exact (Option.some.inj (set watch)).symm
  | silent _ _ _ _ _ h => exact left h.dead
  | leaves _ _ _ h => exact left h.dead
  | away _ _ h => exact left h.dead
  | @opens now found opened _ watch =>
    exact .inr ⟨now, .inr ⟨found.isLive_eq, opened⟩, (Option.some.inj (set watch)).symm⟩

theorem arms_along {c : Station σ} (phase : InPhase c.session) {legs : List Leg}
    (single : ∀ leg ∈ legs, leg.IsSingle)
    (armed : (legs.foldl Station.go c).session.timers.heartbeat.deadline = some tick) :
    c.session.timers.heartbeat.deadline = some tick ∨
      ∃ s ∈ along c legs, ∃ now, s.Arms now ∧ tick = now + c.session.heartbeat.interval := by
  induction legs generalizing c with
  | nil => exact .inl armed
  | cons leg legs ih =>
    have first := single leg List.mem_cons_self
    have later := ih (Stride.inPhase ⟨c, leg⟩ phase) (fun other mem => single other (.tail _ mem))
    rcases later armed with armed | ⟨s, mem, now, arms, set⟩
    · rcases arms_of_armed (s := ⟨c, leg⟩) first phase armed with armed | ⟨now, arms, set⟩
      · exact .inl armed
      · exact .inr ⟨_, List.mem_cons_self, now, arms, set⟩
    · rw [Stride.interval (s := ⟨c, leg⟩) first phase] at set
      exact .inr ⟨s, List.mem_cons_of_mem _ mem, now, arms, set⟩

end Stride

/-- A call leaves the next tick what it is, or sets it an interval ahead. While a connection is
open, only a tick does so. -/
theorem Moment.arms_of_armed {m : Moment σ} (phase : InPhase m.before.session) {tick : Instant}
    (armed : m.after.session.timers.heartbeat.deadline = some tick) :
    m.before.session.timers.heartbeat.deadline = some tick ∨
      ∃ now, m.now? = some now ∧ tick = now + m.before.session.heartbeat.interval ∧
        (m.before.session.state.isLive = true → ∃ s ∈ m.strides, s.Ticks now) := by
  rw [after, Station.perform_eq_foldl] at armed
  rcases Stride.arms_along phase (fun leg => Call.isSingle_of_mem_legs) armed with
    armed | ⟨s, mem, now, arms, set⟩
  · exact .inl armed
  · refine .inr ⟨now, (now?_of_mem mem).symm.trans arms.now?_eq, set, fun live => ?_⟩
    rcases arms with ticks | ⟨dead, opened⟩
    · exact ⟨s, mem, ticks⟩
    · -- What opens a connection is a call of its own.
      have leg := Stride.leg_of_mem_along mem
      obtain ⟨c, call⟩ := m
      rw [opened] at leg
      cases call with
      | pollTimers now => simp [Call.legs] at leg
      | _ =>
        rw [List.mem_singleton.mp mem, live] at dead
        cases dead

namespace Run

variable {key : String} {target : Target} {config : SessionConfig} {generation serial : Nat}
  {mark : String}
  {ms early late : List (Moment σ)} {m : Moment σ} {c : Station σ} {id : String} {t tick : Instant}

/-- The next tick was ahead when the calls began, or one of them set it. -/
theorem armed_since (h : Run (.create key target config generation serial mark) ms c)
    (split : ms = early ++ m :: late)
    (armed : c.session.timers.heartbeat.deadline = some tick) :
    m.before.session.timers.heartbeat.deadline = some tick ∨
      ∃ n ∈ m :: late, ∃ now, n.now? = some now ∧ tick = now + config.heartbeatInterval := by
  induction h generalizing late with
  | begin world => simp at split
  | @call ms c h call ih =>
    have last := Moment.arms_of_armed (m := ⟨c, call⟩) h.inPhase armed
    rw [h.march.interval] at last
    rcases split_of_concat split with ⟨rfl, rfl, rfl⟩ | ⟨rest, rfl, cut⟩
    · exact last.imp_right fun ⟨now, at_, set, _⟩ => ⟨_, List.mem_cons_self, now, at_, set⟩
    · rcases last with armed | ⟨now, at_, set, -⟩
      · exact (ih cut armed).imp_right fun ⟨n, mem, there⟩ =>
          ⟨n, List.mem_append_left [_] mem, there⟩
      · exact .inr ⟨_, List.mem_append_right (m :: rest) (List.mem_singleton_self _), now, at_, set⟩
  | drain _ ih => exact ih split armed
  | world _ _ ih => exact ih split armed

/-- While a request is outstanding over an open connection, the next tick comes no later than the
timeout and an interval after it. -/
theorem tick_bound (h : Run (.create key target config generation serial mark) ms c)
    (split : ms = early ++ m :: late) (issued : m.issued? = some id) (at_ : m.now? = some t)
    (near : ∀ tick ∈ m.before.session.timers.heartbeat.deadline,
      tick ≤ t + config.heartbeatInterval)
    (live : ∀ n ∈ late, n.before.session.state.isLive = true) (left : id ∈ c.session.requests.ids)
    (armed : c.session.timers.heartbeat.deadline = some tick) :
    tick ≤ t + config.requestTimeout + config.heartbeatInterval := by
  have later : t + config.heartbeatInterval ≤
      t + config.requestTimeout + config.heartbeatInterval :=
    Nat.add_le_add_right (Nat.le_add_right t.nanos _) _
  induction h generalizing late with
  | begin world => simp at split
  | @call ms c h call ih =>
    have last := Moment.arms_of_armed (m := ⟨c, call⟩) h.inPhase armed
    rw [h.march.interval] at last
    obtain ⟨⟨_, request⟩, entry, rfl⟩ := List.mem_map.mp left
    have since := ((h.call call).entry_since split issued at_ entry).2
    rcases split_of_concat split with ⟨rfl, rfl, rfl⟩ | ⟨rest, rfl, cut⟩
    · rcases last with armed | ⟨now, same, rfl, -⟩
      · exact Nat.le_trans (near tick armed) later
      · rw [at_] at same
        cases same
        exact later
    · have here : (⟨c, call⟩ : Moment σ) ∈ rest ++ [⟨c, call⟩] := by simp
      rcases last with armed | ⟨now, -, rfl, ticks⟩
      · exact ih cut (fun n mem => live n (List.mem_append_left _ mem))
          (List.mem_map_of_mem (since _ here).1) armed
      · -- The request outlasted the tick, so the tick found it young.
        obtain ⟨s, mem, ticks⟩ := ticks (live _ here)
        have young : ¬ t + config.requestTimeout ≤ now := fun due =>
          (h.call call).gone split issued at_ (List.mem_flatMap.mpr ⟨_, here, mem⟩) ticks due left
        exact Nat.add_le_add_right (Nat.le_of_not_le young) _
  | drain _ ih => exact ih split live left armed
  | world _ _ ih => exact ih split live left armed

end Run

/-- In calls over an open connection, from `first` on, the clock is not turned back and no tick is
left out. -/
structure Attended (interval : Duration) (first : Moment σ) (rest : List (Moment σ)) : Prop where
  /-- `first` found the connection open or opened it, and it stays so. -/
  live : ∀ m ∈ rest, m.before.session.state.isLive = true
  ordered : Run.Ordered (first :: rest)
  punctual : Run.Punctual rest
  /-- Nor was the clock turned back since the tick ahead was set, if one was so before. -/
  near : ∀ tick ∈ first.before.session.timers.heartbeat.deadline, ∀ m ∈ rest, ∀ now ∈ m.now?,
    tick ≤ now + interval

/-- The tick that is ahead when a request is made was set no later than the request. -/
theorem Attended.tick_near {key : String} {target : Target} {config : SessionConfig}
    {generation serial : Nat} {mark : String} {early mid rest late : List (Moment σ)}
    {first m : Moment σ}
    {t tick : Instant} (attended : Attended config.heartbeatInterval first rest)
    (h : Run (.create key target config generation serial mark) (early ++ first :: mid) m.before)
    (cut : rest = mid ++ m :: late) (at_ : m.now? = some t)
    (armed : m.before.session.timers.heartbeat.deadline = some tick) :
    tick ≤ t + config.heartbeatInterval := by
  have mem : m ∈ rest := by simp [cut]
  rcases h.armed_since rfl armed with earlier | ⟨n, there, now, set, rfl⟩
  · exact attended.near tick earlier m mem t at_
  · have ordered := attended.ordered
    rw [cut, ← List.cons_append] at ordered
    have le : now ≤ t :=
      (List.pairwise_append.mp ordered).2.2 n there m List.mem_cons_self now set t at_
    exact Nat.add_le_add_right le _

/-- When requests of a run that got to `c` expire. -/
structure Expiring (timeout interval : Duration) (ms : List (Moment σ)) (c : Station σ) : Prop where
  /-- The age of a request counts from the call that made it. -/
  issued : ∀ early m late, ms = early ++ m :: late → ∀ id t, m.issued? = some id → m.now? = some t →
    ∀ request, (id, request) ∈ c.session.requests.pending → request.issuedAt = t
  /-- A request times out at a tick of an open connection and nowhere else. -/
  ticks : ∀ m ∈ ms, ∀ outcome ∈ m.outcomes, outcome.isTimeout = true →
    ∃ s ∈ m.strides, outcome ∈ s.outcomes ∧ ∃ now, s.Ticks now
  /-- A tick times out the old requests, each once and under its own id. -/
  exact : ∀ s ∈ Run.strides ms, ∀ now, s.Ticks now → s.outcomes.filter Outcome.isTimeout =
    (s.before.session.requests.pending.filter fun entry => Requests.isOld now timeout entry.2).map
      fun entry => ⟨entry.1, .error (.requestTimeout entry.1)⟩
  /-- A tick that keeps the connection leaves the young ones as they are; -/
  kept : ∀ s ∈ Run.strides ms, ∀ now, s.Ticks now → s.after.session.state.isLive = true →
    s.after.session.requests.pending =
      s.before.session.requests.pending.filter fun entry => !Requests.isOld now timeout entry.2
  /-- and one that gives it up fails them as any teardown does. -/
  lost : ∀ s ∈ Run.strides ms, ∀ now, s.Ticks now → s.after.session.state.isLive = false →
    s.after.session.requests.pending = [] ∧ ∀ entry ∈ s.before.session.requests.pending,
      Requests.isOld now timeout entry.2 = false →
        ⟨entry.1, .error .connectionClosed⟩ ∈ s.outcomes
  /-- No old request is left after a tick. -/
  young : ∀ s ∈ Run.strides ms, ∀ now, s.Ticks now → ∀ entry ∈ s.after.session.requests.pending,
    Requests.isOld now timeout entry.2 = false
  /-- So a request does not outlast a tick that comes at its instant and the timeout, or beyond. -/
  gone : ∀ early m late, ms = early ++ m :: late → ∀ id (t : Instant), m.issued? = some id →
    m.now? = some t → ∀ s ∈ Run.strides late, ∀ now, s.Ticks now → t + timeout ≤ now →
      id ∉ c.session.requests.ids
  /-- While the connection is attended to, no request is outstanding for longer than the timeout and
  one interval. -/
  within : ∀ early first rest, ms = early ++ first :: rest → Attended interval first rest →
    ∀ mid m late, rest = mid ++ m :: late → ∀ id (t : Instant), m.issued? = some id →
      m.now? = some t → ∀ n ∈ late, id ∈ n.before.session.requests.ids → ∀ now ∈ n.now?,
        now ≤ t + timeout + interval

/-- In every run, over every world, requests expire in time and not before. -/
theorem run_expiring {key : String} {target : Target} {config : SessionConfig}
    {generation serial : Nat} {mark : String} {ms : List (Moment σ)} {c : Station σ}
    (h : Run (.create key target config generation serial mark) ms c) :
    Expiring config.requestTimeout config.heartbeatInterval ms c where
  issued early m late split id t issued at_ request left := (h.entry_since split issued at_ left).1
  ticks m mem outcome told out := by
    rw [m.outcomes_eq_strides] at told
    obtain ⟨s, here, told⟩ := List.mem_flatMap.mp told
    obtain ⟨single, phase, sorted, -⟩ := h.found (List.mem_flatMap.mpr ⟨m, mem, here⟩)
    exact ⟨s, here, told, Stride.ticks_of_timeout single phase sorted told out⟩
  exact s mem now ticks := by
    obtain ⟨-, phase, sorted, same⟩ := h.found mem
    rw [Stride.timeouts_of_ticks phase sorted ticks, same]
  kept s mem now ticks alive := by
    obtain ⟨-, phase, sorted, same⟩ := h.found mem
    obtain ⟨lost, expires⟩ := Stride.expires phase sorted ticks
    rw [expires.kept alive, same]
    rfl
  lost s mem now ticks dead := by
    obtain ⟨-, phase, sorted, same⟩ := h.found mem
    rw [← same]
    exact Stride.lost_of_ticks phase sorted ticks dead
  young s mem now ticks entry left := by
    obtain ⟨-, phase, sorted, same⟩ := h.found mem
    rw [← same]
    exact Stride.young_of_left phase sorted ticks left
  gone early m late split id t issued at_ s mem now ticks due :=
    h.gone split issued at_ mem ticks due
  within early first rest split attended mid m late cut id t issued at_ n mem left now here := by
    obtain ⟨between, later, rfl⟩ := List.append_of_mem mem
    have fore : ms = (early ++ first :: mid) ++ m :: (between ++ n :: later) := by
      rw [split, cut, List.append_assoc]
      rfl
    have aft : ms = ((early ++ first :: mid) ++ m :: between) ++ n :: later := by
      rw [fore, List.append_assoc _ (m :: between)]
      rfl
    have last : n ∈ rest := by simp [cut]
    have run := h.before aft
    obtain ⟨tick, slot⟩ := (run.inPhase.live_of (attended.live n last)).tick
    have ahead : n.before.session.timers.heartbeat.deadline = some tick := by rw [slot]; rfl
    have bound : tick ≤ t + config.requestTimeout + config.heartbeatInterval :=
      run.tick_bound rfl issued at_ (fun _ => attended.tick_near (h.before fore) cut at_)
        (fun other mem => attended.live other (by simp [cut, mem])) left ahead
    exact Nat.le_trans (attended.punctual n last now here tick ahead) bound

end Expiry

/-- The first request is old at the second tick, and the one made after the first tick is not. -/
theorem run_expiring_stale :
    ∃ (early : List (Moment ScriptedNetwork)) (first : Moment ScriptedNetwork)
      (rest : List (Moment ScriptedNetwork)) (ms : List (Moment ScriptedNetwork))
      (c : Station ScriptedNetwork), ms = early ++ first :: rest ∧
      Run (.create "k" default
        { heartbeatInterval := .clamp 10, requestTimeout := .clamp 15 } 0 1 "s0000001")
        ms c ∧ Attended (.clamp 10) first rest ∧
      (Run.outcomes ms).map (fun outcome => (outcome.requestId, outcome.isTimeout)) =
        [("s0000001-1", true)] ∧
      c.session.requests.ids = ["s0000001-3"] ∧ Expiring (.clamp 15) (.clamp 10) ms c :=
  have begun : Run (.create "k" default
      { heartbeatInterval := .clamp 10, requestTimeout := .clamp 15 } 0 1 "s0000001") []
      ⟨_, ({} : ScriptedNetwork)⟩ := .begin _
  have opened := (begun.call (.connect ⟨0⟩)).call (.handleEvent ⟨"k", 1⟩ .opened ⟨0⟩)
  have asked := (opened.call (.request 16 {} none ⟨2⟩)).call (.pollTimers ⟨10⟩)
  have answered := asked.call (.handleEvent ⟨"k", 1⟩
    (.frame (((Message.pong ⟨none, "s0000001-2", none, none⟩).encode none).toOption.getD [])) ⟨12⟩)
  have run := (answered.call (.request 16 {} none ⟨13⟩)).call (.pollTimers ⟨20⟩)
  ⟨[_], _, _, _, _, rfl, run, ⟨by decide +kernel, by decide +kernel, by decide +kernel,
    by decide +kernel⟩, by decide +kernel, by decide +kernel, run_expiring run⟩

end Switchboard
