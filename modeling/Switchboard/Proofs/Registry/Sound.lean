import Switchboard.Proofs.Registry.History
import Switchboard.Proofs.Session.Coherence
import Switchboard.Scripted.Network
/-!
# The sessions of a registry

Every registered session stands under its own key, has nothing left to publish and is the end of a
run of its own, so that what holds of the runs of sessions holds of it (`Owned`). Serial numbers
below the next one are used up.

An event that does not come from the transport that the registered session holds changes nothing
(`handleTransportEvent_stale`). The registry looks at the key of the event only, and the session
only compares the whole id with the one that its next transport would have; that a session without a
transport turns such an event down is due to its state, by the phases of `Session.InPhase`.
-/

namespace Switchboard

open Session (InPhase)

namespace Station

variable {σ : Type} [Environment σ] {c : Station σ}

/-- A session that neither attempts nor is connected turns every event down. -/
theorem handleEvent_of_idle (idle : c.session.state.isAttempting = false)
    (dead : c.session.state.isLive = false) (id : ConnectionId) (event : TransportEvent)
    (now : Instant) : c.handleEvent id event now = c := by
  unfold handleEvent
  split
  · cases event <;> simp [opened, receive, lost, idle, dead]
  · rfl

/-- An event that is not of the transport held changes nothing. -/
theorem handleEvent_stale (h : InPhase c.session) {id : ConnectionId}
    (stale : c.session.transport ≠ some id) (event : TransportEvent) (now : Instant) :
    c.handleEvent id event now = c := by
  -- A transport that is held bears the id that events are compared with.
  have other (held : c.session.transport = some c.session.connectionId) :
      c.handleEvent id event now = c := by
    unfold handleEvent
    rw [if_neg]
    rintro rfl
    exact stale held
  cases h with
  | resting h => exact handleEvent_of_idle h.isAttempting_eq h.isLive_eq id event now
  | waiting h => exact handleEvent_of_idle h.isAttempting_eq h.isLive_eq id event now
  | attempting h => exact other h.transport
  | live h => exact other h.transport

end Station

namespace Registry

variable {σ : Type}

theorem publish_of_drained (r : Registry σ) {s : Session} (h : s.journal = []) :
    r.publish s = r := by
  unfold publish
  rw [h]
  simp

theorem find?_shelve (r : Registry σ) {c : Station σ} {key : String} (home : c.session.key = key) :
    KeyMap.find? key (r.shelve c).sessions = some c.session.drained := by
  subst home
  exact KeyMap.find?_insert_self _ _ _

theorem find?_shelve_of_ne (r : Registry σ) {c : Station σ} {key other : String}
    (home : c.session.key = key) (h : other ≠ key) :
    KeyMap.find? other (r.shelve c).sessions = KeyMap.find? other r.sessions := by
  subst home
  exact KeyMap.find?_insert_of_ne h _ _

/-- Putting a session back that nothing was done to changes nothing. -/
theorem shelve_self {r : Registry σ} {s : Session} (sorted : KeyMap.Sorted r.sessions)
    (found : KeyMap.find? s.key r.sessions = some s) (journal : s.journal = []) :
    r.shelve ⟨s, r.world⟩ = r := by
  have drained : s.drained = s := by
    unfold Session.drained
    rw [← journal]
  unfold shelve
  rw [publish_of_drained _ journal]
  dsimp only
  rw [drained, KeyMap.insert_eq_self sorted found]

theorem Entry.nextSerial_le {r : Registry σ} {key : String} {s : Session} {nextSerial : Nat}
    (entry : Entry r key s nextSerial) : r.nextSerial ≤ nextSerial := by
  cases entry with
  | found => exact Nat.le_refl _
  | fresh => exact Nat.le_succ _

variable [Environment σ]

/-- A session of the registry. -/
structure Owned (r : Registry σ) (key : String) (s : Session) : Prop where
  home : s.key = key
  /-- All that it did is published. -/
  journal : s.journal = []
  serial : s.serial < r.nextSerial
  history : ∃ target config generation, ∃ ms : List (Moment σ), ∃ world,
    Run (.create key target config generation s.serial (r.marks s.serial)) ms ⟨s, world⟩

namespace Owned

variable {r r' : Registry σ} {key : String} {s : Session}

theorem mono (h : Owned r key s) (le : r.nextSerial ≤ r'.nextSerial) (marks : r'.marks = r.marks) :
    Owned r' key s := by
  refine ⟨h.home, h.journal, Nat.lt_of_lt_of_le h.serial le, ?_⟩
  rw [marks]
  exact h.history

theorem inPhase (h : Owned r key s) : InPhase s := by
  obtain ⟨_, _, _, _, _, run⟩ := h.history
  exact run.inPhase

/-- The owner makes a call and takes the journal. -/
theorem call (h : Owned r key s) (world : σ) (call : Switchboard.Call) :
    Owned r key (Moment.mk ⟨s, world⟩ call).after.session.drained := by
  have same := (Moment.mk ⟨s, world⟩ call).sameIdentity
  obtain ⟨target, config, generation, ms, _, run⟩ := h.history
  have longer := ((run.world world).call call).drain
  rw [← same.serial] at longer
  exact ⟨same.key.trans h.home, rfl, Nat.lt_of_le_of_lt (Nat.le_of_eq same.serial) h.serial, target,
    config, generation, _, _, longer⟩

end Owned

/-- Sessions stand in key order, each under its own key. -/
structure Sound (r : Registry σ) : Prop where
  sorted : KeyMap.Sorted r.sessions
  owned : ∀ {key : String} {s : Session}, KeyMap.find? key r.sessions = some s → Owned r key s

theorem Entry.owned {r : Registry σ} (h : Sound r) {key : String} {s : Session} {nextSerial : Nat}
    (entry : Entry r key s nextSerial) : Owned { r with nextSerial } key s := by
  cases entry with
  | found found => exact h.owned found
  | fresh free target config =>
    exact ⟨rfl, rfl, Nat.lt_succ_self _, target, config, r.generationOf key, [], r.world, .begin _⟩

theorem takeOut_eq {r : Registry σ} {key : String} {s : Session}
    (found : KeyMap.find? key r.sessions = some s) :
    (r.takeOut key).2 =
      ({ r with
        sessions := KeyMap.erase key r.sessions
        world := (Moment.mk ⟨s, r.world⟩ .close).after.world
        retired := KeyMap.insert (Moment.mk ⟨s, r.world⟩ .close).after.session.key
          (Moment.mk ⟨s, r.world⟩ .close).after.session.generation r.retired } : Registry σ).publish
        (Moment.mk ⟨s, r.world⟩ .close).after.session := by
  unfold takeOut
  rw [found]
  rfl

theorem Touch.sound {cause : Operation} {r r' : Registry σ} {ids : List (String × String)}
    (touch : Touch cause r ids r') (h : Sound r) : Sound r' := by
  cases touch with
  | listen => exact ⟨h.sorted, fun found => (h.owned found).mono (Nat.le_refl _) rfl⟩
  | @call key s nextSerial entry call =>
    have owned := (entry.owned h).call r.world call
    have home : (Moment.mk ⟨s, r.world⟩ call).after.session.key = key := owned.home
    refine ⟨KeyMap.sorted_insert _ _ h.sorted, fun {other t} found => ?_⟩
    by_cases same : other = key
    · subst same
      rw [find?_shelve _ home, Option.some.injEq] at found
      rw [← found]
      exact owned.mono (Nat.le_refl _) rfl
    · rw [find?_shelve_of_ne _ home same] at found
      exact (h.owned found).mono entry.nextSerial_le rfl
  | @retire key s found =>
    have taken := takeOut_eq found
    have kept : r.nextSerial ≤ (r.takeOut key).2.nextSerial := by rw [taken]; exact Nat.le_refl _
    have marks : (r.takeOut key).2.marks = r.marks := by rw [taken]; rfl
    refine ⟨by rw [taken]; exact KeyMap.sorted_erase key h.sorted, fun {other t} found => ?_⟩
    by_cases same : other = key
    · subst same
      rw [find?_takeOut] at found
      cases found
    · rw [find?_takeOut_of_ne r same] at found
      exact (h.owned found).mono kept marks

theorem Touches.sound {cause : Operation} {r r' : Registry σ} {ids : List (String × String)}
    (touches : Touches cause r ids r') (h : Sound r) : Sound r' := by
  induction touches with
  | refl => exact h
  | tail _ touch ih => exact touch.sound ih

theorem History.sound {ts : List (Turn σ)} {r : Registry σ} (h : History ts r) : Sound r := by
  induction h with
  | begin world defaults marks => exact ⟨List.Pairwise.nil, nofun⟩
  | turn _ operation ih => exact (touches_operate _ operation).sound ih
  | drainActs _ ih => exact ⟨ih.sorted, fun found => (ih.owned found).mono (Nat.le_refl _) rfl⟩
  | drainNotices _ ih => exact ⟨ih.sorted, fun found => (ih.owned found).mono (Nat.le_refl _) rfl⟩
  | world _ _ ih => exact ⟨ih.sorted, fun found => (ih.owned found).mono (Nat.le_refl _) rfl⟩

/-- An event changes nothing in a registry, neither a session nor the world nor what was published,
unless it comes from the transport that the session under its key holds. -/
theorem handleTransportEvent_stale {ts : List (Turn σ)} {r : Registry σ} (h : History ts r)
    {id : ConnectionId}
    (stale : ∀ s, KeyMap.find? id.key r.sessions = some s → s.transport ≠ some id)
    (event : TransportEvent) (now : Instant) : r.handleTransportEvent id event now = r := by
  unfold handleTransportEvent
  cases found : KeyMap.find? id.key r.sessions with
  | none => rw [onSession_of_unknown found]
  | some s =>
    have owned := h.sound.owned found
    rw [onSession_of_known found]
    dsimp only [always]
    rw [Station.handleEvent_stale owned.inPhase (stale s found)]
    exact shelve_self h.sound.sorted (by rw [owned.home]; exact found) owned.journal

/-- A first attempt is refused. The session has retired the generation of the attempt, so the id of
the event is the one that its next transport would have, and still the event changes nothing. -/
theorem handleTransportEvent_stale_refused :
    ∃ (ts : List (Turn ScriptedNetwork)) (r : Registry ScriptedNetwork),
      History ts r ∧
        (KeyMap.find? "k" r.sessions).map Session.connectionId = some ⟨"k", 2⟩ ∧
        (∀ s, KeyMap.find? "k" r.sessions = some s → s.transport ≠ some ⟨"k", 2⟩) ∧
        r.handleTransportEvent ⟨"k", 2⟩ .opened ⟨0⟩ = r :=
  have begun : History [] _ := .begin ({ refuseNext := 1 } : ScriptedNetwork) {} scriptedMark
  have history := begun.turn (.connect "k" default none ⟨0⟩)
  have free : ∀ s, KeyMap.find? "k" (_ : Registry ScriptedNetwork).sessions = some s →
      s.transport ≠ some ⟨"k", 2⟩ := by
    rintro s ⟨⟩
    nofun
  ⟨_, _, history, by decide, free, handleTransportEvent_stale history free .opened ⟨0⟩⟩

end Registry

end Switchboard
