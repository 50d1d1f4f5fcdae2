import Switchboard.Proofs.Registry.Subscribers
import Switchboard.Proofs.Registry.Transports
import Switchboard.Proofs.Session.Lockstep
import Switchboard.Proofs.Session.Provenance
/-!
# What belongs to a key

Two registries agree about a key (`Agree`) if they have the same session under it, the same
subscriptions that may be told of it, the same generation to go on from, and have published the same
acts and notices about it, in worlds that look the same. What is done under other keys keeps a
registry in agreement with itself, step by step; and registries that agree about a key still do
after both have polled its session (`Agree.pollKey`).
-/

namespace Switchboard

/-- The key of the session that a notice is about. -/
def Notice.key : Notice → String
  | .status _ event => event.key
  | .data _ event => event.key

/-- The notices about a key. -/
def about (key : String) (notices : List Notice) : List Notice :=
  notices.filter fun notice => notice.key = key

theorem about_append (key : String) (notices more : List Notice) :
    about key (notices ++ more) = about key notices ++ about key more := List.filter_append ..

namespace Registry

variable {σ α : Type} {view : σ → α} {r r' r'' : Registry σ} {key other : String}

/-- What a registry has under a key and tells about it is the same as in another one. -/
structure Agree (view : σ → α) (key : String) (r r' : Registry σ) : Prop where
  session : KeyMap.find? key r'.sessions = KeyMap.find? key r.sessions
  listeners : r'.listeners key = r.listeners key
  statusListeners : r'.statusListeners = r.statusListeners
  retired : KeyMap.find? key r'.retired = KeyMap.find? key r.retired
  acts : under key r'.acts = under key r.acts
  notices : about key r'.notices = about key r.notices
  view : view r'.world = view r.world

namespace Agree

theorem refl (r : Registry σ) : Agree view key r r := ⟨rfl, rfl, rfl, rfl, rfl, rfl, rfl⟩

theorem trans (h : Agree view key r r') (k : Agree view key r' r'') : Agree view key r r'' :=
  ⟨k.session.trans h.session, k.listeners.trans h.listeners,
    k.statusListeners.trans h.statusListeners, k.retired.trans h.retired,
    k.acts.trans h.acts, k.notices.trans h.notices, k.view.trans h.view⟩

end Agree

/-! ## Notices about other keys -/

theorem deliveries_congr {event : DataEvent}
    (same : r'.listeners event.key = r.listeners event.key) :
    r'.deliveries event = r.deliveries event := by
  unfold deliveries
  rw [same]

/-- Registries that agree about a key agree about it when they get the same session back. -/
theorem Agree.shelve (h : Agree view key r r') {c d : Station σ} (session : d.session = c.session)
    (home : c.session.key = key) (seen : view d.world = view c.world) :
    Agree view key (r.shelve c) (r'.shelve d) where
  session := by
    rw [find?_shelve r home, find?_shelve r' (session ▸ home), session]
  listeners := h.listeners
  statusListeners := h.statusListeners
  retired := h.retired
  acts := by
    have published (r : Registry σ) (c : Station σ) (home : c.session.key = key) :
        under key (r.shelve c).acts = under key r.acts ++ c.session.journal := by
      subst home
      exact (under_append ..).trans (congrArg _ (under_map_self ..))
    rw [published r' d (session ▸ home), published r c home, session, h.acts]
  notices := by
    have heard (inbound : Inbound) :
        r'.deliveries (.ofInbound c.session.key c.session.target inbound) =
          r.deliveries (.ofInbound c.session.key c.session.target inbound) := by
      refine deliveries_congr ?_
      rw [show (DataEvent.ofInbound c.session.key c.session.target inbound).key = key from home]
      exact h.listeners
    rw [notices_shelve, notices_shelve, session, announcements_congr h.statusListeners,
      funext heard]
    simp only [about_append, h.notices]
  view := seen

variable [Environment σ]

/-- The invariants of a registry, with some trace that it tracks. -/
structure Steady (r : Registry σ) : Prop where
  sound : Sound r
  tracks : ∃ trace, r.Tracks trace

theorem Touches.steady {cause : Operation} {ids : List (String × String)}
    (touches : Touches cause r ids r') (h : Steady r) : Steady r' := by
  obtain ⟨trace, tracks⟩ := h.tracks
  obtain ⟨more, -, later⟩ := touches.tracks h.sound tracks
  exact ⟨touches.sound h.sound, trace ++ more, later⟩

theorem History.steady {ts : List (Turn σ)} (h : History ts r) : Steady r := by
  obtain ⟨traces, -, tracks⟩ := h.tracks
  exact ⟨h.sound, _, tracks⟩

theorem Steady.takeOut (h : Steady r) (key : String) : Steady (r.takeOut key).2 := by
  have taken : Touches .shutdown r [] (r.takeOut key).2 := touches_takeOut r key
  exact taken.steady h

theorem Steady.pollKey (h : Steady r) (now : Instant) (key : String) :
    Steady (r.pollKey now key) := by
  have polled : Touches (.pollTimers now) r [] (r.pollKey now key) := touches_pollKey r now key
  exact polled.steady h

/-! ## What is done under another key -/

/-- Registries that agree about a key poll its session to the same effect. -/
theorem Agree.pollKey {ω : Type} {P : Partition σ ω} (h : Agree (P.view key) key r r')
    (sound : Sound r) (now : Instant) :
    Agree (P.view key) key (r.pollKey now key) (r'.pollKey now key) := by
  unfold Registry.pollKey
  cases found : KeyMap.find? key r.sessions with
  | none =>
    rw [onSession_of_unknown found, onSession_of_unknown (h.session.trans found)]
    exact h
  | some s =>
    have foundToo := h.session.trans found
    have owned := sound.owned found
    have step : Station.InStep P ⟨s, r.world⟩ ⟨s, r'.world⟩ :=
      ⟨rfl, by rw [owned.home]; exact h.view.symm, owned.inPhase.own⟩
    obtain ⟨session, seen, -⟩ := step.pollTimers now
    have home : (Station.pollTimers ⟨s, r.world⟩ now).session.key = key :=
      (owned.call r.world (.pollTimers now)).home
    rw [home] at seen
    rw [onSession_of_known found, onSession_of_known foundToo]
    exact h.shelve session home seen.symm

end Registry

end Switchboard
