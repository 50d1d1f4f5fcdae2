import Switchboard.Proofs.Registry.Succession
import Switchboard.Proofs.Session.Deadlines
import Switchboard.Scripted.Network
/-!
# When a registry wants to be polled

The next deadline of a registry is the earliest of its sessions', and it is as exact as theirs
(`Registry.Sound.exact`): a poll before it changes nothing at all, and a poll at it or after it
polls every session that has a task due, and leaves the others alone. If all waits of all sessions
take time, one poll does all that is due, so that whoever sleeps until the next deadline and then
polls never wakes twice at one instant.
-/

namespace Switchboard

namespace Registry

variable {σ : Type} [Environment σ] {r : Registry σ} {key : String} {s : Session} {now : Instant}

/-- A session of the registry is the end of a run, whatever world it is polled in. -/
theorem Owned.exact (h : Owned r key s) (world : σ) : Station.Exact ⟨s, world⟩ := by
  obtain ⟨target, config, generation, ms, _, run⟩ := h.history
  exact (run.world world).exact

omit [Environment σ] in
theorem mem_dueKeys_iff (sorted : KeyMap.Sorted r.sessions) : key ∈ r.dueKeys now ↔
    ∃ s, KeyMap.find? key r.sessions = some s ∧
      ∃ deadline ∈ s.nextDeadline, deadline ≤ now := by
  unfold dueKeys KeyMap.keys
  rw [List.mem_map]
  constructor
  · rintro ⟨⟨other, s⟩, mem, rfl⟩
    obtain ⟨there, due⟩ := List.mem_filter.mp mem
    refine ⟨s, (KeyMap.find?_eq_some_iff sorted).mpr there, ?_⟩
    cases next : s.nextDeadline with
    | none =>
      simp only [next] at due
      cases due
    | some deadline =>
      simp only [next] at due
      exact ⟨deadline, rfl, of_decide_eq_true due⟩
  · rintro ⟨s, found, deadline, next, due⟩
    refine ⟨(key, s), List.mem_filter.mpr ⟨KeyMap.mem_of_find? found, ?_⟩, rfl⟩
    simp only [Option.mem_def.mp next]
    exact decide_eq_true due

/-- The poll of a registry polls the session under a key, in the world as the polls before it left
it, and publishes what it does. -/
structure Polls (r : Registry σ) (now : Instant) (key : String) (s : Session) (world : σ) :
    Prop where
  after : KeyMap.find? key (r.pollTimers now).sessions =
    some (Moment.mk ⟨s, world⟩ (.pollTimers now)).after.session.drained
  published : Publishes key r (Moment.mk ⟨s, world⟩ (.pollTimers now)).acts (r.pollTimers now)

/-- A poll polls the sessions that have a task due, and no others. -/
theorem polls_or_untouched (sound : Sound r) (now : Instant) (key : String) :
    (∃ s world, KeyMap.find? key r.sessions = some s ∧
        (∃ deadline ∈ s.nextDeadline, deadline ≤ now) ∧ Polls r now key s world) ∨
      key ∉ r.dueKeys now ∧ Untouched key r (r.pollTimers now) := by
  have others {b : Registry σ} {other : String} (sound : Sound b) (ne : key ≠ other) :
      Untouched key b (b.pollKey now other) :=
    untouched_onSession sound ne (.pollTimers now) fun _ => rfl
  rcases foldl_alone (Untouched.refl key) .trans (fun sound => sound.pollKey now _) others
    (nodup_dueKeys sound now) sound with untouched | ⟨due, b, soundToo, early, late⟩
  · exact .inr untouched
  · obtain ⟨s, found, overdue⟩ := (mem_dueKeys_iff sound.sorted).mp due
    have there : KeyMap.find? key b.sessions = some s := early.session.trans found
    obtain ⟨after, acts, -⟩ := shelved soundToo (.found there) (.pollTimers now)
    have polled : b.pollKey now key = ({ b with nextSerial := b.nextSerial }).shelve
        (Moment.mk ⟨s, b.world⟩ (.pollTimers now)).after := by
      unfold pollKey
      rw [onSession_of_known there]
      rfl
    rw [polled] at late
    refine .inl ⟨s, b.world, found, overdue, late.session.trans after, ?_⟩
    have all := (early.acts.trans acts).trans late.acts
    rwa [List.nil_append, List.append_nil] at all

/-- The next deadline of a registry tells exactly when it must be polled. -/
structure Exact (r : Registry σ) : Prop where
  /-- It is the next deadline of a session, -/
  attained : ∀ deadline ∈ r.nextDeadline, ∃ key s,
    KeyMap.find? key r.sessions = some s ∧ deadline ∈ s.nextDeadline
  /-- and no session has an earlier one. -/
  least : ∀ key s, KeyMap.find? key r.sessions = some s → ∀ deadline ∈ s.nextDeadline,
    ∃ first ∈ r.nextDeadline, first ≤ deadline
  /-- A poll before it changes nothing: no session, not the world, and nothing that was
  published. -/
  early : ∀ now, (∀ deadline ∈ r.nextDeadline, now < deadline) → r.pollTimers now = r
  /-- A poll uses every task that a session was armed with for the instant or for earlier, -/
  due : ∀ now key s, KeyMap.find? key r.sessions = some s → ∀ deadline ∈ s.nextDeadline,
    deadline ≤ now → ∃ world, Polls r now key s world ∧ Station.Uses ⟨s, world⟩ now deadline
  /-- and leaves the other sessions alone. -/
  others : ∀ now key s, KeyMap.find? key r.sessions = some s →
    (∀ deadline ∈ s.nextDeadline, now < deadline) → Untouched key r (r.pollTimers now)
  /-- If all waits of all sessions take time, one poll does all that is due. -/
  drained : (∀ key s, KeyMap.find? key r.sessions = some s → s.config.Paced) →
    ∀ now, ∀ deadline ∈ (r.pollTimers now).nextDeadline, now < deadline

omit [Environment σ] in
theorem nextDeadline_mem (sorted : KeyMap.Sorted r.sessions) {deadline : Instant}
    (next : deadline ∈ r.nextDeadline) :
    ∃ key s, KeyMap.find? key r.sessions = some s ∧ deadline ∈ s.nextDeadline := by
  obtain ⟨⟨key, s⟩, mem, armed⟩ := List.mem_map.mp (Instant.earliest_mem next)
  exact ⟨key, s, (KeyMap.find?_eq_some_iff sorted).mpr mem, armed⟩

omit [Environment σ] in
theorem nextDeadline_le (found : KeyMap.find? key r.sessions = some s) {deadline : Instant}
    (armed : deadline ∈ s.nextDeadline) : ∃ first ∈ r.nextDeadline, first ≤ deadline :=
  Instant.earliest_le (List.mem_map.mpr ⟨(key, s), KeyMap.mem_of_find? found, armed⟩)

theorem Sound.exact (sound : Sound r) : Exact r where
  attained deadline next := nextDeadline_mem sound.sorted next
  least key s found deadline armed := nextDeadline_le found armed
  early now later := by
    have none : r.dueKeys now = [] := by
      apply List.eq_nil_iff_forall_not_mem.mpr
      intro key mem
      obtain ⟨s, found, deadline, armed, due⟩ := (mem_dueKeys_iff sound.sorted).mp mem
      obtain ⟨first, next, le⟩ := nextDeadline_le found armed
      exact absurd (Nat.le_trans le due) (Nat.not_le_of_lt (later first next))
    unfold pollTimers
    rw [none]
    rfl
  due now key s found deadline armed le := by
    rcases polls_or_untouched sound now key with
      ⟨t, world, there, -, polls⟩ | ⟨absent, -⟩
    · rw [found] at there
      cases there
      exact ⟨world, polls, ((sound.owned found).exact world).due now deadline armed le⟩
    · exact absurd ((mem_dueKeys_iff sound.sorted).mpr ⟨s, found, deadline, armed, le⟩) absent
  others now key s found later := by
    rcases polls_or_untouched sound now key with
      ⟨t, world, there, ⟨deadline, armed, due⟩, -⟩ | ⟨-, same⟩
    · rw [found] at there
      cases there
      exact absurd due (Nat.not_le_of_lt (later deadline armed))
    · exact same
  drained paced now deadline next := by
    have soundToo : Sound (r.pollTimers now) :=
      (touches_operate r (.pollTimers now)).sound sound
    obtain ⟨key, t, after, armed⟩ := nextDeadline_mem soundToo.sorted next
    rcases polls_or_untouched sound now key with
      ⟨s, world, found, -, polls⟩ | ⟨absent, same⟩
    · rw [polls.after] at after
      cases after
      exact ((sound.owned found).exact world).drained (paced key s found) now deadline armed
    · rw [same.session] at after
      apply Nat.lt_of_not_le
      intro due
      exact absent ((mem_dueKeys_iff sound.sorted).mpr ⟨t, after, deadline, armed, due⟩)

/-- In every run of a session and in every history of a registry, over every world, the next
deadline tells exactly when to poll. -/
theorem deadlines_exact (σ : Type) [Environment σ] :
    (∀ {key : String} {target : Target} {config : SessionConfig} {generation serial : Nat}
    {mark : String}
      {ms : List (Moment σ)} {c : Station σ},
      Run (.create key target config generation serial mark) ms c → c.Exact) ∧
    ∀ {ts : List (Turn σ)} {r : Registry σ}, History ts r → Exact r :=
  ⟨Run.exact, fun h => h.sound.exact⟩

/-- One session waits to retry and another for its transport to open. When both are overdue one poll
fails an attempt of each, and all that is due then lies in the future. -/
theorem deadlines_exact_overdue :
    ∃ (ts : List (Turn ScriptedNetwork)) (r : Registry ScriptedNetwork)
      (ms : List (Moment ScriptedNetwork)) (c : Station ScriptedNetwork),
      History ts r ∧ Run (.create "k" default {} 0 1 "s0000001") ms c ∧
        r.nextDeadline = some ⟨10000000000⟩ ∧ r.dueKeys ⟨60000000000⟩ = ["a", "b"] ∧
        (r.pollTimers ⟨60000000000⟩).nextDeadline = some ⟨61000000000⟩ ∧
        (c.session.nextDeadline = some ⟨30000000000⟩ ∧ c.session.config.Paced) ∧
        c.Exact ∧ Exact r :=
  have begun : History [] _ := .begin ({ refuseNext := 1 } : ScriptedNetwork) {} scriptedMark
  have both := (begun.turn (.connect "a" default none ⟨0⟩)).turn (.connect "b" default none ⟨0⟩)
  have history := both.turn (.pollTimers ⟨1000000000⟩)
  have started : Run (.create "k" default {} 0 1 "s0000001") [] ⟨_, ({} : ScriptedNetwork)⟩ :=
    .begin _
  have run := (started.call (.connect ⟨0⟩)).call (.handleEvent ⟨"k", 1⟩ .opened ⟨0⟩)
  ⟨_, _, _, _, history, run, by decide +kernel, by decide +kernel, by decide +kernel,
    ⟨by decide +kernel, by decide +kernel, by decide +kernel, by decide +kernel,
      by decide +kernel⟩, (deadlines_exact ScriptedNetwork).1 run,
    (deadlines_exact ScriptedNetwork).2 history⟩

end Registry

end Switchboard
