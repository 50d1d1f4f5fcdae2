import Switchboard.Proofs.Registry.Succession
import Switchboard.Proofs.Session.Endings
import Switchboard.Proofs.Session.Milestones
/-!
# The lives of registered sessions

A registered session has lived through calls since it was created, and what they did is what was
published under its key since then (`Registry.Lived`). Every session that is registered has such a
life (`Registry.History.lived`), so that what is known of a run of calls is known of it: an
ongoing session stays so in an operation, or it is given up for one of few reasons
(`Registry.Turn.ongoingOrEnded`).
-/

namespace Switchboard

open Session (Ongoing Resting Exhausted)

/-- A session enters the connected state in no call but the report of an event, and then it is
connected at the end of the call. -/
theorem Moment.connected_of_entered {σ : Type} [Environment σ] {m : Moment σ} {event : StatusEvent}
    (mem : .entered event ∈ m.acts) (state : event.state = .connected) :
    m.after.session.state = .connected ∧ ∃ id event now, m.call = .handleEvent id event now := by
  have milestone : .entered event ∈ milestones m.acts :=
    List.mem_filter.mpr ⟨mem, decide_eq_true state⟩
  cases m.passage with
  | nothing acts =>
    rw [acts] at milestone
    cases milestone
  | attempt _ _ acts =>
    rw [acts] at milestone
    cases List.mem_singleton.mp milestone
  | arrival _ _ connected reported => exact ⟨connected, reported⟩

namespace Registry

variable {σ : Type} [Environment σ] {r r' : Registry σ} {key : String} {s : Session}

/-- The calls of a registered session since it was created, and the end of what was published under
its key as what they did. -/
structure Lived (ts : List (Turn σ)) (key : String) (s : Session) (ms : List (Moment σ)) :
    Prop where
  run : ∃ target config generation mark world,
    Run (.create key target config generation s.serial mark) ms ⟨s, world⟩
  told : ∃ before, under key (History.acts ts) = before ++ ms.flatMap Moment.acts

namespace Lived

variable {ts : List (Turn σ)} {ms : List (Moment σ)}

/-- The session makes one more call in an operation. -/
theorem call (h : Lived ts key s ms) {t : Turn σ} (world : σ) (call : Switchboard.Call)
    (acts : under key t.acts = (Moment.mk ⟨s, world⟩ call).acts) :
    Lived (ts ++ [t]) key (Moment.mk ⟨s, world⟩ call).after.session.drained
      (ms ++ [⟨⟨s, world⟩, call⟩]) where
  run := by
    obtain ⟨target, config, generation, mark, _, run⟩ := h.run
    have longer := ((run.world world).call call).drain
    rw [← (Moment.mk ⟨s, world⟩ call).sameIdentity.serial] at longer
    exact ⟨target, config, generation, mark, _, longer⟩
  told := by
    obtain ⟨before, told⟩ := h.told
    refine ⟨before, ?_⟩
    unfold History.acts at told ⊢
    rw [List.flatMap_append, List.flatMap_singleton, under_append, told, acts, List.flatMap_append,
      List.flatMap_singleton, List.append_assoc]

/-- The session was created in an operation, for its first call. -/
theorem begin {m : Moment σ} {target : Target} {config : SessionConfig} {generation serial : Nat}
    {mark : String}
    (start : m.before.session = .create key target config generation serial mark) {t : Turn σ}
    {closing : List Act} (acts : under key t.acts = closing ++ m.acts) :
    Lived (ts ++ [t]) key m.after.session.drained [m] where
  run := by
    have named : m.after.session.drained.serial = serial :=
      m.sameIdentity.serial.trans (congrArg Session.serial start)
    refine ⟨target, config, generation, mark, m.after.world, ?_⟩
    rw [named]
    obtain ⟨⟨s, world⟩, call⟩ := m
    subst start
    exact ((Run.begin world).call call).drain
  told := by
    refine ⟨under key (History.acts ts) ++ closing, ?_⟩
    unfold History.acts
    rw [List.flatMap_append, List.flatMap_singleton, under_append, acts, List.flatMap_singleton,
      List.append_assoc]

end Lived

theorem History.lived {ts : List (Turn σ)} (h : History ts r)
    (found : KeyMap.find? key r.sessions = some s) : ∃ ms, Lived ts key s ms := by
  induction h generalizing s with
  | begin world defaults marks => cases found
  | @turn ts r h operation ih =>
    have succession := Turn.succession (t := ⟨r, operation⟩) h.sound key
    obtain ⟨acts, same⟩ : ∃ acts, under key (Turn.mk r operation).acts = acts := ⟨_, rfl⟩
    rw [same] at succession
    have after : (Turn.mk r operation).after.sessions = (r.operate operation).sessions := rfl
    cases succession with
    | kept session =>
      rw [after, found] at session
      obtain ⟨ms, run, before, told⟩ := ih session.symm
      refine ⟨ms, run, before, ?_⟩
      unfold History.acts at told ⊢
      rw [List.flatMap_append, List.flatMap_singleton, under_append, told, same, List.append_nil]
    | called before _ world next =>
      obtain ⟨ms, lived⟩ := ih before
      rw [after, found, Option.some.injEq] at next
      exact ⟨_, next ▸ lived.call world _ same⟩
    | removed _ _ _ none =>
      rw [after, found] at none
      cases none
    | begun _ _ world next =>
      rw [after, found, Option.some.injEq] at next
      subst next
      exact ⟨_, Lived.begin rfl (same.trans (List.nil_append _).symm)⟩
    | replaced _ _ _ _ worldToo _ next =>
      rw [after, found, Option.some.injEq] at next
      subst next
      exact ⟨_, Lived.begin rfl same⟩
  | drainActs _ ih => exact ih found
  | drainNotices _ ih => exact ih found
  | world _ _ ih => exact ih found

/-- The failures of a life are those that the session counts. -/
theorem Lived.failures_eq {ts : List (Turn σ)} {ms : List (Moment σ)} (h : Lived ts key s ms) :
    failures (Run.strides ms) = s.policy.attempts.toNat := by
  obtain ⟨_, _, _, _, _, run⟩ := h.run
  obtain ⟨-, -, within⟩ := run.march.within
  exact within.counted.symm

/-! ## Ongoing sessions -/

theorem Owned.counted (h : Owned r key s) : s.Counted := by
  obtain ⟨_, _, _, _, _, run⟩ := h.history
  exact run.counted

theorem Owned.ongoing_or_resting (plain : PlainRefusals σ) (h : Owned r key s) :
    Ongoing s ∨ Resting s := by
  obtain ⟨_, _, _, _, _, run⟩ := h.history
  exact run.ongoing_or_resting plain

omit [Environment σ] in
theorem Operation.Asks.of_event {operation : Operation} {id : ConnectionId}
    {event : TransportEvent} {now : Instant}
    (asks : operation.Asks key (.handleEvent id event now)) :
    operation = .handleTransportEvent id event now := by
  cases asks
  rfl

/-- What becomes of an ongoing session in an operation. -/
inductive Turn.OngoingOrEnded (t : Turn σ) (key : String) (s : Session) : Prop
  | ongoing {s' : Session} (after : KeyMap.find? key t.after.sessions = some s')
      (own : s'.serial = s.serial) (h : Ongoing s')
  /-- The peer rejects its credentials. -/
  | rejected {s' : Session} {call : Switchboard.Call} {reason : String}
      (after : KeyMap.find? key t.after.sessions = some s') (own : s'.serial = s.serial)
      (asks : t.operation.Asks key call) (rejects : Rejection s call reason)
      (rest : Resting s') (lastError : s'.lastError = some (.auth reason))
  /-- It has failed for the last time. -/
  | exhausted {s' : Session} (after : KeyMap.find? key t.after.sessions = some s')
      (own : s'.serial = s.serial) (h : s'.Exhausted)
  | disconnected {s' : Session} (after : KeyMap.find? key t.after.sessions = some s')
      (own : s'.serial = s.serial) (asked : t.operation = .disconnect key) (rest : Resting s')
      (lastError : ∀ e, s'.lastError = some e → e.isFinal = false)
  | removed (after : KeyMap.find? key t.after.sessions = none)
      (removes : t.operation.Removes key)
  /-- Another session is started in its place. -/
  | replaced {s' : Session} (after : KeyMap.find? key t.after.sessions = some s')
      (other : s'.serial ≠ s.serial) {target : Target} {config : Option SessionConfig}
      {now : Instant} (connects : t.operation = .connect key target config now)

theorem Turn.ongoingOrEnded {t : Turn σ} (plain : PlainRefusals σ) (sound : Sound t.before)
    (found : KeyMap.find? key t.before.sessions = some s) (h : Ongoing s) :
    t.OngoingOrEnded key s := by
  have owned := sound.owned found
  have succession := t.succession sound key
  obtain ⟨acts, same⟩ : ∃ acts, under key t.acts = acts := ⟨_, rfl⟩
  obtain ⟨r, operation⟩ := t
  rw [same] at succession
  cases succession with
  | kept session => exact .ongoing (session.trans found) rfl h
  | @called other before call asks world after =>
    cases before.symm.trans found
    have own : (Moment.mk ⟨s, world⟩ call).after.session.drained.serial = s.serial :=
      (Moment.sameIdentity _).serial
    cases Moment.ongoingOrEnded plain (m := ⟨⟨s, world⟩, call⟩) owned.counted (.inl h) with
    | ongoing h => exact .ongoing after own h.drained
    | rejected rejects rest lastError =>
      exact .rejected after own asks rejects rest.drained lastError
    | exhausted h => exact .exhausted after own h.drained
    | tornDown asked rest lastError =>
      rcases asked with rfl | rfl
      · refine .disconnected after own ?_ rest.drained lastError
        cases asks
        rfl
      · cases asks
  | removed _ removes _ after => exact .removed after removes
  | begun vacant => cases vacant.symm.trans found
  | replaced _ connects _ _ _ _ after =>
    refine .replaced after (fun own => ?_) connects
    exact Nat.ne_of_gt owned.serial ((Moment.sameIdentity _).serial.symm.trans own)

/-- A session that enters the connected state in an operation is connected after it. -/
theorem Turn.connected_of_entered {t : Turn σ} (sound : Sound t.before) {event : StatusEvent}
    (mem : .entered event ∈ under key t.acts) (state : event.state = .connected)
    (found : KeyMap.find? key t.before.sessions = some s) :
    ∃ s', KeyMap.find? key t.after.sessions = some s' ∧ s'.serial = s.serial ∧
      s'.state = .connected := by
  have quiet {m : Moment σ} (mem : .entered event ∈ m.acts) (other : ∀ id event now,
      m.call ≠ .handleEvent id event now) : False := by
    obtain ⟨-, id, event, now, call⟩ := Moment.connected_of_entered mem state
    exact other id event now call
  have succession := t.succession sound key
  obtain ⟨acts, same⟩ : ∃ acts, under key t.acts = acts := ⟨_, rfl⟩
  rw [same] at succession mem
  cases succession with
  | kept => cases mem
  | called before _ world after =>
    cases before.symm.trans found
    exact ⟨_, after, (Moment.sameIdentity _).serial, (Moment.connected_of_entered mem state).1⟩
  | removed => exact (quiet mem nofun).elim
  | begun vacant => cases vacant.symm.trans found
  | replaced =>
    rcases List.mem_append.mp mem with closing | starting
    · exact (quiet closing nofun).elim
    · exact (quiet starting nofun).elim

/-! ## Callers who connect -/

/-- The session that a caller who connects to a target gets. It is ongoing, or it has spent its
budget on this very attempt. -/
structure Obtained (r : Registry σ) (key : String) (target : Target) (config : SessionConfig)
    (now : Instant) (s : Session) : Prop where
  found : KeyMap.find? key (r.connectWith key target config now).2.sessions = some s
  snapshot : (r.connectWith key target config now).1 = s.snapshot
  target : s.target = target
  status : Ongoing s ∨ s.Exhausted

theorem Owned.ongoing_of_active (plain : PlainRefusals σ) (h : Owned r key s)
    (active : s.state.isActive = true) : Ongoing s := by
  refine (h.ongoing_or_resting plain).resolve_right fun rest => ?_
  rcases rest.state with e | e | ⟨e, -⟩ <;> rw [e] at active <;> cases active

/-- The caller finds a session for the target at work. -/
theorem obtained_of_reuses (plain : PlainRefusals σ) (sound : Sound r) {target : Target}
    (reuses : r.reuses key target = true) (config : SessionConfig) (now : Instant) :
    ∃ s, Obtained r key target config now s := by
  obtain ⟨s, content⟩ := Option.isSome_iff_exists.mp reuses
  obtain ⟨found, fits⟩ := Option.filter_eq_some_iff.mp content
  obtain ⟨same, active⟩ := of_decide_eq_true fits
  refine ⟨s, ?_, ?_, same, .inl ((sound.owned found).ongoing_of_active plain active)⟩
  · rw [connectWith_of_reuses reuses]
    exact found
  · unfold connectWith
    rw [content]

/-- The caller starts a session. -/
theorem obtained_of_spent (plain : PlainRefusals σ) (sound : Sound r) {target : Target}
    (spent : r.reuses key target = false) (config : SessionConfig) (now : Instant) :
    ∃ s, Obtained r key target config now s := by
  have soundToo := sound.takeOut key
  have fresh := Entry.fresh (find?_takeOut r key) target config
  obtain ⟨m, start⟩ : ∃ m, m = Moment.mk ⟨(r.takeOut key).2.newSession key target config
    ((r.takeOut key).2.generationOf key), (r.takeOut key).2.world⟩ (.connect now) := ⟨_, rfl⟩
  obtain ⟨after, -⟩ := shelved soundToo fresh (.connect now)
  have begins := connectWith_of_spent spent config now
  rw [← start] at after begins
  have counted : m.before.session.Counted := by
    rw [start]
    exact (fresh.owned soundToo).counted
  have able : (∃ now, m.call = .connect now) ∧ m.before.session.state.canConnect = true := by
    rw [start]
    exact ⟨⟨now, rfl⟩, rfl⟩
  refine ⟨m.after.session.drained, begins ▸ after, ?_, ?_, ?_⟩
  · have none : ((KeyMap.find? key r.sessions).filter
        fun s => s.target = target ∧ s.state.isActive) = none :=
      Option.not_isSome_iff_eq_none.mp fun some => Bool.false_ne_true (spent.symm.trans some)
    unfold connectWith
    rw [none, start]
    rfl
  · refine m.sameIdentity.target.trans ?_
    rw [start]
    rfl
  · cases Moment.ongoingOrEnded plain counted (.inr able) with
    | ongoing h => exact .inl h.drained
    | rejected rejects =>
      obtain ⟨-, bytes, at', words, brings, -⟩ := rejects
      rw [start] at brings
      cases brings
    | exhausted h => exact .inr h.drained
    | tornDown asked =>
      rw [start] at asked
      exact asked.elim nofun nofun

theorem connectWith_spec (plain : PlainRefusals σ) (sound : Sound r) (key : String)
    (target : Target) (config : SessionConfig) (now : Instant) :
    ∃ s, Obtained r key target config now s := by
  cases reuses : r.reuses key target with
  | true => exact obtained_of_reuses plain sound reuses config now
  | false => exact obtained_of_spent plain sound reuses config now

end Registry

end Switchboard
