import Switchboard.Proofs.Registry.Succession
import Switchboard.Proofs.Session.Hearing
/-!
# What subscriptions are told in an operation

An operation tells its status subscriptions of every state that was entered meanwhile, in order. The
data subscriptions are told of a frame only if the operation brings one to a session that is open
(`Registry.arrival`): who subscribed under its key for frames of its code is told of it, after the
states that it led to. Nothing else is told (`Turn.notices_eq`).
-/

namespace Switchboard

namespace Registry

variable {σ : Type} {r r' r'' : Registry σ} {key : String}

/-- The data subscriptions under a key. -/
def listeners (r : Registry σ) (key : String) : List DataListener :=
  (KeyMap.find? key r.dataListeners).getD []

/-- What data subscriptions are told of a frame. -/
def deliveries (r : Registry σ) (event : DataEvent) : List Notice :=
  (r.listeners event.key).filterMap fun listener =>
    if listener.filter.wants event.code then some (.data listener.handle event) else none

/-- The frame that an operation brings: the bytes are a frame, and the session under the key of
their transport is open and holds that transport. -/
def arrival (r : Registry σ) : Operation → Option DataEvent
  | .handleTransportEvent id (.frame bytes) _ =>
    match KeyMap.find? id.key r.sessions, Frame.decode bytes with
    | some s, .ok frame =>
      if s.transport = some id ∧ s.state.isLive = true then
        some ⟨id.key, s.target, frame.code, frame.header, frame.payload,
          (Message.ofFrame frame).toOption.join⟩
      else none
    | _, _ => none
  | _ => none

/-! ## Publishing -/

/-- What status subscriptions are told of acts. -/
def announcements (r : Registry σ) (acts : List Act) : List Notice := acts.flatMap r.statusNotices

theorem announcements_append (acts more : List Act) :
    r.announcements (acts ++ more) = r.announcements acts ++ r.announcements more :=
  List.flatMap_append

theorem announcements_congr (same : r'.statusListeners = r.statusListeners) (acts : List Act) :
    r'.announcements acts = r.announcements acts := by
  unfold announcements statusNotices
  rw [same]

theorem flatMap_dataNotices (r : Registry σ) (key : String) (target : Target) (acts : List Act) :
    acts.flatMap (r.dataNotices key target) =
      (inboundsOf acts).flatMap fun inbound =>
        r.deliveries (.ofInbound key target inbound) := by
  induction acts with
  | nil => rfl
  | cons act acts ih =>
    cases act with
    | heard inbound =>
      rw [List.flatMap_cons, ih]
      rfl
    | _ => exact ih

theorem notices_shelve (r : Registry σ) (c : Station σ) : (r.shelve c).notices =
    r.notices ++ r.announcements c.session.journal ++
      (inboundsOf c.session.journal).flatMap fun inbound =>
        r.deliveries (.ofInbound c.session.key c.session.target inbound) := by
  rw [← flatMap_dataNotices]
  rfl

/-! ## Operations that bring no frame -/

/-- Nothing is told but the states that were entered, to the status subscriptions that there are. -/
structure Announces (r r' : Registry σ) : Prop where
  listeners : r'.statusListeners = r.statusListeners
  told : ∃ published, r'.acts = r.acts ++ published ∧
    r'.notices = r.notices ++ r.announcements (published.map Prod.snd)

namespace Announces

theorem of_eq (listeners : r'.statusListeners = r.statusListeners) (acts : r'.acts = r.acts)
    (notices : r'.notices = r.notices) : Announces r r' :=
  ⟨listeners, [], by rw [acts, List.append_nil], by rw [notices]; exact (List.append_nil _).symm⟩

theorem trans (h : Announces r r') (k : Announces r' r'') : Announces r r'' := by
  obtain ⟨early, grew, told⟩ := h.told
  obtain ⟨late, grewToo, toldToo⟩ := k.told
  refine ⟨k.listeners.trans h.listeners, early ++ late, ?_, ?_⟩
  · rw [grewToo, grew, List.append_assoc]
  · rw [toldToo, told, announcements_congr h.listeners, List.map_append, announcements_append,
      List.append_assoc]

/-- Steps that keep what they rest on add up. -/
theorem foldl [Environment σ] {step : Registry σ → String → Registry σ}
    (keeps : ∀ {r other}, Sound r → Sound (step r other))
    (announces : ∀ {r other}, Sound r → Announces r (step r other)) {keys : List String}
    (sound : Sound r) : Announces r (keys.foldl step r) := by
  induction keys generalizing r with
  | nil => exact .of_eq rfl rfl rfl
  | cons first rest ih => exact (announces sound).trans (ih (keeps sound))

end Announces

variable [Environment σ]

/-- The owner's books after a call of a session. -/
theorem shelve_owned (sound : Sound r) {s : Session} {nextSerial : Nat}
    (entry : Entry r key s nextSerial) (call : Switchboard.Call) :
    ({ r with nextSerial }.shelve (Moment.mk ⟨s, r.world⟩ call).after).acts =
        r.acts ++ (Moment.mk ⟨s, r.world⟩ call).acts.map (key, ·) ∧
      ({ r with nextSerial }.shelve (Moment.mk ⟨s, r.world⟩ call).after).notices =
        r.notices ++ r.announcements (Moment.mk ⟨s, r.world⟩ call).acts ++
          (inboundsOf (Moment.mk ⟨s, r.world⟩ call).acts).flatMap fun inbound =>
            r.deliveries (.ofInbound key s.target inbound) := by
  have owned := entry.owned sound
  have home : (Moment.mk ⟨s, r.world⟩ call).after.session.key = key :=
    (owned.call r.world call).home
  have target : (Moment.mk ⟨s, r.world⟩ call).after.session.target = s.target :=
    (Moment.mk ⟨s, r.world⟩ call).sameIdentity.target
  constructor
  · unfold shelve publish
    rw [owned.journal_after, home]
  · rw [notices_shelve, owned.journal_after, home, target]
    rfl

/-- The owner's books after a session was taken out, which hears nothing any more. -/
theorem takeOut_owned (sound : Sound r) {s : Session} (found : KeyMap.find? key r.sessions = some s) :
    (r.takeOut key).2.acts = r.acts ++ (Moment.mk ⟨s, r.world⟩ .close).acts.map (key, ·) ∧
      (r.takeOut key).2.notices =
        r.notices ++ r.announcements (Moment.mk ⟨s, r.world⟩ .close).acts := by
  have owned := sound.owned found
  have home : (Moment.mk ⟨s, r.world⟩ .close).after.session.key = key :=
    (owned.call r.world .close).home
  have deaf : inboundsOf (Moment.mk ⟨s, r.world⟩ .close).acts = [] :=
    Moment.deaf _ fun bytes => nofun
  rw [takeOut_eq found]
  unfold publish
  constructor
  · rw [owned.journal_after, home]
  · dsimp only
    rw [owned.journal_after, flatMap_dataNotices, deaf]
    exact List.append_nil _

/-- A call that brings no bytes announces what it does. -/
theorem announces_shelve (sound : Sound r) {s : Session} {nextSerial : Nat}
    (entry : Entry r key s nextSerial) {call : Switchboard.Call}
    (deaf : ∀ bytes, ¬ call.Brings bytes) :
    Announces r ({ r with nextSerial }.shelve (Moment.mk ⟨s, r.world⟩ call).after) := by
  obtain ⟨acts, notices⟩ := shelve_owned sound entry call
  refine ⟨rfl, _, acts, ?_⟩
  rw [notices, (Moment.mk ⟨s, r.world⟩ call).deaf deaf, map_snd_map]
  exact List.append_nil _

theorem announces_onSession {α : Type} (sound : Sound r)
    {step : Station σ → Except Error α × Station σ} (call : Switchboard.Call)
    (deaf : ∀ bytes, ¬ call.Brings bytes) (same : ∀ c, (step c).2 = (c.perform call).2) :
    Announces r (r.onSession key step).2 := by
  cases found : KeyMap.find? key r.sessions with
  | none =>
    rw [onSession_of_unknown found]
    exact .of_eq rfl rfl rfl
  | some s =>
    rw [onSession_of_known found, same]
    exact announces_shelve sound (.found found) deaf

theorem announces_takeOut (sound : Sound r) (key : String) : Announces r (r.takeOut key).2 := by
  cases found : KeyMap.find? key r.sessions with
  | none =>
    unfold takeOut
    rw [found]
    exact .of_eq rfl rfl rfl
  | some s =>
    obtain ⟨acts, notices⟩ := takeOut_owned sound found
    refine ⟨by rw [takeOut_eq found]; rfl, _, acts, ?_⟩
    rw [notices, map_snd_map]

theorem announces_remove (sound : Sound r) (key : String) : Announces r (r.remove key).2 := by
  unfold remove
  split
  · have listens : Touch .shutdown r []
        { r with dataListeners := KeyMap.erase key r.dataListeners } := .listen _ _ _
    have taken := announces_takeOut (listens.sound sound) key
    exact ⟨taken.listeners, taken.told⟩
  · exact .of_eq rfl rfl rfl

theorem announces_connectWith (sound : Sound r) (key : String) (target : Target)
    (config : SessionConfig) (now : Instant) :
    Announces r (r.connectWith key target config now).2 := by
  cases spent : r.reuses key target with
  | true =>
    rw [connectWith_of_reuses spent]
    exact .of_eq rfl rfl rfl
  | false =>
    rw [connectWith_of_spent spent]
    exact (announces_takeOut sound key).trans
      (announces_shelve (sound.takeOut key) (.fresh (find?_takeOut r key) target config)
        fun bytes => nofun)

/-- The operation makes or ends a subscription, and does nothing else. -/
def Operation.isSubscribing : Operation → Bool
  | .subscribe .. | .subscribeStatus | .unsubscribe _ => true
  | _ => false

theorem announces_operate (sound : Sound r) {operation : Operation}
    (subscribing : operation.isSubscribing = false)
    (quiet : ∀ id event now, operation ≠ .handleTransportEvent id event now) :
    Announces r (r.operate operation) := by
  cases operation with
  | connect key target config now => exact announces_connectWith sound key target _ now
  | disconnect key => exact announces_onSession sound .disconnect (fun bytes => nofun) fun _ => rfl
  | remove key => exact announces_remove sound key
  | shutdown =>
    exact .foldl (fun sound => sound.remove _) (fun sound => announces_remove sound _) sound
  | authenticate key credentials =>
    exact announces_onSession sound (.authenticate credentials) (fun bytes => nofun) fun _ => rfl
  | send key code header payload =>
    exact announces_onSession sound (.send code header payload) (fun bytes => nofun) fun _ => rfl
  | sendMessage key message payload =>
    exact announces_onSession sound (.sendMessage message payload) (fun bytes => nofun)
      fun _ => rfl
  | request key code header payload now =>
    exact announces_onSession sound (.request code header payload now) (fun bytes => nofun)
      fun _ => rfl
  | handleTransportEvent id event now => exact absurd rfl (quiet id event now)
  | pollTimers now =>
    have polls {b : Registry σ} {other : String} (sound : Sound b) :
        Announces b (b.pollKey now other) :=
      announces_onSession sound (.pollTimers now) (fun bytes => nofun) fun _ => rfl
    exact .foldl (fun sound => sound.pollKey now _) polls sound
  | subscribe => cases subscribing
  | subscribeStatus => cases subscribing
  | unsubscribe => cases subscribing

/-! ## Events of a transport -/

/-- An open session hears bytes under its own transport only, and then what they arrive as. -/
theorem hearing_eq_arrival (sound : Sound r) {id : ConnectionId} {s : Session}
    (found : KeyMap.find? id.key r.sessions = some s) (bytes : Bytes) (now : Instant) :
    (s.hearing id bytes).map (DataEvent.ofInbound id.key s.target) =
      (r.arrival (.handleTransportEvent id (.frame bytes) now)).toList := by
  have open_iff : (id = s.connectionId ∧ s.state.isLive = true) ↔
      (s.transport = some id ∧ s.state.isLive = true) := by
    refine and_congr_left fun live => ?_
    cases (sound.owned found).inPhase with
    | resting h => rw [h.isLive_eq] at live; cases live
    | waiting h => rw [h.isLive_eq] at live; cases live
    | attempting h => rw [h.isLive_eq] at live; cases live
    | live h =>
      rw [h.transport, Option.some.injEq]
      exact eq_comm
  unfold Session.hearing arrival
  dsimp only
  rw [found]
  cases Frame.decode bytes with
  | error e =>
    by_cases heard : id = s.connectionId ∧ s.state.isLive = true <;> simp [heard]
  | ok frame =>
    by_cases heard : id = s.connectionId ∧ s.state.isLive = true
    · rw [if_pos heard]
      dsimp only
      rw [if_pos (open_iff.mp heard)]
      rfl
    · rw [if_neg heard]
      dsimp only
      rw [if_neg fun both => heard (open_iff.mpr both)]
      rfl

theorem inboundsOf_event (sound : Sound r) {id : ConnectionId} {s : Session}
    (found : KeyMap.find? id.key r.sessions = some s) (event : TransportEvent) (now : Instant) :
    (inboundsOf (Moment.mk ⟨s, r.world⟩ (.handleEvent id event now)).acts).map
        (DataEvent.ofInbound id.key s.target) =
      (r.arrival (.handleTransportEvent id event now)).toList := by
  cases event with
  | frame bytes => rw [Moment.heard_eq, hearing_eq_arrival sound found bytes now]
  | _ =>
    rw [Moment.deaf]
    · rfl
    · rintro bytes ⟨_, _, ⟨⟩⟩

/-! ## Every operation -/

/-- What an operation tells, beside the acts that it publishes. -/
theorem operate_notices (sound : Sound r) (operation : Operation) : ∃ published,
    (r.operate operation).acts = r.acts ++ published ∧
      (r.operate operation).notices = r.notices ++ r.announcements (published.map Prod.snd) ++
        (r.arrival operation).toList.flatMap r.deliveries := by
  by_cases event : ∃ id event now, operation = .handleTransportEvent id event now
  · obtain ⟨id, event, now, rfl⟩ := event
    cases found : KeyMap.find? id.key r.sessions with
    | none =>
      have absent : r.arrival (.handleTransportEvent id event now) = none := by
        cases event <;> simp [arrival, found]
      have same : r.operate (.handleTransportEvent id event now) = r :=
        congrArg Prod.snd (onSession_of_unknown found _)
      refine ⟨[], ?_, ?_⟩
      · rw [same, List.append_nil]
      · rw [same, absent]
        simp [announcements]
    | some s =>
      obtain ⟨acts, notices⟩ := shelve_owned sound (.found found) (.handleEvent id event now)
      have same : r.operate (.handleTransportEvent id event now) =
          r.shelve (Moment.mk ⟨s, r.world⟩ (.handleEvent id event now)).after :=
        congrArg Prod.snd (onSession_of_known found _)
      refine ⟨_, (congrArg Registry.acts same).trans acts, ?_⟩
      rw [same, map_snd_map, ← inboundsOf_event sound found event now, List.flatMap_map]
      exact notices
  · have absent : r.arrival operation = none := by
      cases operation with
      | handleTransportEvent id e now => exact absurd ⟨id, e, now, rfl⟩ event
      | _ => rfl
    rw [absent]
    cases subscribing : operation.isSubscribing with
    | false =>
      obtain ⟨-, published, acts, notices⟩ := announces_operate sound subscribing
        fun id e now same => event ⟨id, e, now, same⟩
      exact ⟨published, acts, by rw [notices]; exact (List.append_nil _).symm⟩
    | true =>
      have kept : (r.operate operation).acts = r.acts ∧
          (r.operate operation).notices = r.notices := by
        cases operation with
        | subscribe | subscribeStatus | unsubscribe => exact ⟨rfl, rfl⟩
        | _ => cases subscribing
      exact ⟨[], by rw [kept.1, List.append_nil], by rw [kept.2]; simp [announcements]⟩

/-- What subscriptions were told during an operation. -/
def Turn.notices (t : Turn σ) : List Notice := t.after.notices.drop t.before.notices.length

/-- The frame that the operation brought. -/
def Turn.arrival (t : Turn σ) : Option DataEvent := t.before.arrival t.operation

/-- The states that were entered are told to all status subscriptions, and the frame that arrived to
the data subscriptions under its key that want it. -/
theorem Turn.notices_eq {t : Turn σ} (sound : Sound t.before) : t.notices =
    t.before.announcements (t.acts.map Prod.snd) ++ t.arrival.toList.flatMap t.before.deliveries := by
  obtain ⟨published, acts, notices⟩ := operate_notices sound t.operation
  have same : t.acts = published := by
    unfold Turn.acts Turn.after
    rw [acts, List.drop_left]
  unfold Turn.notices Turn.after
  rw [notices, same, List.append_assoc, List.drop_left]
  rfl

end Registry

end Switchboard
