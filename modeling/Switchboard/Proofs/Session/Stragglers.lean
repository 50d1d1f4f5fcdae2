import Switchboard.Proofs.Session.Accounts
import Switchboard.Proofs.Session.Coherence
import Switchboard.Proofs.Session.Flow
/-!
# The frames of requests that have failed

A request is outstanding and its frame may be held back at the same time, and the two are let go of
separately. A frame that outlives its request is a straggler: the request has failed when its
connection is lost or its time is up, and the frame still leaves with the others when the session is
connected again. So a run need not be `Silenced`.

Nothing else of a failed request leaves. A call that fails a request releases no frames
(`Session.Edit.allowed`), and later its frame can come from nowhere but the queue that the failure
left behind, since no other request has its id (`Run.requestIds_accepted`). A session that gives up
leaves no queue behind.
-/

namespace Switchboard

/-- The request failed. -/
def Outcome.isFailure (outcome : Outcome) : Bool := !outcome.result.isOk

/-- The id under which the answer to a frame is awaited. -/
def Packet.requestId? (packet : Packet) : Option String :=
  match packet.purpose with
  | .request id => some id
  | _ => none

/-- The act fails no request and hands over no caller's frame. -/
def Act.isCalm : Act → Bool
  | .settled outcome => !outcome.isFailure
  | .delivered _ packet => !packet.purpose.isSubmitted
  | _ => true

/-- A call fails a request only if it releases no frames, and it hands over a caller's frame only if
it does. -/
structure Call.Allows (call : Call) (act : Act) : Prop where
  apart : ∀ outcome, act = .settled outcome → outcome.isFailure = true → ¬ call.Flushes
  flushes : ∀ packet, act.handed? = some packet → call.Flushes

/-! ## What fails requests and what releases frames -/

section Allowed

variable {cause : Call} {act : Act}

theorem Call.allows_of_calm (calm : act.isCalm = true) : cause.Allows act where
  apart outcome settles fails := by
    rw [settles, Act.isCalm, fails] at calm
    cases calm
  flushes packet hands := by
    cases act with
    | delivered id other =>
      have own : other.purpose.isSubmitted = false := by simpa [Act.isCalm] using calm
      simp [Act.handed?, own] at hands
    | _ => cases hands

theorem Call.allows_settled (apart : ¬ cause.Flushes) (outcome : Outcome) :
    cause.Allows (.settled outcome) :=
  ⟨fun _ _ _ => apart, nofun⟩

theorem Call.allows_delivered (flushes : cause.Flushes) (id : ConnectionId) (packet : Packet) :
    cause.Allows (.delivered id packet) :=
  ⟨nofun, fun _ _ => flushes⟩

namespace Session

variable {s t : Session}

theorem isCalm_losses (packets : List Packet) : ∀ act ∈ losses packets, act.isCalm = true := by
  cases packets with
  | nil => exact List.forall_mem_nil _
  | cons packet packets => exact List.forall_mem_singleton.mpr rfl

/-- An edit that gives up all requests comes from a call that releases no frames. -/
theorem allows_giveUp (apart : ¬ cause.Flushes) (packets : List Packet) (ids : List String)
    (event : StatusEvent) :
    ∀ act ∈ losses packets ++ ids.map (fun id => .settled ⟨id, .error .connectionClosed⟩) ++
      [.entered event], cause.Allows act := by
  intro act mem
  rcases List.mem_append.mp mem with mem | mem
  · rcases List.mem_append.mp mem with mem | mem
    · exact Call.allows_of_calm (isCalm_losses packets act mem)
    · obtain ⟨id, -, rfl⟩ := List.mem_map.mp mem
      exact Call.allows_settled apart _
  · cases List.mem_singleton.mp mem
    exact Call.allows_of_calm rfl

/-- Every edit keeps to what its call may do, edit by edit. -/
theorem Edit.allowed (h : Edit cause s t) :
    ∃ acts, t.journal = s.journal ++ acts ∧ ∀ act ∈ acts, cause.Allows act := by
  have calm {u : Session} {acts : List Act} (journal : u.journal = s.journal ++ acts)
      (calm : ∀ act ∈ acts, act.isCalm = true) :
      ∃ acts, u.journal = s.journal ++ acts ∧ ∀ act ∈ acts, cause.Allows act :=
    ⟨acts, journal, fun act mem => Call.allows_of_calm (calm act mem)⟩
  have still {u : Session} (journal : u.journal = s.journal) :
      ∃ acts, u.journal = s.journal ++ acts ∧ ∀ act ∈ acts, cause.Allows act :=
    calm (journal.trans (List.append_nil _).symm) (List.forall_mem_nil _)
  cases h with
  | quiet => exact still rfl
  | latency => exact still rfl
  | advance => exact still rfl
  | probe => exact still rfl
  | misread => exact still rfl
  | settleAll apart =>
    rw [failRequests_eq]
    refine ⟨_, rfl, fun act mem => ?_⟩
    obtain ⟨id, -, rfl⟩ := List.mem_map.mp mem
    exact Call.allows_settled apart _
  | expire now tick =>
    rw [expireRequests_eq_foldl]
    refine ⟨_, rfl, fun act mem => ?_⟩
    obtain ⟨id, -, rfl⟩ := List.mem_map.mp mem
    exact Call.allows_settled (Station.apart_of_tick tick) _
  | @giveUp wall attempts state apart =>
    refine ⟨_, ?_, allows_giveUp apart s.queue s.requests.ids
      ⟨s.key, s.target, .disconnected, some (.reconnectExhausted attempts), wall⟩⟩
    rw [failRequests_eq, discardQueue_eq]
    simp [Session.enter, Session.note]
  | @tearDown wall asked =>
    refine ⟨_, ?_, allows_giveUp (Call.not_flushes_of_asked asked) s.queue s.requests.ids
      ⟨s.key, s.target, .disconnected, none, wall⟩⟩
    rw [failRequests_eq, discardQueue_eq]
    simp [Session.enter, Session.note]
  | reject =>
    rw [discardQueue_eq]
    refine calm (List.append_assoc ..) fun act mem => ?_
    rcases List.mem_append.mp mem with mem | mem
    · exact isCalm_losses s.queue act mem
    · cases List.mem_singleton.mp mem
      rfl
  | @announce id state packet entered wall turns prompted live held due =>
    refine calm (List.append_assoc ..) ?_
    simp [Act.isCalm, SessionState.isSubmitted_of_announces due]
  | hold packet =>
    rw [enqueue_eq]
    refine calm rfl fun act mem => ?_
    obtain ⟨packet, -, rfl⟩ := List.mem_map.mp mem
    rfl
  | @hand id packet wall held permitted =>
    refine ⟨_, rfl, List.forall_mem_singleton.mpr ?_⟩
    cases purpose : packet.purpose <;> rw [purpose] at permitted
    case submission => exact Call.allows_delivered (.inl permitted.1) id packet
    case request => exact Call.allows_delivered (.inl permitted.1) id packet
    all_goals exact Call.allows_of_calm (by rw [Act.isCalm, purpose]; rfl)
  | @flush id packet rest wall held state queue flushes =>
    exact ⟨_, rfl, List.forall_mem_singleton.mpr (Call.allows_delivered flushes id packet)⟩
  | unplug =>
    rw [unplug_eq]
    refine calm rfl fun act mem => ?_
    unfold partings at mem
    cases held : s.transport <;> rw [held] at mem
    · cases mem
    · cases List.mem_singleton.mp mem
      rfl
  | _ => exact calm rfl (List.forall_mem_singleton.mpr rfl)

theorem Edits.allowed (h : Edits cause s t) :
    ∃ acts, t.journal = s.journal ++ acts ∧ ∀ act ∈ acts, cause.Allows act := by
  induction h with
  | refl => exact ⟨[], (List.append_nil _).symm, List.forall_mem_nil _⟩
  | tail _ edit ih =>
    obtain ⟨acts, journal, allowed⟩ := ih
    obtain ⟨more, journalToo, allowedToo⟩ := edit.allowed
    refine ⟨acts ++ more, by rw [journalToo, journal, List.append_assoc], fun act mem => ?_⟩
    exact (List.mem_append.mp mem).elim (allowed act) (allowedToo act)

end Session

end Allowed

variable {σ : Type} [Environment σ]

namespace Moment

variable {m : Moment σ}

theorem allowed (m : Moment σ) : ∀ act ∈ m.acts, m.call.Allows act := by
  obtain ⟨s, edits, journal, -⟩ := m.edits
  obtain ⟨acts, added, allowed⟩ := edits.allowed
  rwa [List.append_cancel_left (journal.symm.trans added)]

/-- A call that fails a request hands over no caller's frame. -/
theorem handed_of_failure {outcome : Outcome} (mem : outcome ∈ m.outcomes)
    (fails : outcome.isFailure = true) : handed m.acts = [] := by
  obtain ⟨act, among, settles⟩ := List.mem_filterMap.mp mem
  have apart : ¬ m.call.Flushes := by
    refine (m.allowed act among).apart outcome ?_ fails
    cases act <;> cases settles
    rfl
  refine List.filterMap_eq_nil_iff.mpr fun other present => ?_
  refine Option.eq_none_iff_forall_ne_some.mpr fun packet hands => ?_
  exact apart ((m.allowed other present).flushes packet hands)

/-- A call that submits a frame without awaiting an answer gives out no id. -/
theorem requestIds_of_plain {result : Except Error Unit} {bytes : Except Error Bytes}
    (answer : m.answer = result.map fun _ => none)
    (submission : m.submission? = bytes.toOption.map (Packet.mk .submission)) :
    m.accepted.filterMap Packet.requestId? = m.issued?.toList := by
  unfold accepted issued?
  rw [answer, submission]
  cases result <;> cases bytes <;> rfl

/-- The answer to the frame that a call takes is awaited under the id that the call gives out. -/
theorem requestIds_accepted (m : Moment σ) :
    m.accepted.filterMap Packet.requestId? = m.issued?.toList := by
  obtain ⟨c, call⟩ := m
  cases call with
  | send => exact requestIds_of_plain rfl rfl
  | sendMessage => exact requestIds_of_plain rfl rfl
  | request code header payload now =>
    obtain ⟨answer, -⟩ := Station.request_submits c code header payload now
    unfold accepted issued? Moment.answer
    rcases result : (c.requestSubmission code header payload).1 with e | ⟨⟨⟩⟩
    · rw [answer, result]
      rfl
    · obtain ⟨bytes, -, written, -⟩ := Station.requestSubmission_fate result
      rw [answer, result]
      dsimp only [submission?, Station.requestBytes]
      rw [written]
      rfl
  | _ => rfl

end Moment

/-! ## Runs -/

namespace Run

variable {key : String} {target : Target} {config : SessionConfig} {generation serial : Nat}
  {mark : String}
  {ms early late : List (Moment σ)} {m : Moment σ} {c : Station σ}

/-- The requests whose frames were taken are those that were given an id, in order. -/
theorem requestIds_accepted (ms : List (Moment σ)) :
    (accepted ms).filterMap Packet.requestId? = issued ms := by
  unfold accepted issued
  rw [List.filterMap_flatMap, List.filterMap_eq_flatMap_toList]
  exact List.flatMap_congr fun m _ => m.requestIds_accepted

/-- Frames that are handed over or held back belong to different requests. -/
theorem requestIds_nodup (h : Run (.create key target config generation serial mark) ms c) :
    ((handed ms ++ c.session.queue).filterMap Packet.requestId?).Nodup := by
  have kept : (handed ms ++ c.session.queue).Sublist (accepted ms) := by
    rw [h.kept.order, handed_eq_departures]
    exact (List.filter_sublist.map _).append_right _
  have ids := kept.filterMap Packet.requestId?
  rw [requestIds_accepted] at ids
  exact h.booked.distinct.sublist ids

/-- What a call leaves held back and what is taken later has left by the end, or is held back. -/
theorem order_after (h : Run (.create key target config generation serial mark) ms c)
    (split : ms = early ++ m :: late) :
    m.after.session.queue ++ accepted late =
      (departures late).map Fated.packet ++ c.session.queue := by
  have there := (h.through split).kept.order
  have here := h.kept.order
  have cut : ms = (early ++ [m]) ++ late := by rw [split]; simp
  have taken : accepted ms = accepted (early ++ [m]) ++ accepted late := by
    rw [cut]
    exact List.flatMap_append
  have left : departures ms = departures (early ++ [m]) ++ departures late := by
    rw [cut]
    exact List.flatMap_append
  rw [taken, left, there, List.map_append, List.append_assoc, List.append_assoc] at here
  exact List.append_cancel_left here

/-- The frame of a request that has ended is not taken again. -/
theorem requestId_of_accepted (h : Run (.create key target config generation serial mark) ms c)
    (split : ms = early ++ m :: late) {outcome : Outcome} (mem : outcome ∈ m.outcomes)
    {packet : Packet} (taken : packet ∈ accepted late) :
    packet.requestId? ≠ some outcome.requestId := by
  intro named
  have given : outcome.requestId ∈ issued (early ++ [m]) := by
    refine (h.through split).booked.balance.symm.subset (List.mem_append_right _ ?_)
    refine List.mem_map_of_mem (List.mem_flatMap.mpr ⟨m, ?_, mem⟩)
    exact List.mem_append_right _ (List.mem_singleton_self m)
  have again : outcome.requestId ∈ issued late := by
    rw [← requestIds_accepted]
    exact List.mem_filterMap.mpr ⟨packet, taken, named⟩
  have distinct := h.booked.distinct
  have cut : ms = (early ++ [m]) ++ late := by rw [split]; simp
  rw [cut, issued, List.filterMap_append, List.nodup_append] at distinct
  exact distinct.2.2 _ given _ again rfl

theorem mem_queue_iff (h : Run (.create key target config generation serial mark) ms c)
    (split : ms = early ++ m :: late) {outcome : Outcome} (mem : outcome ∈ m.outcomes)
    {packet : Packet} (named : packet.requestId? = some outcome.requestId) :
    packet ∈ m.after.session.queue ↔
      packet ∈ (departures late).map Fated.packet ∨ packet ∈ c.session.queue := by
  rw [← List.mem_append, ← h.order_after split, List.mem_append]
  exact (or_iff_left fun taken => h.requestId_of_accepted split mem taken named).symm

theorem mem_queue_of_handed (h : Run (.create key target config generation serial mark) ms c)
    (split : ms = early ++ m :: late) {outcome : Outcome} (mem : outcome ∈ m.outcomes)
    {packet : Packet} (named : packet.requestId? = some outcome.requestId)
    (handed : packet ∈ handed late) : packet ∈ m.after.session.queue := by
  rw [handed_eq_departures] at handed
  exact (h.mem_queue_iff split mem named).mpr (.inl ((List.filter_sublist.map _).subset handed))

end Run

/-- Once a request has failed, its frame is handed to no transport. -/
def Silenced (ms : List (Moment σ)) : Prop :=
  ∀ early m late, ms = early ++ m :: late → ∀ outcome ∈ m.outcomes, outcome.isFailure = true →
    ∀ packet ∈ Run.handed late, packet.requestId? ≠ some outcome.requestId

/-- What may become of the frames of requests that fail. -/
structure Straggling (ms : List (Moment σ)) (c : Station σ) : Prop where
  /-- No request's frame is handed over twice, or handed over and held back. -/
  once : ((Run.handed ms ++ c.session.queue).filterMap Packet.requestId?).Nodup
  /-- A call that fails a request hands over no caller's frame. -/
  apart : ∀ m ∈ ms, ∀ outcome ∈ m.outcomes, outcome.isFailure = true → handed m.acts = []
  /-- The frame of a failed request leaves later, or is held back at the end, if it was held back
  when the request failed, and only then. -/
  left : ∀ early m late, ms = early ++ m :: late → ∀ outcome ∈ m.outcomes,
    outcome.isFailure = true → ∀ packet, packet.requestId? = some outcome.requestId →
      (packet ∈ m.after.session.queue ↔
        packet ∈ (Run.departures late).map Fated.packet ∨ packet ∈ c.session.queue)
  /-- So nothing leaves for a failed request where failures leave no frame of theirs behind. -/
  silenced : (∀ m ∈ ms, ∀ outcome ∈ m.outcomes, outcome.isFailure = true →
    ∀ packet ∈ m.after.session.queue, packet.requestId? ≠ some outcome.requestId) → Silenced ms
  /-- Requests that fail because a session gives up leave none. -/
  ended : ∀ early m late, ms = early ++ m :: late → ∀ outcome ∈ m.outcomes,
    outcome.isFailure = true → m.after.session.state = .disconnected ∨
        m.after.session.state = .error ∧ m.after.session.timers.retry.isArmed = false →
      ∀ packet ∈ Run.handed late, packet.requestId? ≠ some outcome.requestId

/-- In every run, over every world, the frame of a request that has failed leaves only if it was
held back when the request failed. -/
theorem run_straggles {key : String} {target : Target} {config : SessionConfig}
    {generation serial : Nat} {mark : String} {ms : List (Moment σ)} {c : Station σ}
    (h : Run (.create key target config generation serial mark) ms c) : Straggling ms c where
  once := h.requestIds_nodup
  apart m _ outcome settled fails := Moment.handed_of_failure settled fails
  left early m late split outcome settled _ packet named := h.mem_queue_iff split settled named
  silenced clean early m late split outcome settled fails packet handed named := by
    have among : m ∈ ms := by rw [split]; simp
    have held := h.mem_queue_of_handed split settled named handed
    exact clean m among outcome settled fails packet held named
  ended early m late split outcome settled _ parked packet handed named := by
    have held := h.mem_queue_of_handed split settled named handed
    have coherent := Coherent.of_inPhase (h.through split).inPhase
    rw [(coherent.parked (.inr parked)).2.1] at held
    cases held

/-- A request waits for credentials until its time is up. The caller is told, and supplies them;
once they are accepted the frame of the request leaves all the same. -/
theorem run_straggles_expired :
    ∃ (ms : List (Moment ScriptedNetwork)) (c : Station ScriptedNetwork),
      Run (.create "k" default { requestTimeout := .ofSeconds 30 } 0 1 "s0000001") ms c ∧
        (Run.outcomes ms).map Outcome.isFailure = [true] ∧
        (Run.handed ms).filterMap Packet.requestId? =
          (Run.outcomes ms).map Outcome.requestId ∧ Straggling ms c :=
  have begun : Run (.create "k" default { requestTimeout := .ofSeconds 30 } 0 1 "s0000001") []
      ⟨_, ({} : ScriptedNetwork)⟩ := .begin _
  have hearing {ms : List (Moment ScriptedNetwork)} {c : Station ScriptedNetwork}
      (h : Run (.create "k" default { requestTimeout := .ofSeconds 30 } 0 1 "s0000001") ms c)
      (message : Message) :=
    h.call (.handleEvent ⟨"k", 1⟩ (.frame ((message.encode none).toOption.getD [])) ⟨0⟩)
  have opened := (begun.call (.connect ⟨0⟩)).call (.handleEvent ⟨"k", 1⟩ .opened ⟨0⟩)
  have parked := hearing opened (.authenticate ⟨none, .required []⟩)
  have waiting := parked.call (.request 0x12 [] none ⟨0⟩)
  have expired := waiting.call (.pollTimers ⟨30000000000⟩)
  have run := hearing (expired.call (.authenticate (.str "secret")))
    (.authenticate ⟨none, .success⟩)
  ⟨_, _, run, by decide +kernel, by decide +kernel, run_straggles run⟩

/-- A command waits for credentials when the connection is lost, and fails with it. Its frame is
kept, and leaves on the next connection. -/
theorem run_straggles_unheard :
    ∃ (ms : List (Moment ScriptedNetwork)) (c : Station ScriptedNetwork),
      Run (.create "k" ⟨"h", 22, some "u"⟩ {} 0 1 "s0000001") ms c ∧ ¬ Silenced ms :=
  have begun : Run (.create "k" ⟨"h", 22, some "u"⟩ {} 0 1 "s0000001") []
      ⟨_, ({} : ScriptedNetwork)⟩ := .begin _
  have opened := (begun.call (.connect ⟨0⟩)).call (.handleEvent ⟨"k", 1⟩ .opened ⟨0⟩)
  have parked := opened.call (.handleEvent ⟨"k", 1⟩ (.frame
    (((Message.authenticate ⟨none, .required ["password"]⟩).encode none).toOption.getD [])) ⟨0⟩)
  have waiting := parked.call
    (.request 0x12 [("command", .str "ls"), ("sessionId", .str "r")] none ⟨0⟩)
  have lost := waiting.call (.handleEvent ⟨"k", 1⟩ .closed ⟨1000000000⟩)
  have run := (lost.call (.pollTimers ⟨2000000000⟩)).call
    (.handleEvent ⟨"k", 3⟩ .opened ⟨2100000000⟩)
  have after {early : List (Moment ScriptedNetwork)} {m first second : Moment ScriptedNetwork}
      (h : Silenced (early ++ [m] ++ [first] ++ [second])) :=
    h early m [first, second] (by simp)
  ⟨_, _, run, by
    intro silenced
    have silent := after silenced
    exact silent (List.head _ (by decide +kernel)) (List.head_mem _) (by decide +kernel)
      (List.head _ (by decide +kernel)) (List.head_mem _) (by decide +kernel)⟩

end Switchboard
