import Switchboard.Proofs.Dispatch.Course
/-!
# What a step leaves to wait for

Between two steps, a call waits for a request only while the request is outstanding, and for a
connection only while its session is undecided (`Serving`). Each step but the departure of a caller
comes down to one intake and one resolution (`Handled`), whether the dispatcher goes on, stops or
has stopped (`Serving.handled`).
-/

namespace Switchboard

namespace Registry

variable {σ : Type}

theorem mem_outcomesOf {acts : List (String × Act)} {key : String} {outcome : Outcome} :
    (key, outcome) ∈ outcomesOf acts ↔ outcome ∈ (under key acts).filterMap Act.outcome? := by
  unfold outcomesOf
  rw [List.mem_filterMap, List.mem_filterMap]
  constructor
  · rintro ⟨⟨k, act⟩, mem, eq⟩
    obtain ⟨o, settles, same⟩ := Option.map_eq_some_iff.mp eq
    cases same
    exact ⟨act, mem_under.mpr mem, settles⟩
  · rintro ⟨act, mem, settles⟩
    refine ⟨(key, act), mem_under.mp mem, ?_⟩
    simp only [settles, Option.map_some]

theorem mem_map_requestOf {acts : List (String × Act)} {key id : String} :
    (key, id) ∈ (outcomesOf acts).map requestOf ↔ id ∈ settledIds (under key acts) := by
  unfold settledIds
  rw [List.mem_map, List.mem_map]
  constructor
  · rintro ⟨⟨k, outcome⟩, mem, eq⟩
    cases eq
    exact ⟨outcome, mem_outcomesOf.mp mem, rfl⟩
  · rintro ⟨outcome, mem, rfl⟩
    exact ⟨(key, outcome), mem_outcomesOf.mpr mem, rfl⟩

end Registry

theorem nodup_of_under {α : Type} {entries : List (String × α)}
    (h : ∀ key, (under key entries).Nodup) : entries.Nodup := by
  induction entries with
  | nil => exact List.nodup_nil
  | cons entry rest ih =>
    obtain ⟨k, value⟩ := entry
    refine List.nodup_cons.mpr ⟨fun mem => ?_, ih fun key => ?_⟩
    · have here : under k ((k, value) :: rest) = value :: under k rest :=
        List.filterMap_cons_some (if_pos rfl)
      have own := h k
      rw [here] at own
      exact (List.nodup_cons.mp own).1 (mem_under.mpr mem)
    · exact (h key).sublist ((List.sublist_cons_self _ _).filterMap _)

namespace Dispatcher

variable {σ : Type}

/-! ## What a step does to the calls that wait -/

/-- A dispatcher before a step, the registry that the step has worked on, the calls for requests
that are new, all new calls, the answers given, and the dispatcher after the step. -/
structure Handled (d : Dispatcher σ) (worked : Registry σ) (entered : List RequestWaiter)
    (called : List Ticket) (given : List Answer) (d' : Dispatcher σ) : Prop where
  registry : d'.registry = worked.drainActs.2
  connects : ∀ w ∈ d'.connectWaiters, verdictFor worked w = none
  /-- The calls whose callers had given up are forgotten. -/
  listens : ∀ w ∈ d'.connectWaiters, w.listens = true
  answers : d'.answers = d.answers ++ given
  tickets : (d'.waiting ++ given.map Answer.ticket).Perm (called ++ d.waiting)
  requests : ∃ served, Matched (d.requestWaiters ++ entered) (Registry.outcomesOf worked.acts)
    served d'.requestWaiters ∧ ∀ a ∈ answersOf served, a ∈ given

/-- Calls are answered or wait on, counted ticket by ticket. -/
theorem handled_resolve {d d' : Dispatcher σ} {connects : List ConnectWaiter}
    {entered : List RequestWaiter} {given : List Answer} {called : List Ticket}
    (intake : Intake d d' connects entered given)
    (tickets : newcomers connects entered given = called)
    (distinct : ((d.requestWaiters ++ entered).map RequestWaiter.request).Nodup) :
    ∃ more, Handled d d'.registry entered called more d'.resolve ∧
      d'.resolve.stopped = d.stopped := by
  rw [← intake.requestWaiters] at distinct
  obtain ⟨served, left, matched, resolved⟩ := resolve_spec d' distinct
  refine ⟨given ++ (d'.verdicts ++ answersOf served), ⟨?_, ?_, ?_, ?_, ?_, ?_⟩, ?_⟩
  · rw [resolved]
  · rw [resolved]
    intro w mem
    exact Option.isNone_iff_eq_none.mp (List.mem_filter.mp mem).2
  · rw [resolved]
    exact fun w mem => (List.mem_filter.mp (List.mem_filter.mp mem).1).2
  · rw [resolved, intake.answers, List.append_assoc]
  · have decided := perm_verdicts d'
    have answered := (matched.perm.filter RequestWaiter.listens).map RequestWaiter.ticket
    have came : d'.heard = d.heard ++ connects.filter ConnectWaiter.listens := by
      unfold heard
      rw [intake.connectWaiters, List.filter_append]
    have stay : d'.resolve.heard = d'.heard.filter fun w => (verdictFor d'.registry w).isNone := by
      rw [resolved]
      exact List.filter_eq_self.mpr fun w mem => (List.mem_filter.mp (List.mem_filter.mp mem).1).2
    have stayToo : d'.resolve.requestWaiters = left := by
      rw [resolved]
    rw [came] at decided stay
    rw [intake.requestWaiters] at answered
    -- Calls move between four lists, so the occurrences of each ticket are counted.
    rw [← tickets, List.perm_iff_count]
    rw [List.perm_iff_count] at decided answered
    intro ticket
    have c := decided ticket
    have r := answered ticket
    simp only [waiting, newcomers, stay, stayToo, List.filter_append, List.map_append,
      List.count_append, ticket_answersOf] at c r ⊢
    omega
  · refine ⟨served, ?_, fun a mem => ?_⟩
    · rw [← intake.requestWaiters, resolved]
      exact matched
    · exact List.mem_append_right _ (List.mem_append_right _ mem)
  · rw [resolved]
    exact intake.stopped

theorem Handled.reply {d d' : Dispatcher σ} {worked : Registry σ} {entered : List RequestWaiter}
    {called : List Ticket} {given : List Answer} (h : Handled d worked entered called given d')
    (ticket : Ticket) (result : Except Error Reply) :
    Handled d worked entered (ticket :: called) (given ++ [⟨ticket, result⟩])
      (d'.reply ticket result) where
  registry := h.registry
  connects := h.connects
  listens := h.listens
  answers := by
    dsimp only [Dispatcher.reply]
    rw [h.answers, List.append_assoc]
  tickets := by
    rw [List.map_append, ← List.append_assoc]
    exact List.perm_append_comm.trans (h.tickets.cons ticket)
  requests := by
    obtain ⟨served, matched, gave⟩ := h.requests
    exact ⟨served, matched, fun a mem => List.mem_append_left _ (gave a mem)⟩

/-! ## Between two steps -/

theorem verdictFor_of_empty {r : Registry σ} (empty : r.sessions = []) (w : ConnectWaiter) :
    verdictFor r w ≠ none := by
  have nobody : KeyMap.find? w.key r.sessions = none := by
    rw [empty]
    rfl
  simp [verdictFor, Registry.status, nobody]

variable [Environment σ]

/-- The calls that wait have something to wait for. -/
structure Serving (steps : List (Step σ)) (d : Dispatcher σ) : Prop where
  history : Registry.History (Course.turns steps) d.registry
  /-- All that was published is passed on. -/
  drained : d.registry.acts = []
  requests : ∀ w ∈ d.requestWaiters, w.requestId ∈ d.registry.outstanding w.key
  distinct : (d.requestWaiters.map RequestWaiter.request).Nodup
  connects : ∀ w ∈ d.connectWaiters, verdictFor d.registry w = none
  stopped : d.stopped = true →
    d.connectWaiters = [] ∧ d.requestWaiters = [] ∧ d.registry.sessions = []

/-! ## What a step does to the registry -/

/-- The registry that a step has worked on. -/
structure Worked (steps : List (Step σ)) (m : Step σ) : Prop where
  history : Registry.History (Course.turns (steps ++ [m])) m.worked
  exchange : Registry.Exchange m.before.registry m.issued m.acts m.worked
  acts : m.worked.acts = m.acts
  once : ∀ key, (m.worked.outstanding key ++ settledIds (under key m.acts)).Nodup

theorem Serving.worked {steps : List (Step σ)} {m : Step σ} (h : Serving steps m.before) :
    Worked steps m := by
  have exchange : Registry.Exchange m.before.registry m.issued m.acts m.worked := by
    unfold Step.issued Step.acts Step.worked Step.turn?
    split
    · exact .refl _
    · cases m.input.operation? with
      | none => exact .refl _
      | some operation =>
        exact Registry.Turn.exchange (t := ⟨m.before.registry, operation⟩) h.history.sound
  have history : Registry.History (Course.turns (steps ++ [m])) m.worked := by
    unfold Course.turns Step.worked
    rw [List.filterMap_append]
    cases turned : m.turn? with
    | none =>
      rw [List.filterMap_cons_none turned, List.filterMap_nil, List.append_nil]
      exact h.history
    | some t =>
      rw [List.filterMap_cons_some turned, List.filterMap_nil]
      obtain ⟨operation, -, rfl⟩ := Step.operation_of_turn turned
      exact h.history.turn operation
  have published : m.worked.acts = m.acts := by
    rw [exchange.published, h.drained, List.nil_append]
  refine ⟨history, exchange, published, fun key => ?_⟩
  refine (exchange.balance key).nodup_iff.mpr ?_
  unfold Step.issued
  cases turned : m.turn? with
  | none => exact h.history.sound.issued_fresh (.subscribeStatus) key
  | some t =>
    obtain ⟨operation, -, rfl⟩ := Step.operation_of_turn turned
    exact h.history.sound.issued_fresh operation key

/-- A request that was outstanding before a step or is new is outstanding after it or settled in
it. -/
theorem Worked.outstanding_or {steps : List (Step σ)} {m : Step σ} (h : Worked steps m)
    {key id : String} (mem : id ∈ under key m.issued ++ m.before.registry.outstanding key) :
    id ∈ m.worked.outstanding key ∨ (key, id) ∈ (Registry.outcomesOf m.acts).map requestOf := by
  rw [Registry.mem_map_requestOf]
  exact List.mem_append.mp ((h.exchange.balance key).symm.subset mem)

/-- New requests are none of those that calls wait for. -/
theorem Serving.distinct_with {steps : List (Step σ)} {m : Step σ} (h : Serving steps m.before) :
    ((m.before.requestWaiters ++ m.entered).map RequestWaiter.request).Nodup := by
  have apart (key : String) :
      (under key m.issued ++ m.before.registry.outstanding key).Nodup :=
    (h.worked.exchange.balance key).nodup_iff.mp (h.worked.once key)
  rw [List.map_append, m.request_entered, List.nodup_append]
  refine ⟨h.distinct, nodup_of_under fun key => (List.nodup_append.mp (apart key)).1, ?_⟩
  -- A call that waits does so for an id that was outstanding, and such an id is not given out.
  intro old oldMem id newMem same
  obtain ⟨w, mem, rfl⟩ := List.mem_map.mp oldMem
  rw [← same] at newMem
  exact (List.nodup_append.mp (apart w.key)).2.2 w.requestId (mem_under.mpr newMem) w.requestId
    (h.requests w mem) rfl

theorem Serving.outstanding_or {steps : List (Step σ)} {m : Step σ} (h : Serving steps m.before)
    {w : RequestWaiter} (mem : w ∈ m.before.requestWaiters ++ m.entered) :
    w.requestId ∈ m.worked.outstanding w.key ∨
      w.request ∈ (Registry.outcomesOf m.worked.acts).map requestOf := by
  rw [h.worked.acts]
  refine h.worked.outstanding_or (List.mem_append.mpr ?_)
  rcases List.mem_append.mp mem with old | new
  · exact .inr (h.requests w old)
  · refine .inl (mem_under.mpr ?_)
    rw [← m.request_entered]
    exact List.mem_map_of_mem new

theorem Serving.idle {steps : List (Step σ)} {m : Step σ} (h : Serving steps m.before)
    (empty : m.worked.sessions = []) {called : List Ticket} {given : List Answer}
    {d' : Dispatcher σ} (handled : Handled m.before m.worked m.entered called given d') :
    d'.connectWaiters = [] ∧ d'.requestWaiters = [] := by
  constructor
  · exact List.eq_nil_iff_forall_not_mem.mpr fun w mem =>
      verdictFor_of_empty empty w (handled.connects w mem)
  · refine List.eq_nil_iff_forall_not_mem.mpr fun w mem => ?_
    obtain ⟨served, matched, -⟩ := handled.requests
    obtain ⟨waited, unsettled⟩ := matched.mem_left.mp mem
    rcases h.outstanding_or waited with pending | settled
    · rw [Registry.outstanding_of_empty empty] at pending
      cases pending
    · exact unsettled settled

/-! ## Steps -/

theorem worked_of_going {m : Step σ} (going : m.before.stopped = false) :
    m.worked = (m.input.operation?.map m.before.registry.operate).getD m.before.registry := by
  unfold Step.worked Step.turn?
  rw [going]
  cases m.input.operation? <;> rfl

/-- A dispatcher that has stopped has nothing to handle. -/
theorem Serving.handled_still {steps : List (Step σ)} {m : Step σ} (h : Serving steps m.before)
    (stopped : m.before.stopped = true) : Handled m.before m.worked m.entered [] [] m.before := by
  have worked : m.worked = m.before.registry := Step.worked_of_stopped stopped
  have entered : m.entered = [] := by
    unfold Step.entered
    split
    · rw [if_pos stopped]
    · rfl
  have drained : m.before.registry.drainActs.2 = m.before.registry := by
    dsimp only [Registry.drainActs]
    rw [← h.drained]
  obtain ⟨connects, requests, -⟩ := h.stopped stopped
  rw [worked, entered]
  refine ⟨drained.symm, ?_, ?_, (List.append_nil _).symm, by simp, [], ?_,
    List.forall_mem_nil _⟩
  · rw [connects]
    nofun
  · rw [connects]
    nofun
  · rw [requests]
    exact ⟨rfl, .refl _, nofun⟩

/-- A stop answers every call: no session is left to wait for. -/
theorem Serving.handled_stop {steps : List (Step σ)} {m : Step σ} (h : Serving steps m.before)
    (worked : m.worked = m.before.registry.shutdown) (entered : m.entered = []) :
    ∃ given, Handled m.before m.worked m.entered [] given m.before.stop := by
  have intake : Intake m.before { m.before with registry := m.before.registry.shutdown } [] [] [] :=
    ⟨rfl, (List.append_nil _).symm, (List.append_nil _).symm, (List.append_nil _).symm⟩
  have distinct := h.distinct_with
  rw [entered] at distinct
  obtain ⟨given, handled, -⟩ := handled_resolve intake rfl distinct
  have resolved : Handled m.before m.worked m.entered [] given
      ({ m.before with registry := m.before.registry.shutdown } : Dispatcher σ).resolve := by
    rw [worked, entered]
    exact handled
  have empty : m.worked.sessions = [] := by
    rw [worked]
    exact Registry.sessions_shutdown _
  -- Nobody is left to be refused by `stop` itself.
  obtain ⟨connects, requests⟩ := h.idle empty resolved
  have stop : m.before.stop =
      { ({ m.before with registry := m.before.registry.shutdown } : Dispatcher σ).resolve with
        stopped := true } := by
    unfold Dispatcher.stop
    simp only [waiting, heard, connects, requests, List.filter_nil, List.map_nil, List.append_nil]
  refine ⟨given, ?_⟩
  rw [stop]
  exact ⟨resolved.registry, resolved.connects, resolved.listens, resolved.answers,
    resolved.tickets, resolved.requests⟩

/-- A command that does not stop the dispatcher is taken in and resolved. -/
theorem Serving.handled_execute {steps : List (Step σ)} {d : Dispatcher σ} {ticket : Ticket}
    {command : Command} {now : Instant} (h : Serving steps d) (going : d.stopped = false)
    (goes : command.operation? now ≠ some .shutdown) :
    ∃ given, Handled d (Step.mk d (.command ticket command now)).worked
      (Step.mk d (.command ticket command now)).entered [ticket] given
      (d.execute ticket command now).resolve ∧
      (d.execute ticket command now).resolve.stopped = d.stopped := by
  have distinct := Serving.distinct_with (m := ⟨d, .command ticket command now⟩) h
  have entered : (Step.mk d (.command ticket command now)).entered =
      d.entered ticket command now := by
    unfold Step.entered
    dsimp only
    rw [going]
    rfl
  rw [entered] at distinct
  have taken := taken_execute d ticket now goes distinct
  obtain ⟨connects, given, intake, tickets⟩ := taken.intake
  obtain ⟨more, handled, stopped⟩ := handled_resolve intake tickets distinct
  rw [taken.registry] at handled
  rw [entered, worked_of_going going]
  exact ⟨more, handled, stopped⟩

theorem Serving.handled_operate {steps : List (Step σ)} {m : Step σ} (h : Serving steps m.before)
    (entered : m.entered = [])
    (after : m.after = ({ m.before with registry := m.worked } : Dispatcher σ).resolve) :
    ∃ given, Handled m.before m.worked m.entered [] given m.after ∧
      m.after.stopped = m.before.stopped := by
  have intake : Intake m.before { m.before with registry := m.worked } [] [] [] :=
    ⟨rfl, (List.append_nil _).symm, (List.append_nil _).symm, (List.append_nil _).symm⟩
  have distinct := h.distinct_with
  rw [entered] at distinct ⊢
  rw [after]
  exact handled_resolve intake rfl distinct

/-- After the end a call is refused and nothing else happens. -/
theorem Serving.handled_stopped {steps : List (Step σ)} {m : Step σ} (h : Serving steps m.before)
    (stopped : m.before.stopped = true) (stays : ∀ ticket, m.input ≠ .abandon ticket) :
    ∃ given, Handled m.before m.worked m.entered m.input.called given m.after ∧
      m.after.stopped = true := by
  have still := h.handled_still stopped
  have kept (same : m.after = m.before) (calls : m.input.called = []) :
      ∃ given, Handled m.before m.worked m.entered m.input.called given m.after ∧
        m.after.stopped = true := by
    rw [same, calls]
    exact ⟨[], still, stopped⟩
  obtain ⟨d, input⟩ := m
  cases input with
  | command ticket command now =>
    have refused : (Step.mk d (.command ticket command now)).after =
        d.reply ticket (.error .connectionClosed) := if_pos stopped
    rw [refused]
    exact ⟨_, still.reply ticket _, stopped⟩
  | event id event now => exact kept (if_pos stopped) rfl
  | poll now => exact kept (if_pos stopped) rfl
  | deserted => exact kept (if_pos stopped) rfl
  | abandon ticket => exact absurd rfl (stays ticket)

theorem Serving.handled_shutdown {steps : List (Step σ)} {d : Dispatcher σ} {ticket : Ticket}
    {now : Instant} (h : Serving steps d) (going : d.stopped = false) :
    ∃ given, Handled d (Step.mk d (.command ticket .shutdown now)).worked
      (Step.mk d (.command ticket .shutdown now)).entered [ticket] given
      (d.execute ticket .shutdown now).resolve ∧
      (d.execute ticket .shutdown now).resolve.stopped = true := by
  have entered : (Step.mk d (.command ticket .shutdown now)).entered = [] := by
    unfold Step.entered
    dsimp only
    rw [going]
    rfl
  obtain ⟨given, handled⟩ :=
    Serving.handled_stop (m := ⟨d, .command ticket .shutdown now⟩) h (worked_of_going going) entered
  -- The caller of the shutdown is answered last, and nobody is left to resolve.
  have idle : (d.execute ticket .shutdown now).resolve = d.stop.reply ticket (.ok .done) :=
    resolve_of_idle rfl rfl (congrArg Registry.acts handled.registry)
  rw [idle]
  exact ⟨_, handled.reply ticket _, rfl⟩

theorem Serving.handled_going {steps : List (Step σ)} {m : Step σ} (h : Serving steps m.before)
    (going : m.before.stopped = false) (stays : ∀ ticket, m.input ≠ .abandon ticket) :
    ∃ given, Handled m.before m.worked m.entered m.input.called given m.after ∧
      m.after.stopped = m.input.stops := by
  have goes : ¬ m.before.stopped = true := by
    rw [going]
    nofun
  obtain ⟨d, input⟩ := m
  cases input with
  | command ticket command now =>
    have executed : (Step.mk d (.command ticket command now)).after =
        (d.execute ticket command now).resolve := if_neg goes
    rw [executed]
    have taken (other : command.operation? now ≠ some .shutdown) :
        ∃ given, Handled d (Step.mk d (.command ticket command now)).worked
          (Step.mk d (.command ticket command now)).entered [ticket] given
          (d.execute ticket command now).resolve ∧
          (d.execute ticket command now).resolve.stopped = false := by
      obtain ⟨given, handled, same⟩ := Serving.handled_execute h going other
      exact ⟨given, handled, same.trans going⟩
    cases command with
    | shutdown => exact h.handled_shutdown going
    | _ => exact taken nofun
  | event id event now =>
    obtain ⟨given, handled, same⟩ := h.handled_operate rfl (by
      rw [worked_of_going going]
      exact if_neg goes)
    exact ⟨given, handled, same.trans going⟩
  | poll now =>
    obtain ⟨given, handled, same⟩ := h.handled_operate rfl (by
      rw [worked_of_going going]
      exact if_neg goes)
    exact ⟨given, handled, same.trans going⟩
  | deserted =>
    have resolved : (Step.mk d .deserted).after = d.stop := if_neg goes
    rw [resolved]
    obtain ⟨given, handled⟩ := h.handled_stop (worked_of_going going) rfl
    exact ⟨given, handled, rfl⟩
  | abandon ticket => exact absurd rfl (stays ticket)

theorem Serving.handled {steps : List (Step σ)} {m : Step σ} (h : Serving steps m.before)
    (stays : ∀ ticket, m.input ≠ .abandon ticket) :
    ∃ given, Handled m.before m.worked m.entered m.input.called given m.after ∧
      m.after.stopped = (m.before.stopped || m.input.stops) := by
  cases stopped : m.before.stopped with
  | true => exact h.handled_stopped stopped stays
  | false => exact h.handled_going stopped stays

end Dispatcher

end Switchboard
