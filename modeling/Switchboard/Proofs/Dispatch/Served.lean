import Switchboard.Proofs.Dispatch.Service
/-!
# Every call is served

A call that waits for a request waits on while the request is outstanding, is answered with the
outcome of the request, or is given up by its caller (`Fate`). A call that was given up is kept
until its request ends, but its caller is told nothing. Over a course, each call waits, was answered
or was given up, one of them and once, and a stop leaves nobody waiting, no session and no open
transport (`course_served`). Nothing is assumed about the marks of the sessions: a session settles
its requests before another one takes its place, so the calls that wait at one time wait for
different requests even if two sessions share a mark.
-/

namespace Switchboard

namespace Dispatcher

variable {σ : Type}

theorem waiting_abandon (d : Dispatcher σ) (ticket : Ticket) :
    (d.abandon ticket).waiting = d.waiting.filter (· ≠ ticket) := by
  have connects : ((d.connectWaiters.map (ConnectWaiter.abandon ticket)).filter
      ConnectWaiter.listens).map ConnectWaiter.ticket =
      (d.heard.map ConnectWaiter.ticket).filter (· ≠ ticket) := by
    unfold heard
    rw [List.filter_map, List.filter_map, List.filter_filter, List.map_map]
    simp [Function.comp_def, ConnectWaiter.abandon, Bool.and_comm]
  have requests : ((d.requestWaiters.map (RequestWaiter.abandon ticket)).filter
      RequestWaiter.listens).map RequestWaiter.ticket =
      ((d.requestWaiters.filter RequestWaiter.listens).map RequestWaiter.ticket).filter
        (· ≠ ticket) := by
    rw [List.filter_map, List.filter_map, List.filter_filter, List.map_map]
    simp [Function.comp_def, RequestWaiter.abandon, Bool.and_comm]
  unfold waiting
  rw [List.filter_append, ← connects, ← requests]
  rfl

theorem RequestWaiter.abandon_of_eq {ticket : Ticket} {w : RequestWaiter}
    (mine : w.ticket = ticket) : w.abandon ticket = { w with listens := false } := by
  unfold RequestWaiter.abandon
  rw [decide_eq_false (not_not_intro mine), Bool.and_false]

theorem RequestWaiter.abandon_of_ne {ticket : Ticket} {w : RequestWaiter}
    (other : w.ticket ≠ ticket) : w.abandon ticket = w := by
  unfold RequestWaiter.abandon
  rw [decide_eq_true other, Bool.and_true]

theorem mem_waiting {d : Dispatcher σ} {w : RequestWaiter} (mem : w ∈ d.requestWaiters)
    (listens : w.listens = true) : w.ticket ∈ d.waiting :=
  List.mem_append_right _ (List.mem_map_of_mem (List.mem_filter.mpr ⟨mem, listens⟩))

variable [Environment σ]

/-! ## A step -/

/-- What becomes in a step of a call that waits for a request. -/
inductive Fate (m : Step σ) (w : RequestWaiter) : Prop where
  /-- The request was not settled. -/
  | waits (mem : w ∈ m.after.requestWaiters)
      (unsettled : w.request ∉ (Registry.outcomesOf m.acts).map requestOf)
  /-- The session produced an outcome, the only one of that request, and the call got it, unless
  its caller had given up before. -/
  | answered (outcome : Outcome) (produced : (w.key, outcome) ∈ Registry.outcomesOf m.acts)
      (named : outcome.requestId = w.requestId)
      (only : ∀ other, (w.key, other) ∈ Registry.outcomesOf m.acts →
        other.requestId = w.requestId → other = outcome)
      (answer : w.listens = true → answerOf (w, outcome) ∈ m.answers)
      (gone : w ∉ m.after.requestWaiters)
  /-- Its caller gave up, so nobody listens while the request is still outstanding. -/
  | abandoned (mem : w.ticket ∈ m.abandoned) (gone : w ∉ m.after.requestWaiters)
      (kept : { w with listens := false } ∈ m.after.requestWaiters)

namespace Fate

variable {m : Step σ} {w : RequestWaiter}

theorem waits_or (fate : Fate m w) (listens : w.listens = true) :
    w ∈ m.after.requestWaiters ∨ w.ticket ∈ m.released := by
  cases fate with
  | waits mem => exact .inl mem
  | answered _ _ _ _ answer =>
    exact .inr (List.mem_append_left _ (List.mem_map_of_mem (f := Answer.ticket) (answer listens)))
  | abandoned mem => exact .inr (List.mem_append_right _ mem)

/-- Where no wait ends twice, what a call is answered is the outcome of its request. -/
theorem reply (fate : Fate m w) (listens : w.listens = true)
    (once : (m.after.waiting ++ m.released).Nodup) {a : Answer} (mem : a ∈ m.answers)
    (mine : a.ticket = w.ticket) :
    ∃ outcome, (w.key, outcome) ∈ Registry.outcomesOf m.acts ∧
      outcome.requestId = w.requestId ∧ a = answerOf (w, outcome) := by
  have answered : a.ticket ∈ m.answers.map Answer.ticket := List.mem_map_of_mem mem
  obtain ⟨-, ended, apart⟩ := List.nodup_append.mp once
  obtain ⟨distinct, -, given_up⟩ := List.nodup_append.mp ended
  cases fate with
  | waits waiting =>
    have waited := mem_waiting waiting listens
    exact absurd mine.symm (apart _ waited _ (List.mem_append_left _ answered))
  | answered outcome produced named _ answer =>
    exact ⟨outcome, produced, named, List.inj_on_of_nodup_map distinct mem (answer listens) mine⟩
  | abandoned gone => exact absurd mine (given_up _ answered _ gone)

end Fate

/-- What a step does, as the callers see it. -/
structure Advance (m : Step σ) : Prop where
  registry : m.after.registry = m.worked.drainActs.2
  connects : ∀ w ∈ m.after.connectWaiters, verdictFor m.worked w = none
  remain : (m.after.requestWaiters.map RequestWaiter.request).Sublist
    ((m.before.requestWaiters ++ m.entered).map RequestWaiter.request)
  unsettled : ∀ w ∈ m.after.requestWaiters,
    w.request ∉ (Registry.outcomesOf m.acts).map requestOf
  fate : ∀ w ∈ m.before.requestWaiters ++ m.entered, Fate m w
  tickets : (m.after.waiting ++ m.released).Perm (m.input.called ++ m.before.waiting)
  stopped : m.after.stopped = (m.before.stopped || m.input.stops)
  /-- The world was asked for what the acts tell of transports, and for nothing else. -/
  asked : Asked m.before.registry.world (m.acts.map Prod.snd) m.after.registry.world

theorem Worked.only {steps : List (Step σ)} {m : Step σ} (h : Worked steps m) {key : String}
    {outcome other : Outcome} (mem : (key, outcome) ∈ Registry.outcomesOf m.acts)
    (too : (key, other) ∈ Registry.outcomesOf m.acts)
    (same : other.requestId = outcome.requestId) : other = outcome := by
  have once : (settledIds (under key m.acts)).Nodup := (List.nodup_append.mp (h.once key)).2.1
  unfold settledIds at once
  exact List.inj_on_of_nodup_map once (Registry.mem_outcomesOf.mp too)
    (Registry.mem_outcomesOf.mp mem) same

/-- The calls that are served are answered and gone, the others wait on. -/
theorem Serving.fate {steps : List (Step σ)} {m : Step σ} (h : Serving steps m.before)
    {called : List Ticket} {given : List Answer}
    (handled : Handled m.before m.worked m.entered called given m.after) {w : RequestWaiter}
    (mem : w ∈ m.before.requestWaiters ++ m.entered) : Fate m w := by
  obtain ⟨served, matched, gave⟩ := handled.requests
  have answers : m.answers = given := by
    unfold Step.answers
    rw [handled.answers, List.drop_left]
  rw [h.worked.acts] at matched
  by_cases settled : w.request ∈ (Registry.outcomesOf m.acts).map requestOf
  · obtain ⟨outcome, mine⟩ := matched.given_of_mem mem settled
    obtain ⟨produced, named⟩ := matched.right w outcome mine
    refine .answered outcome produced named (fun other too same => ?_) ?_ fun left => ?_
    · exact h.worked.only produced too (same.trans named.symm)
    · rw [answers]
      exact fun listens => gave _ (answerOf_mem mine listens)
    · exact (matched.mem_left.mp left).2 settled
  · exact .waits (matched.mem_left.mpr ⟨mem, settled⟩) settled

theorem Serving.advance_handled {steps : List (Step σ)} {m : Step σ} (h : Serving steps m.before)
    (stays : ∀ ticket, m.input ≠ .abandon ticket) : Advance m := by
  obtain ⟨given, handled, stopped⟩ := h.handled stays
  refine ⟨handled.registry, handled.connects, ?_, ?_, fun w mem => h.fate handled mem, ?_,
    stopped, ?_⟩
  · obtain ⟨served, matched, -⟩ := handled.requests
    rw [matched.left_eq]
    exact List.filter_sublist.map _
  · obtain ⟨served, matched, -⟩ := handled.requests
    rw [← h.worked.acts]
    exact fun w mem => (matched.mem_left.mp mem).2
  · have released : m.released = given.map Answer.ticket := by
      have nobody : m.abandoned = [] := by
        unfold Step.abandoned
        split
        · next ticket given_up => exact absurd given_up (stays ticket)
        · rfl
      unfold Step.released Step.answers
      rw [nobody, handled.answers, List.drop_left, List.append_nil]
    rw [released]
    exact handled.tickets
  · rw [handled.registry]
    exact h.worked.exchange.asked

theorem acts_abandon (d : Dispatcher σ) (ticket : Ticket) :
    (Step.mk d (.abandon ticket)).acts = [] := by
  unfold Step.acts Step.turn?
  split <;> rfl

theorem worked_abandon (d : Dispatcher σ) (ticket : Ticket) :
    (Step.mk d (.abandon ticket)).worked = d.registry := by
  unfold Step.worked Step.turn?
  split <;> rfl

/-- A call whose caller departs is given up if it was waited for, and any other call waits on. -/
theorem fate_abandon {d : Dispatcher σ} {w : RequestWaiter} (mem : w ∈ d.requestWaiters)
    (ticket : Ticket) : Fate ⟨d, .abandon ticket⟩ w := by
  have kept : w.abandon ticket ∈ (Step.mk d (.abandon ticket)).after.requestWaiters :=
    List.mem_map_of_mem mem
  by_cases left : w.ticket = ticket ∧ w.listens = true
  · obtain ⟨mine, listens⟩ := left
    rw [RequestWaiter.abandon_of_eq mine] at kept
    refine .abandoned (List.mem_filter.mpr ⟨mem_waiting mem listens, decide_eq_true mine⟩)
      (fun stays => ?_) kept
    -- Whatever has this ticket now is listened to no more.
    obtain ⟨v, -, same⟩ := List.mem_map.mp stays
    have mineToo : v.ticket = ticket := by
      rw [← same] at mine
      exact mine
    rw [RequestWaiter.abandon_of_eq mineToo] at same
    rw [← same] at listens
    cases listens
  · have same : w.abandon ticket = w := by
      by_cases mine : w.ticket = ticket
      · have deaf : w.listens = false := eq_false_of_ne_true fun listens => left ⟨mine, listens⟩
        unfold RequestWaiter.abandon
        rw [deaf, Bool.false_and, ← deaf]
      · exact RequestWaiter.abandon_of_ne mine
    refine .waits (same ▸ kept) ?_
    rw [acts_abandon]
    nofun

/-- Who departs waited before and does not wait any more. -/
theorem tickets_abandon (d : Dispatcher σ) (ticket : Ticket) :
    ((d.abandon ticket).waiting ++ (Step.mk d (.abandon ticket)).released).Perm d.waiting := by
  have released : (Step.mk d (.abandon ticket)).released = d.waiting.filter (· = ticket) := by
    unfold Step.released Step.answers
    rw [show (Step.mk d (.abandon ticket)).after = d.abandon ticket from rfl]
    dsimp only [abandon]
    rw [List.drop_length]
    rfl
  rw [waiting_abandon, released]
  refine List.perm_append_comm.trans ?_
  have parted := List.filter_append_perm (fun t => decide (t = ticket)) d.waiting
  simpa using parted

/-- The departure of a caller is nothing to the registry. -/
theorem Serving.advance_abandon {steps : List (Step σ)} {d : Dispatcher σ} (h : Serving steps d)
    (ticket : Ticket) : Advance ⟨d, .abandon ticket⟩ where
  registry := by
    rw [worked_abandon]
    show d.registry = d.registry.drainActs.2
    dsimp only [Registry.drainActs]
    rw [← h.drained]
  connects w mem := by
    rw [worked_abandon]
    obtain ⟨v, waited, rfl⟩ := List.mem_map.mp mem
    exact h.connects v waited
  remain := by
    show ((d.requestWaiters.map (RequestWaiter.abandon ticket)).map RequestWaiter.request).Sublist
      ((d.requestWaiters ++ []).map RequestWaiter.request)
    rw [List.map_map, List.append_nil]
    exact .refl _
  unsettled w _ := by
    rw [acts_abandon]
    nofun
  fate w mem := fate_abandon ((List.mem_append.mp mem).resolve_right List.not_mem_nil) ticket
  tickets := tickets_abandon d ticket
  stopped := (Bool.or_false _).symm
  asked := by
    rw [acts_abandon]
    exact .nothing

theorem Serving.advance {steps : List (Step σ)} {m : Step σ} (h : Serving steps m.before) :
    Advance m := by
  obtain ⟨d, input⟩ := m
  cases input with
  | abandon ticket => exact Serving.advance_abandon h ticket
  | _ => exact h.advance_handled nofun

/-- A call that waits on waits for a request that is outstanding. -/
theorem Serving.outstanding {steps : List (Step σ)} {m : Step σ} (h : Serving steps m.before)
    (advance : Advance m) {w : RequestWaiter} (mem : w ∈ m.after.requestWaiters) :
    w.requestId ∈ m.worked.outstanding w.key := by
  have waited := advance.remain.subset (List.mem_map_of_mem mem)
  obtain ⟨v, found, same⟩ := List.mem_map.mp waited
  have unsettled := advance.unsettled w mem
  rw [← same, ← h.worked.acts] at unsettled
  have pending := (h.outstanding_or found).resolve_right unsettled
  rw [RequestWaiter.request, RequestWaiter.request, Prod.mk.injEq] at same
  rwa [same.1, same.2] at pending

/-- A dispatcher that stops, or has stopped, has no session left. -/
theorem Serving.empty {steps : List (Step σ)} {m : Step σ} (h : Serving steps m.before)
    (ends : (m.before.stopped || m.input.stops) = true) : m.worked.sessions = [] := by
  cases stopped : m.before.stopped with
  | true =>
    rw [Step.worked_of_stopped stopped]
    exact (h.stopped stopped).2.2
  | false =>
    rw [stopped, Bool.false_or] at ends
    have shutdown : m.input.operation? = some .shutdown := by
      unfold Input.stops at ends
      split at ends
      · next input => rw [input]; rfl
      · next input => rw [input]; rfl
      · cases ends
    rw [worked_of_going stopped, shutdown]
    exact Registry.sessions_shutdown _

/-- Calls that wait have something to wait for after each step as before it. -/
theorem Serving.step {steps : List (Step σ)} {m : Step σ} (h : Serving steps m.before) :
    Serving (steps ++ [m]) m.after := by
  have advance := h.advance
  have requests : ∀ w ∈ m.after.requestWaiters,
      w.requestId ∈ m.after.registry.outstanding w.key := by
    intro w mem
    rw [advance.registry]
    exact h.outstanding advance mem
  have connects : ∀ w ∈ m.after.connectWaiters, verdictFor m.after.registry w = none := by
    rw [advance.registry]
    exact advance.connects
  refine ⟨?_, ?_, requests, ?_, connects, fun stopped => ?_⟩
  · rw [advance.registry]
    exact h.worked.history.drainActs
  · rw [advance.registry]
    rfl
  · exact h.distinct_with.sublist advance.remain
  · rw [advance.stopped] at stopped
    have empty : m.after.registry.sessions = [] := by
      rw [advance.registry]
      exact h.empty stopped
    refine ⟨?_, ?_, empty⟩
    · exact List.eq_nil_iff_forall_not_mem.mpr fun w mem =>
        verdictFor_of_empty empty w (connects w mem)
    · refine List.eq_nil_iff_forall_not_mem.mpr fun w mem => ?_
      have pending := requests w mem
      rw [Registry.outstanding_of_empty empty] at pending
      cases pending

/-! ## A course -/

theorem Course.serving {steps : List (Step σ)} {d : Dispatcher σ} (h : Course steps d) :
    Serving steps d := by
  induction h with
  | begin world defaults marks =>
    exact ⟨.begin world defaults marks, rfl, nofun, List.nodup_nil, nofun, nofun⟩
  | step _ input ih => exact Serving.step (m := ⟨_, input⟩) ih
  | drainAnswers _ ih =>
    exact ⟨ih.history, ih.drained, ih.requests, ih.distinct, ih.connects, ih.stopped⟩
  | drainNotices _ ih =>
    exact ⟨ih.history.drainNotices, ih.drained, ih.requests, ih.distinct, ih.connects, ih.stopped⟩
  | world _ world ih =>
    exact ⟨ih.history.world world, ih.drained, ih.requests, ih.distinct, ih.connects, ih.stopped⟩

namespace Course

variable {steps : List (Step σ)} {d : Dispatcher σ}

theorem advance (h : Course steps d) (input : Input) : Advance ⟨d, input⟩ :=
  Serving.advance h.serving

theorem advances (h : Course steps d) : ∀ m ∈ steps, Advance m := by
  induction h with
  | begin world defaults marks => exact List.forall_mem_nil _
  | step h input ih =>
    intro m mem
    rcases List.mem_append.mp mem with earlier | last
    · exact ih m earlier
    · cases List.mem_singleton.mp last
      exact h.advance input
  | drainAnswers _ ih => exact ih
  | drainNotices _ ih => exact ih
  | world _ _ ih => exact ih

theorem tickets (h : Course steps d) : (called steps).Perm (d.waiting ++ released steps) := by
  induction h with
  | begin world defaults marks => exact .refl _
  | @step steps d h input ih =>
    have tickets : ((d.handle input).waiting ++ (Step.mk d input).released).Perm
        (input.called ++ d.waiting) := (h.advance input).tickets
    rw [released_concat, called_concat]
    rw [List.perm_iff_count] at ih tickets ⊢
    intro ticket
    have before := ih ticket
    have here := tickets ticket
    simp only [List.count_append] at before here ⊢
    omega
  | drainAnswers _ ih => exact ih
  | drainNotices _ ih => exact ih
  | world _ _ ih => exact ih

theorem once (h : Course steps d) (distinct : (called steps).Nodup) :
    (d.waiting ++ released steps).Nodup :=
  h.tickets.nodup_iff.mp distinct

theorem entered_or (h : Course steps d) {w : RequestWaiter} (mem : w ∈ entered steps) :
    w ∈ d.requestWaiters ∨ w.ticket ∈ released steps := by
  induction h with
  | begin world defaults marks => cases mem
  | @step steps d h input ih =>
    have listens := listens_of_entered mem
    rw [entered_concat] at mem
    rw [released_concat, List.mem_append]
    have waited : w ∈ d.requestWaiters ++ (Step.mk d input).entered ∨
        w.ticket ∈ released steps := by
      rcases List.mem_append.mp mem with earlier | new
      · exact (ih earlier).imp_left (List.mem_append_left _)
      · exact .inl (List.mem_append_right _ new)
    rcases waited with waited | ended
    · exact (((h.advance input).fate w waited).waits_or listens).imp_right .inr
    · exact .inr (.inl ended)
  | drainAnswers _ ih => exact ih mem
  | drainNotices _ ih => exact ih mem
  | world _ _ ih => exact ih mem

/-- What a call for a request is answered is the outcome of that request. -/
theorem replies (h : Course steps d) (distinct : (called steps).Nodup) :
    ∀ m ∈ steps, ∀ a ∈ m.answers, ∀ w ∈ entered steps, a.ticket = w.ticket →
      ∃ outcome, (w.key, outcome) ∈ Registry.outcomesOf m.acts ∧
        outcome.requestId = w.requestId ∧ a = answerOf (w, outcome) := by
  induction h with
  | begin world defaults marks => exact List.forall_mem_nil _
  | @step steps d h input ih =>
    have once := (h.step input).once distinct
    rw [called_concat] at distinct
    rw [released_concat] at once
    have here : ((d.handle input).waiting ++ (Step.mk d input).released).Nodup :=
      once.sublist ((List.sublist_append_right _ _).append_left _)
    rw [← List.append_assoc, List.nodup_append] at once
    obtain ⟨earlier, -, later⟩ := once
    have fate := (h.advance input).fate
    intro n memN a memA w memW mine
    have listens := listens_of_entered memW
    rw [entered_concat] at memW
    rcases List.mem_append.mp memN with old | last
    · have ended : a.ticket ∈ released steps :=
        List.mem_flatMap.mpr ⟨n, old, List.mem_append_left _ (List.mem_map_of_mem memA)⟩
      rcases List.mem_append.mp memW with before | new
      · exact ih (List.nodup_append.mp distinct).1 n old a memA w before mine
      · -- A call that has just come was not answered before.
        rw [mine] at ended
        rcases (fate w (List.mem_append_right _ new)).waits_or listens with waits | gone
        · have waited : w.ticket ∈ (d.handle input).waiting := mem_waiting waits listens
          exact absurd rfl ((List.nodup_append.mp earlier).2.2 _ waited _ ended)
        · exact absurd rfl (later _ (List.mem_append_right _ ended) _ gone)
    · cases List.mem_singleton.mp last
      have answered : a.ticket ∈ (Step.mk d input).released :=
        List.mem_append_left _ (List.mem_map_of_mem memA)
      have waited : w ∈ d.requestWaiters ++ (Step.mk d input).entered ∨
          w.ticket ∈ released steps := by
        rcases List.mem_append.mp memW with before | new
        · exact (h.entered_or before).imp_left (List.mem_append_left _)
        · exact .inl (List.mem_append_right _ new)
      -- A call whose wait ended before is not answered again.
      rcases waited with waited | ended
      · exact (fate w waited).reply listens here memA mine
      · rw [← mine] at ended
        exact absurd rfl (later _ (List.mem_append_right _ ended) _ answered)
  | drainAnswers _ ih => exact ih distinct
  | drainNotices _ ih => exact ih distinct
  | world _ _ ih => exact ih distinct

theorem answered_nodup (h : Course steps d) (distinct : (called steps).Nodup) :
    (answered steps).Nodup := by
  have parted : (answered steps ++ steps.flatMap Step.abandoned).Perm (released steps) :=
    List.flatMap_append_perm steps (fun m => m.answers.map Answer.ticket) Step.abandoned
  have ended : (released steps).Nodup := (List.nodup_append.mp (h.once distinct)).2.1
  exact (List.nodup_append.mp (parted.nodup_iff.mpr ended)).1

theorem stops (h : Course steps d) : ∀ m ∈ steps, m.input.stops = true → d.stopped = true := by
  induction h with
  | begin world defaults marks => exact List.forall_mem_nil _
  | @step steps d h input ih =>
    intro m mem stops
    have stopped : (d.handle input).stopped = (d.stopped || input.stops) :=
      (h.advance input).stopped
    rw [stopped]
    rcases List.mem_append.mp mem with earlier | last
    · rw [ih m earlier stops, Bool.true_or]
    · cases List.mem_singleton.mp last
      rw [show input.stops = true from stops, Bool.or_true]
  | drainAnswers _ ih => exact ih
  | drainNotices _ ih => exact ih
  | world _ _ ih => exact ih

end Course

/-- What callers can rely on. -/
structure Served (steps : List (Step σ)) (d : Dispatcher σ) : Prop where
  /-- The request of a call that waits is outstanding in the session under its key. -/
  requests : ∀ w ∈ d.requestWaiters, ∃ s, KeyMap.find? w.key d.registry.sessions = some s ∧
    w.requestId ∈ s.requests.ids
  /-- A connect call waits for the session under its key, which is undecided. -/
  connects : ∀ w ∈ d.connectWaiters, ∃ s, KeyMap.find? w.key d.registry.sessions = some s ∧
    s.serial = w.serial ∧ s.snapshot.verdict = none
  /-- In each step, each call that waits for a request waits on, is answered with the one outcome
  of its request, or is given up. -/
  fate : ∀ m ∈ steps, ∀ w ∈ m.before.requestWaiters ++ m.entered, Fate m w
  /-- Each call waits, was answered or was given up. -/
  tickets : (Course.called steps).Perm (d.waiting ++ Course.released steps)
  /-- No call is answered twice. -/
  once : (Course.called steps).Nodup → (Course.answered steps).Nodup
  /-- What a call for a request is answered is the outcome of that request. -/
  replies : (Course.called steps).Nodup → ∀ m ∈ steps, ∀ a ∈ m.answers,
    ∀ w ∈ Course.entered steps, a.ticket = w.ticket →
      ∃ outcome, (w.key, outcome) ∈ Registry.outcomesOf m.acts ∧
        outcome.requestId = w.requestId ∧ a = answerOf (w, outcome)
  /-- What the acts of a step tell of transports is what the world was asked for in it. -/
  asked : ∀ m ∈ steps,
    Asked m.before.registry.world (m.acts.map Prod.snd) m.after.registry.world
  stops : ∀ m ∈ steps, m.input.stops = true → d.stopped = true
  /-- After a stop nobody waits, no session is registered and all that was opened was closed. -/
  stopped : d.stopped = true → d.waiting = [] ∧ d.registry.sessions = [] ∧
    ∀ key, openedIds (under key (Registry.History.acts (Course.turns steps))) =
      closedIds (under key (Registry.History.acts (Course.turns steps)))

theorem Serving.undecided {steps : List (Step σ)} {d : Dispatcher σ} (h : Serving steps d)
    {w : ConnectWaiter} (mem : w ∈ d.connectWaiters) :
    ∃ s, KeyMap.find? w.key d.registry.sessions = some s ∧ s.serial = w.serial ∧
      s.snapshot.verdict = none := by
  have undecided := h.connects w mem
  unfold verdictFor Registry.status at undecided
  cases found : KeyMap.find? w.key d.registry.sessions with
  | none =>
    rw [found] at undecided
    cases undecided
  | some s =>
    rw [found] at undecided
    dsimp only [Option.map_some] at undecided
    split at undecided
    · next same => exact ⟨s, rfl, same, undecided⟩
    · cases undecided

theorem Serving.closed {steps : List (Step σ)} {d : Dispatcher σ} (h : Serving steps d)
    (empty : d.registry.sessions = []) (key : String) :
    openedIds (under key (Registry.History.acts (Course.turns steps))) =
      closedIds (under key (Registry.History.acts (Course.turns steps))) := by
  have turns := h.history.turns key
  have nothing : d.registry.held key = none := by
    refine Registry.held_of_none ?_
    rw [empty]
    rfl
  rw [nothing, Turns, Option.toList_none, List.nil_append, List.append_nil] at turns
  exact turns

/-- Every call is served, whatever comes in whatever order. -/
theorem course_served {steps : List (Step σ)} {d : Dispatcher σ} (h : Course steps d) :
    Served steps d where
  requests w mem := Registry.exists_of_mem_outstanding (h.serving.requests w mem)
  connects _ mem := h.serving.undecided mem
  fate m mem := (h.advances m mem).fate
  tickets := h.tickets
  once := h.answered_nodup
  replies := h.replies
  asked m mem := (h.advances m mem).asked
  stops := h.stops
  stopped ended := by
    obtain ⟨connects, requests, empty⟩ := h.serving.stopped ended
    refine ⟨?_, empty, h.serving.closed empty⟩
    unfold waiting heard
    rw [connects, requests]
    rfl

/-- A connect call and a request call that still wait when a third caller stops the dispatcher. -/
theorem course_served_shut_down :
    ∃ (steps : List (Step ScriptedNetwork)) (d : Dispatcher ScriptedNetwork),
      Course steps d ∧ Course.called steps = [1, 2, 3] ∧ Course.answered steps = [1, 2, 3] ∧
        Course.entered steps = [⟨2, "k", "s0000001-1", true⟩] ∧ d.stopped = true ∧ Served steps d :=
  have begun : Course [] _ := .begin ({} : ScriptedNetwork) {} scriptedMark
  have course := ((begun.step (.command 1 (.connect "k" default none) ⟨0⟩)).step
    (.command 2 (.request "k" 0x30 [] none) ⟨0⟩)).step (.command 3 .shutdown ⟨0⟩)
  ⟨_, _, course, by decide, by decide, by decide, by decide, course_served course⟩

end Dispatcher

end Switchboard
