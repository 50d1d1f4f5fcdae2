import Switchboard.Dispatch.Basic
import Switchboard.Proofs.Registry.Accounts
/-!
# Whose wait has ended

`Dispatcher.resolve` answers the connect calls whose session is decided and the request calls whose
outcome was published, and leaves the others waiting (`resolve_spec`). As no two calls wait for one
request, an outcome answers one call at most.
-/

namespace Switchboard

/-- The key and the id of the request that an outcome ends. -/
def requestOf (entry : String × Outcome) : String × String := (entry.1, entry.2.requestId)

/-- What an outcome answers to a call that waits for it. -/
def answerOf (given : RequestWaiter × Outcome) : Answer :=
  ⟨given.1.ticket, given.2.result.map .frame⟩

/-- What callers are told of the outcomes that are given to their calls. -/
def answersOf (given : List (RequestWaiter × Outcome)) : List Answer :=
  given.flatMap fun entry => entry.1.answers entry.2.result

@[simp] theorem answersOf_nil : answersOf [] = [] := rfl

theorem answerOf_mem {given : List (RequestWaiter × Outcome)} {w : RequestWaiter}
    {outcome : Outcome} (mem : (w, outcome) ∈ given) (listens : w.listens = true) :
    answerOf (w, outcome) ∈ answersOf given := by
  refine List.mem_flatMap.mpr ⟨_, mem, ?_⟩
  unfold RequestWaiter.answers
  rw [if_pos listens]
  exact List.mem_singleton_self _

/-- Those are told whose callers listen. -/
theorem ticket_answersOf (given : List (RequestWaiter × Outcome)) :
    (answersOf given).map Answer.ticket =
      ((given.map Prod.fst).filter RequestWaiter.listens).map RequestWaiter.ticket := by
  unfold answersOf RequestWaiter.answers
  induction given with
  | nil => rfl
  | cons entry rest ih =>
    rw [List.flatMap_cons, List.map_append, ih, List.map_cons]
    cases listens : entry.1.listens with
    | true =>
      rw [List.filter_cons_of_pos listens]
      rfl
    | false =>
      rw [List.filter_cons_of_neg (ne_true_of_eq_false listens)]
      rfl

/-- The calls that wait and the outcomes that have come are matched: each outcome that is given to a
call is that of its request, and the calls that are left have none. -/
structure Matched (waiting : List RequestWaiter) (outcomes : List (String × Outcome))
    (given : List (RequestWaiter × Outcome)) (left : List RequestWaiter) : Prop where
  left_eq : left = waiting.filter fun w => !(outcomes.map requestOf).contains w.request
  perm : (given.map Prod.fst ++ left).Perm waiting
  right : ∀ w outcome, (w, outcome) ∈ given →
    (w.key, outcome) ∈ outcomes ∧ outcome.requestId = w.requestId

namespace Matched

variable {waiting left left' : List RequestWaiter} {outcomes more : List (String × Outcome)}
  {given given' : List (RequestWaiter × Outcome)}

theorem mem_left (h : Matched waiting outcomes given left) {w : RequestWaiter} :
    w ∈ left ↔ w ∈ waiting ∧ w.request ∉ outcomes.map requestOf := by
  rw [h.left_eq, List.mem_filter]
  simp

theorem trans (h : Matched waiting outcomes given left) (k : Matched left more given' left') :
    Matched waiting (outcomes ++ more) (given ++ given') left' where
  left_eq := by
    rw [k.left_eq, h.left_eq, List.filter_filter]
    refine List.filter_congr fun w _ => ?_
    rw [List.map_append, List.contains_append, Bool.not_or, Bool.and_comm]
  perm := by
    rw [List.map_append, List.append_assoc]
    exact (k.perm.append_left _).trans h.perm
  right w outcome mem := by
    rcases List.mem_append.mp mem with mem | mem
    · exact (h.right w outcome mem).imp_left (List.mem_append_left _)
    · exact (k.right w outcome mem).imp_left (List.mem_append_right _)

/-- A call whose outcome has come is given one. -/
theorem given_of_mem (h : Matched waiting outcomes given left) {w : RequestWaiter}
    (mem : w ∈ waiting) (settled : w.request ∈ outcomes.map requestOf) :
    ∃ outcome, (w, outcome) ∈ given := by
  have somewhere := h.perm.symm.subset mem
  rcases List.mem_append.mp somewhere with served | left
  · obtain ⟨⟨w', outcome⟩, gave, rfl⟩ := List.mem_map.mp served
    exact ⟨outcome, gave⟩
  · exact absurd settled (h.mem_left.mp left).2

end Matched

namespace Dispatcher

variable {σ : Type}

theorem awaits_iff {key id : String} {w : RequestWaiter} :
    awaits key id w = true ↔ w.request = (key, id) := by
  simp [awaits, RequestWaiter.request]

/-- The one call that waits for a request, and the calls that wait for others. -/
theorem perm_cons_filter {key id : String} {waiting : List RequestWaiter} {w : RequestWaiter}
    (distinct : (waiting.map RequestWaiter.request).Nodup)
    (found : waiting.find? (awaits key id) = some w) :
    (w :: waiting.filter (!awaits key id ·)).Perm waiting := by
  induction waiting with
  | nil => cases found
  | cons first rest ih =>
    obtain ⟨alone, distinct⟩ := List.nodup_cons.mp distinct
    by_cases this : awaits key id first = true
    · rw [List.find?_cons_of_pos this] at found
      cases found
      -- No other call waits for the request, so the filter drops none of the rest.
      have others : rest.filter (!awaits key id ·) = rest := by
        refine List.filter_eq_self.mpr fun other mem => ?_
        rw [Bool.not_eq_true', Bool.eq_false_iff]
        intro too
        rw [awaits_iff.mp this, ← awaits_iff.mp too] at alone
        exact alone (List.mem_map_of_mem mem)
      rw [List.filter_cons_of_neg (by simp [this]), others]
    · rw [List.find?_cons_of_neg this] at found
      rw [List.filter_cons_of_pos (by simp [this])]
      exact (List.Perm.swap _ _ _).trans ((ih distinct found).cons _)

theorem resolveOutcome_spec (d : Dispatcher σ)
    (distinct : (d.requestWaiters.map RequestWaiter.request).Nodup) (key : String)
    (outcome : Outcome) :
    ∃ given left, Matched d.requestWaiters [(key, outcome)] given left ∧
      d.resolveOutcome key outcome =
        { d with requestWaiters := left, answers := d.answers ++ answersOf given } := by
  have same (w : RequestWaiter) :
      (!([(key, outcome)].map requestOf).contains w.request) =
        !awaits key outcome.requestId w := by
    rw [Bool.eq_iff_iff]
    simp [requestOf, awaits, RequestWaiter.request]
  unfold resolveOutcome
  cases found : d.requestWaiters.find? (awaits key outcome.requestId) with
  | none =>
    have all : d.requestWaiters.filter (!awaits key outcome.requestId ·) = d.requestWaiters :=
      List.filter_eq_self.mpr fun w mem => by
        simpa using List.find?_eq_none.mp found w mem
    refine ⟨[], d.requestWaiters, ⟨?_, .refl _, nofun⟩, by simp⟩
    simp only [same, all]
  | some w =>
    have asked := awaits_iff.mp (List.find?_some found)
    simp only [RequestWaiter.request, Prod.mk.injEq] at asked
    refine ⟨[(w, outcome)], d.requestWaiters.filter (!awaits key outcome.requestId ·),
      ⟨?_, perm_cons_filter distinct found, fun w' outcome' mem => ?_⟩, ?_⟩
    · simp only [same]
    · cases List.mem_singleton.mp mem
      rw [asked.1, asked.2]
      exact ⟨List.mem_singleton_self _, rfl⟩
    · unfold answersOf
      rw [List.flatMap_singleton]

theorem foldl_resolveOutcome (outcomes : List (String × Outcome)) (d : Dispatcher σ)
    (distinct : (d.requestWaiters.map RequestWaiter.request).Nodup) :
    ∃ given left, Matched d.requestWaiters outcomes given left ∧
      outcomes.foldl (fun d (key, outcome) => d.resolveOutcome key outcome) d =
        { d with requestWaiters := left, answers := d.answers ++ answersOf given } := by
  -- By induction on the outcomes: calls that are left wait for distinct requests as before.
  induction outcomes generalizing d with
  | nil => exact ⟨[], d.requestWaiters, ⟨by simp, .refl _, nofun⟩, by simp⟩
  | cons entry rest ih =>
    obtain ⟨key, outcome⟩ := entry
    obtain ⟨given, left, matched, first⟩ := resolveOutcome_spec d distinct key outcome
    have still : (left.map RequestWaiter.request).Nodup := by
      rw [matched.left_eq]
      exact distinct.sublist (List.filter_sublist.map _)
    obtain ⟨more, left', matchedToo, later⟩ :=
      ih { d with requestWaiters := left, answers := d.answers ++ answersOf given } still
    refine ⟨given ++ more, left', matched.trans matchedToo, ?_⟩
    rw [List.foldl_cons]
    dsimp only
    rw [first, later, List.append_assoc]
    unfold answersOf
    rw [List.flatMap_append]

/-- The answers that connect calls get now. -/
def verdicts (d : Dispatcher σ) : List Answer :=
  d.heard.filterMap fun w =>
    (verdictFor d.registry w).map fun result => ⟨w.ticket, result.map .session⟩

/-- What is left after all calls are answered whose wait has ended. -/
theorem resolve_spec (d : Dispatcher σ)
    (distinct : (d.requestWaiters.map RequestWaiter.request).Nodup) :
    ∃ given left, Matched d.requestWaiters (Registry.outcomesOf d.registry.acts) given left ∧
      d.resolve =
        { d with
          registry := d.registry.drainActs.2
          connectWaiters := d.heard.filter fun w => (verdictFor d.registry w).isNone
          requestWaiters := left
          answers := d.answers ++ (d.verdicts ++ answersOf given) } := by
  obtain ⟨given, left, matched, resolved⟩ :=
    foldl_resolveOutcome (Registry.outcomesOf d.registry.acts)
      { d.resolveConnects with registry := d.registry.drainActs.2 } distinct
  refine ⟨given, left, matched, ?_⟩
  unfold resolve resolveRequests
  dsimp only [Registry.drainActs] at resolved ⊢
  refine resolved.trans ?_
  rw [← List.append_assoc]
  rfl

/-- Each connect call whose caller listens is answered or waits on. -/
theorem perm_verdicts (d : Dispatcher σ) :
    (d.verdicts.map Answer.ticket ++
        (d.heard.filter fun w => (verdictFor d.registry w).isNone).map
          ConnectWaiter.ticket).Perm (d.heard.map ConnectWaiter.ticket) := by
  unfold verdicts
  induction d.heard with
  | nil => exact .refl _
  | cons w rest ih =>
    cases verdict : verdictFor d.registry w with
    | none =>
      rw [List.filterMap_cons_none (by rw [verdict]; rfl),
        List.filter_cons_of_pos (by rw [verdict]; rfl)]
      exact List.perm_middle.trans (ih.cons _)
    | some result =>
      rw [List.filterMap_cons_some (by rw [verdict]; rfl),
        List.filter_cons_of_neg (by rw [verdict]; nofun)]
      exact ih.cons _

theorem resolve_of_idle {d : Dispatcher σ} (connects : d.connectWaiters = [])
    (requests : d.requestWaiters = []) (acts : d.registry.acts = []) : d.resolve = d := by
  obtain ⟨registry, connectWaiters, requestWaiters, answers, stopped⟩ := d
  cases connects
  cases requests
  cases registry
  cases acts
  simp [resolve, resolveRequests, resolveConnects, heard, Registry.drainActs, Registry.outcomesOf]

end Dispatcher

end Switchboard
