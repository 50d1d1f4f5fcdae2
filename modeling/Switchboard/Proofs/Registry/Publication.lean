import Switchboard.Proofs.Registry.Deliveries
import Switchboard.Proofs.Registry.Lineage
import Mathlib.Data.List.TakeWhile
/-!
# Nothing that sessions do is lost

What somebody waits for is published by the time an operation ends: no registered session has
anything left in its journal, and operations that hand frames in, after which nobody looks, leave
nothing to publish (`Turn.quiet_of_submission`). So who subscribed to states is told, for each key,
of all states of the sessions under it, one session after the other; and the owner who takes the
acts from time to time has the ends of all requests, with the keys of their sessions
(`Registry.lossless`).
-/

namespace Switchboard

open Registry (outcomesOf)

/-! ## Entries under keys -/

section Under

variable {key : String}

theorem under_cons {α : Type} (entry : String × α) (entries : List (String × α)) :
    under key (entry :: entries) = (if entry.1 = key then [entry.2] else []) ++ under key entries := by
  by_cases here : entry.1 = key <;> simp [under, here]

theorem statuses_cons (act : Act) (acts : List Act) :
    statuses (act :: acts) = act.status?.toList ++ statuses acts := by
  cases told : act.status? <;> simp [statuses, told]

theorem under_outcomesOf (key : String) (entries : List (String × Act)) :
    under key (outcomesOf entries) = (under key entries).filterMap Act.outcome? := by
  unfold under outcomesOf
  rw [List.filterMap_filterMap, List.filterMap_filterMap]
  refine congrArg (List.filterMap · entries) (funext fun entry => ?_)
  cases settled : entry.2.outcome? <;> by_cases here : entry.1 = key <;> simp [settled, here]

/-- If every state bears the key that it is published under, the states of a key are those that are
published under it. -/
theorem statuses_under {entries : List (String × Act)}
    (named : ∀ entry ∈ entries, ∀ event, entry.2.status? = some event → event.key = entry.1) :
    (statuses (entries.map Prod.snd)).filter (fun event => event.key = key) =
      statuses (under key entries) := by
  induction entries with
  | nil => rfl
  | cons entry rest ih =>
    obtain ⟨first, later⟩ := List.forall_mem_cons.mp named
    have one : (entry.2.status?.toList).filter (fun event => event.key = key) =
        statuses (if entry.1 = key then [entry.2] else []) := by
      cases told : entry.2.status? with
      | none => by_cases here : entry.1 = key <;> simp [here, told, statuses]
      | some event =>
        have own := first event told
        by_cases here : entry.1 = key <;> simp [here, told, own, statuses]
    rw [List.map_cons, statuses_cons, List.filter_append, ih later, one, under_cons,
      statuses_append]

end Under

namespace Registry

/-- The operation hands in a frame. -/
def Operation.isSubmission : Operation → Bool
  | .send .. | .sendMessage .. | .request .. => true
  | _ => false

variable {σ : Type} [Environment σ] {r : Registry σ}

theorem Operation.Asks.isSubmission {operation : Operation} {key : String}
    {call : Switchboard.Call} (asks : operation.Asks key call)
    (submission : operation.isSubmission = true) : call.isSubmission = true := by
  cases asks <;> first | rfl | cases submission

/-- An operation that hands in a frame publishes nothing that anybody waits for. -/
theorem Turn.quiet_of_submission {t : Turn σ} (sound : Sound t.before)
    (submission : t.operation.isSubmission = true) : awaited (t.acts.map Prod.snd) = [] := by
  have none (key : String) : awaited (under key t.acts) = [] := by
    have succession := Turn.succession sound key
    generalize under key t.acts = acts at succession ⊢
    cases succession with
    | kept => rfl
    | called found asks world => exact Moment.quiet_of_submission _ (asks.isSubmission submission)
    | removed _ removes =>
      cases operation : t.operation <;> rw [operation] at submission removes <;>
        first | exact absurd submission Bool.false_ne_true | exact removes.elim
    | begun _ connects => rw [connects] at submission; cases submission
    | replaced _ connects => rw [connects] at submission; cases submission
  unfold awaited
  rw [List.filter_eq_nil_iff]
  intro act mem
  obtain ⟨⟨key, act⟩, published, rfl⟩ := List.mem_map.mp mem
  exact List.filter_eq_nil_iff.mp (none key) act (mem_under.mpr published)

/-- The histories of a registry, with the acts that its owner has taken out. -/
inductive Takings : List (Turn σ) → List (String × Act) → Registry σ → Prop where
  | begin (world : σ) (defaults : SessionConfig) (marks : Nat → String) :
      Takings [] [] (.create world defaults marks)
  | turn {ts : List (Turn σ)} {taken : List (String × Act)} {r : Registry σ}
      (h : Takings ts taken r) (operation : Operation) :
      Takings (ts ++ [⟨r, operation⟩]) taken (r.operate operation)
  | drainActs {ts : List (Turn σ)} {taken : List (String × Act)} {r : Registry σ}
      (h : Takings ts taken r) : Takings ts (taken ++ r.drainActs.1) r.drainActs.2
  | drainNotices {ts : List (Turn σ)} {taken : List (String × Act)} {r : Registry σ}
      (h : Takings ts taken r) : Takings ts taken r.drainNotices.2
  | world {ts : List (Turn σ)} {taken : List (String × Act)} {r : Registry σ}
      (h : Takings ts taken r) (world : σ) : Takings ts taken { r with world }

namespace Takings

variable {ts : List (Turn σ)} {taken : List (String × Act)}

theorem history (h : Takings ts taken r) : History ts r := by
  induction h with
  | begin world defaults marks => exact .begin world defaults marks
  | turn _ operation ih => exact ih.turn operation
  | drainActs _ ih => exact ih.drainActs
  | drainNotices _ ih => exact ih.drainNotices
  | world _ world ih => exact ih.world world

/-- What was taken and what is left is all that was published. -/
theorem acts_eq (h : Takings ts taken r) : taken ++ r.acts = History.acts ts := by
  induction h with
  | begin => rfl
  | @turn ts taken r h operation ih =>
    have published := (Turn.exchange (t := ⟨r, operation⟩) h.history.sound).published
    have longer : History.acts (ts ++ [⟨r, operation⟩]) =
        History.acts ts ++ Turn.acts ⟨r, operation⟩ := by
      unfold History.acts
      rw [List.flatMap_append, List.flatMap_singleton]
    rw [longer, ← ih, List.append_assoc]
    exact congrArg (taken ++ ·) published
  | @drainActs ts taken r _ ih =>
    rw [← ih]
    exact List.append_nil _
  | drainNotices _ ih => exact ih
  | world _ _ ih => exact ih

end Takings

namespace History

variable {ts early late : List (Turn σ)} {t : Turn σ} {handle : SubscriptionHandle} {key : String}

/-- What is published under a key bears the key. -/
theorem named (h : History ts r) {entry : String × Act} (mem : entry ∈ acts ts)
    {event : StatusEvent} (told : entry.2.status? = some event) : event.key = entry.1 := by
  obtain ⟨gone, present, lineage, -⟩ := h.lineage entry.1
  have own : entry.2 ∈ (gone ++ present.toList).flatMap Life.acts := by
    rw [lineage.told]
    exact mem_under.mpr mem
  obtain ⟨l, here, did⟩ := List.mem_flatMap.mp own
  exact (lineage.genuine l here).named (List.mem_filterMap.mpr ⟨entry.2, did, told⟩)

/-- A subscription to states that is never dropped is told of all states under a key but those that
were entered before it was made. -/
theorem statuses_eq (h : History ts r) (split : ts = early ++ t :: late)
    (made : t.made = some (.status, handle)) (stays : ∀ u ∈ late, u.ends .status handle = false) :
    statuses (under key (acts early)) ++
        (statusTold handle (notices ts)).filter (fun event => event.key = key) =
      statuses (under key (acts ts)) := by
  have whole : late.takeWhile (fun u => !u.ends .status handle) = late := by
    rw [List.takeWhile_eq_self_iff]
    intro u mem
    rw [stays u mem]
    rfl
  have told : statusTold handle (notices ts) = statuses ((acts late).map Prod.snd) := by
    rw [h.statusTold_eq split made, whole]
    unfold acts statuses
    rw [List.map_flatMap, List.filterMap_flatMap]
  have subscribing := Turn.isSubscribing_of_made made
  have all : acts ts = acts early ++ acts late := by
    unfold acts
    rw [split, List.flatMap_append, List.flatMap_cons, Turn.acts_of_subscribing subscribing]
    rfl
  rw [told, statuses_under fun entry mem event => ?_, all, under_append, statuses_append]
  exact h.named (all ▸ List.mem_append_right _ mem)

end History

/-- Everything that somebody waits for reaches those who wait for it. -/
structure Lossless (ts : List (Turn σ)) (taken : List (String × Act)) (r : Registry σ) : Prop where
  /-- No session has anything left to publish. -/
  drained : ∀ key s, KeyMap.find? key r.sessions = some s → s.journal = []
  /-- Operations after which nobody looks leave nothing to publish. -/
  quiet : ∀ t ∈ ts, t.operation.isSubmission = true → awaited (t.acts.map Prod.snd) = []
  /-- The sessions under a key, in the order in which they were created: who subscribed to states is
  told of all that they entered since, and the owner gets the ends of all their requests. -/
  accounts : ∀ key, ∃ (gone : List (Life σ)) (present : Option (Life σ)),
    Lineage key (under key (History.created ts)) (under key (History.acts ts)) gone present ∧
      present.map Life.session = KeyMap.find? key r.sessions ∧
      (∀ early t late handle, ts = early ++ t :: late → t.made = some (.status, handle) →
        (∀ u ∈ late, u.ends .status handle = false) →
          statuses (under key (History.acts early)) ++
              (statusTold handle (History.notices ts)).filter (fun event => event.key = key) =
            (gone ++ present.toList).flatMap Life.statuses) ∧
      under key (outcomesOf (taken ++ r.acts)) = (gone ++ present.toList).flatMap Life.outcomes

/-- In every history, whatever becomes of sessions, their states and the ends of their requests are
published under their keys, each once and in order, and those of a session before those of the next
one. -/
theorem lossless {ts : List (Turn σ)} {taken : List (String × Act)} (h : Takings ts taken r) :
    Lossless ts taken r where
  drained key s found := (h.history.sound.owned found).journal
  quiet t mem submission := Turn.quiet_of_submission (h.history.sound_of_mem mem) submission
  accounts key := by
    obtain ⟨gone, present, lineage, registered⟩ := h.history.lineage key
    refine ⟨gone, present, lineage, registered, fun early t late handle split made stays => ?_, ?_⟩
    · rw [h.history.statuses_eq split made stays, ← lineage.told]
      unfold statuses Life.statuses Switchboard.statuses
      rw [List.filterMap_flatMap]
    · rw [h.acts_eq, under_outcomesOf, ← lineage.told]
      unfold Life.outcomes
      rw [List.filterMap_flatMap]

/-- A session with an outstanding request is replaced by one against another target. The owner takes
the acts in between, and finds the end of the request among what is left. -/
theorem lossless_replaced : ∃ (ts : List (Turn ScriptedNetwork)) (taken : List (String × Act))
    (r : Registry ScriptedNetwork), Takings ts taken r ∧
      (statusTold ⟨1⟩ (History.notices ts)).map StatusEvent.state =
        [.connecting, .connected, .disconnecting, .disconnected, .connecting] ∧
      taken.length = 3 ∧ (outcomesOf r.acts).map Prod.fst = ["k"] ∧ Lossless ts taken r :=
  have begun : Takings [] [] _ := .begin ({} : ScriptedNetwork) {} scriptedMark
  have opened := ((begun.turn .subscribeStatus).turn (.connect "k" default none ⟨0⟩)).turn
    (.handleTransportEvent ⟨"k", 1⟩ .opened ⟨0⟩)
  have asked := opened.drainActs.turn (.request "k" 32 [] none ⟨0⟩)
  have replaced := asked.turn (.connect "k" { host := "other", port := 22, username := none } none ⟨0⟩)
  ⟨_, _, _, replaced, by decide +kernel, by decide +kernel, by decide +kernel, lossless replaced⟩

end Registry

end Switchboard
