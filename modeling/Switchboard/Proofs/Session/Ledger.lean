import Switchboard.Proofs.Session.Moves
import Switchboard.Proofs.Session.RequestIds
/-!
# What a call settles

A request that is outstanding before a call is outstanding after it or settled by it, never both and
never neither (`Settling.balance`), and what settles it has a cause in the call (`Due`). Both are
checked for each effect and add up over a sequence of them (`Effects.settling`).
-/

namespace Switchboard

/-- The requests that acts settle, in order. -/
def settledIds (acts : List Act) : List String :=
  (acts.filterMap Act.outcome?).map Outcome.requestId

@[simp] theorem settledIds_append (acts more : List Act) :
    settledIds (acts ++ more) = settledIds acts ++ settledIds more := by
  simp [settledIds]

@[simp] theorem settledIds_map_settled (ids : List String)
    (result : String → Except Error Frame) :
    settledIds (ids.map fun id => Act.settled ⟨id, result id⟩) = ids := by
  induction ids with
  | nil => rfl
  | cons id ids ih => exact congrArg (id :: ·) ih

/-- Books stay balanced: what was open is open or settled, and so is what is new. -/
theorem perm_carry {issued held settled new holds more : List String}
    (h : issued.Perm (held ++ settled)) (step : (holds ++ more).Perm (new ++ held)) :
    (issued ++ new).Perm (holds ++ (settled ++ more)) := by
  have moved : (new ++ issued).Perm (holds ++ more ++ settled) := by
    refine (h.append_left new).trans ?_
    rw [← List.append_assoc]
    exact (step.append_right settled).symm
  refine (List.perm_append_comm.trans moved).trans ?_
  rw [List.append_assoc]
  exact List.perm_append_comm.append_left holds

/-- What gives a call the right to end a request. -/
inductive Due (cause : Call) : Outcome → Prop where
  /-- The call brings a frame that names the request and is no progress report. -/
  | answered {bytes : Bytes} {frame : Frame} {id : String} (brings : cause.Brings bytes)
      (decodes : Frame.decode bytes = .ok frame) (final : frame.kind? ≠ some .sftpProgress)
      (named : frame.requestId? = some id) : Due cause ⟨id, .ok frame⟩
  | closed (id : String) : Due cause ⟨id, .error .connectionClosed⟩
  | expired (id : String) (now : Instant) (tick : cause = .pollTimers now) :
      Due cause ⟨id, .error (.requestTimeout id)⟩

/-- The acts between two sessions, and how the requests of the first end in them. -/
structure Settling (cause : Call) (s t : Session) (acts : List Act) : Prop where
  journal : t.journal = s.journal ++ acts
  /-- No request is lost, doubled or made up. -/
  balance : (t.requests.ids ++ settledIds acts).Perm s.requests.ids
  due : ∀ outcome ∈ acts.filterMap Act.outcome?, Due cause outcome

namespace Settling

variable {cause : Call} {s t u : Session} {acts more : List Act}

theorem refl (s : Session) : Settling cause s s [] :=
  ⟨(List.append_nil _).symm, by simp [settledIds], nofun⟩

theorem trans (h : Settling cause s t acts) (k : Settling cause t u more) :
    Settling cause s u (acts ++ more) where
  journal := by rw [k.journal, h.journal, List.append_assoc]
  balance := by
    rw [settledIds_append]
    refine (List.perm_append_comm.append_left _).trans ?_
    rw [← List.append_assoc]
    exact (k.balance.append_right _).trans h.balance
  due := by
    intro outcome mem
    rw [List.filterMap_append] at mem
    rcases List.mem_append.mp mem with mem | mem
    · exact h.due outcome mem
    · exact k.due outcome mem

end Settling

namespace Session

variable {cause : Call} {s t : Session}

/-- Each request is kept or has waited too long. -/
theorem perm_expire (r : Requests) (now : Instant) (timeout : Duration) :
    ((r.expire now timeout).ids ++ r.expired now timeout).Perm r.ids := by
  unfold Requests.ids Requests.expired Requests.expire KeyMap.keys
  rw [← List.map_append]
  refine List.Perm.map _ (List.perm_append_comm.trans ?_)
  exact List.filter_append_perm _ _

theorem settling_failRequests (s : Session) : Settling cause s s.failRequests
    (s.requests.ids.map fun id => .settled ⟨id, .error .connectionClosed⟩) := by
  rw [failRequests_eq]
  refine ⟨rfl, ?_, fun outcome mem => ?_⟩
  · rw [settledIds_map_settled _ fun _ => .error .connectionClosed]
    exact .refl _
  · obtain ⟨act, mem, settles⟩ := List.mem_filterMap.mp mem
    obtain ⟨id, -, rfl⟩ := List.mem_map.mp mem
    cases settles
    exact .closed id

theorem settling_expireRequests (sorted : KeyMap.Sorted s.requests.pending) (now : Instant)
    (tick : cause = .pollTimers now) : Settling cause s (s.expireRequests now)
      ((s.requests.expired now s.config.requestTimeout).map
        fun id => .settled ⟨id, .error (.requestTimeout id)⟩) := by
  rw [expireRequests_eq _ sorted]
  refine ⟨rfl, ?_, fun outcome mem => ?_⟩
  · rw [settledIds_map_settled _ fun id => .error (.requestTimeout id)]
    exact perm_expire _ _ _
  · obtain ⟨act, mem, settles⟩ := List.mem_filterMap.mp mem
    obtain ⟨id, -, rfl⟩ := List.mem_map.mp mem
    cases settles
    exact .expired id now tick

theorem Telling.settling {acts : List Act} (h : Telling s t acts) : Settling cause s t acts := by
  have silent : acts.filterMap Act.outcome? = [] :=
    List.filterMap_eq_nil_iff.mpr fun act mem => by
      have tells := h.tells act mem
      cases act <;> first | rfl | cases tells
  refine ⟨h.journal, ?_, ?_⟩
  · rw [settledIds, silent, Requests.ids, h.pending, List.map_nil, List.append_nil]
    exact .refl _
  · rw [silent]
    exact List.forall_mem_nil _

theorem Effect.settling (h : Effect cause s t) (sorted : KeyMap.Sorted s.requests.pending) :
    ∃ acts, Settling cause s t acts := by
  cases h with
  | tell told => exact ⟨_, told.settling⟩
  | settleAll => exact ⟨_, settling_failRequests s⟩
  | expire now tick => exact ⟨_, settling_expireRequests sorted now tick⟩
  | answer brings decodes final named pending =>
    refine ⟨_, rfl, ?_, fun outcome mem => ?_⟩
    · exact List.perm_append_comm.trans (KeyMap.keys_perm_cons_erase sorted pending).symm
    · cases List.mem_singleton.mp mem
      exact .answered brings decodes final named
  | unplug =>
    rw [unplug_eq]
    have silent : (partings s.transport).filterMap Act.outcome? = [] := by
      cases s.transport <;> rfl
    refine ⟨_, rfl, ?_, ?_⟩
    · rw [settledIds, silent, List.map_nil, List.append_nil]
    · rw [silent]
      nofun
  | dial => exact ⟨_, rfl, .of_eq (List.append_nil _), nofun⟩

theorem Effect.sorted_pending (h : Effect cause s t) (sorted : KeyMap.Sorted s.requests.pending) :
    KeyMap.Sorted t.requests.pending := by
  cases h with
  | tell told => rw [told.pending]; exact sorted
  | settleAll => rw [failRequests_eq]; exact List.Pairwise.nil
  | expire now => rw [expireRequests_eq _ sorted]; exact sorted.filter _
  | answer => exact KeyMap.sorted_erase _ sorted
  | unplug => rw [unplug_eq]; exact sorted
  | dial => exact sorted

/-- Ids are used up and never given back. -/
theorem Effect.next_le (h : Effect cause s t) : s.requests.next ≤ t.requests.next := by
  cases h with
  | tell told => exact told.next
  | settleAll => exact Nat.le_of_eq (by rw [failRequests_eq]; rfl)
  | expire now =>
    exact Nat.le_of_eq (by rw [expireRequests_eq_foldl, Requests.foldl_erase_eq])
  | answer => exact Nat.le_refl _
  | unplug => exact Nat.le_of_eq (by rw [unplug_eq])
  | dial => exact Nat.le_refl _

theorem Effects.sorted_pending (h : Effects cause s t)
    (sorted : KeyMap.Sorted s.requests.pending) : KeyMap.Sorted t.requests.pending := by
  induction h with
  | refl => exact sorted
  | tail _ effect ih => exact effect.sorted_pending ih

theorem Effects.next_le (h : Effects cause s t) : s.requests.next ≤ t.requests.next := by
  induction h with
  | refl => exact Nat.le_refl _
  | tail _ effect ih => exact Nat.le_trans ih effect.next_le

theorem Effects.settling (h : Effects cause s t) (sorted : KeyMap.Sorted s.requests.pending) :
    ∃ acts, Settling cause s t acts := by
  induction h with
  | refl => exact ⟨[], .refl s⟩
  | tail effects effect ih =>
    obtain ⟨acts, settled⟩ := ih
    obtain ⟨more, settledToo⟩ := effect.settling (Effects.sorted_pending effects sorted)
    exact ⟨acts ++ more, settled.trans settledToo⟩

end Session

end Switchboard
