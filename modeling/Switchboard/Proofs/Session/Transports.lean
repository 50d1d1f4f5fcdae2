import Switchboard.Proofs.Session.Moves
/-!
# Transports are opened and closed in turn

A session holds at most one transport. Read in order, the transports that it opened are those that
it closed, followed by the one that it holds (`Effects.turns`).
-/

namespace Switchboard

namespace Act

/-- The transport of an act that opens one. -/
def opened? : Act → Option ConnectionId
  | dialled id _ true => some id
  | _ => none

/-- The transport of an act that closes one. -/
def closed? : Act → Option ConnectionId
  | hungUp id => some id
  | _ => none

end Act

/-- The transports that acts open, in order. -/
def openedIds (acts : List Act) : List ConnectionId := acts.filterMap Act.opened?

/-- The transports that acts close, in order. -/
def closedIds (acts : List Act) : List ConnectionId := acts.filterMap Act.closed?

/-- The acts between a transport held before and one held after: what was held and what was opened
is what was closed and what is held. -/
def Turns (held : Option ConnectionId) (acts : List Act) (holds : Option ConnectionId) : Prop :=
  held.toList ++ openedIds acts = closedIds acts ++ holds.toList

namespace Turns

variable {x y z : Option ConnectionId} {acts more : List Act}

theorem of_silent (h : ∀ act ∈ acts, act.opened? = none ∧ act.closed? = none) :
    Turns x acts x := by
  have opens : openedIds acts = [] := List.filterMap_eq_nil_iff.mpr fun act mem => (h act mem).1
  have closes : closedIds acts = [] := List.filterMap_eq_nil_iff.mpr fun act mem => (h act mem).2
  rw [Turns, opens, closes, List.append_nil, List.nil_append]

theorem trans (h : Turns x acts y) (k : Turns y more z) : Turns x (acts ++ more) z := by
  unfold Turns openedIds closedIds at *
  rw [List.filterMap_append, List.filterMap_append, ← List.append_assoc, h, List.append_assoc, k,
    List.append_assoc]

end Turns

namespace Session

variable {cause : Call} {s t : Session}

theorem Telling.turns {acts : List Act} (h : Telling s t acts) :
    Turns s.transport acts t.transport := by
  rw [h.transport]
  refine .of_silent fun act mem => ?_
  have tells := h.tells act mem
  cases act with
  | dialled id target granted => cases granted <;> first | exact ⟨rfl, rfl⟩ | cases tells
  | _ => first | exact ⟨rfl, rfl⟩ | cases tells

theorem turns_settled (ids : List String) (result : String → Except Error Frame) :
    Turns s.transport (ids.map fun id => .settled ⟨id, result id⟩) s.transport := by
  refine .of_silent fun act mem => ?_
  obtain ⟨id, -, rfl⟩ := List.mem_map.mp mem
  exact ⟨rfl, rfl⟩

theorem Effect.turns (h : Effect cause s t) :
    ∃ acts, t.journal = s.journal ++ acts ∧ Turns s.transport acts t.transport := by
  cases h with
  | tell told => exact ⟨_, told.journal, told.turns⟩
  | settleAll =>
    rw [failRequests_eq]
    exact ⟨_, rfl, turns_settled _ fun _ => .error .connectionClosed⟩
  | expire now =>
    rw [expireRequests_eq_foldl]
    exact ⟨_, rfl, turns_settled _ fun id => .error (.requestTimeout id)⟩
  | @answer _ frame id => exact ⟨_, rfl, turns_settled [id] fun _ => .ok frame⟩
  | unplug =>
    rw [unplug_eq]
    refine ⟨_, rfl, ?_⟩
    cases held : s.transport with
    | none => rfl
    | some id => rfl
  | dial now free =>
    refine ⟨_, rfl, ?_⟩
    rw [free]
    rfl

theorem Effects.turns (h : Effects cause s t) :
    ∃ acts, t.journal = s.journal ++ acts ∧ Turns s.transport acts t.transport := by
  induction h with
  | refl => exact ⟨[], (List.append_nil _).symm, .of_silent (List.forall_mem_nil _)⟩
  | tail _ effect ih =>
    obtain ⟨acts, journal, turns⟩ := ih
    obtain ⟨more, journalToo, turnsToo⟩ := effect.turns
    exact ⟨acts ++ more, by rw [journalToo, journal, List.append_assoc], turns.trans turnsToo⟩

end Session

/-- What a call opens and closes. -/
theorem Moment.turns {σ : Type} [Environment σ] (m : Moment σ) :
    Turns m.before.session.transport m.acts m.after.session.transport := by
  obtain ⟨s, edits, journal, after⟩ := m.edits
  obtain ⟨acts, added, turns⟩ := edits.effects.turns
  rw [after, Session.transport_entering, List.append_cancel_left (journal.symm.trans added)]
  exact turns

end Switchboard
