import Switchboard.Session.Journal
import Mathlib.Data.List.Induction
import Mathlib.Data.List.Nodup
/-!
# The stages of a transport

A trace is what passed between sessions and the world, in order: dials with their answers, reports
that a transport is open, frames handed over and taken or not, and hang-ups. `Stage.step` is the
life of one transport: a dial is granted, the transport is reported open, frames are handed over,
and at last it is closed, be it before the report or after it. A trace leaves a transport at a
stage, or it does something with it out of turn (`stageOf`).

If nothing is out of turn, a trace is what one expects of it: transports are granted and closed at
most once, and a frame is handed over between the report and the hang-up only (`InTurn`).
-/

namespace Switchboard

/-- What passes between a session and the world. -/
inductive Signal where
  /-- A transport was asked for, and the request was granted or refused. -/
  | dialled (id : ConnectionId) (target : Target) (granted : Bool)
  /-- The report that a transport is open was acted upon. -/
  | opened (id : ConnectionId)
  /-- A frame was handed over, and the transport took it or not. -/
  | sent (id : ConnectionId) (bytes : Bytes) (taken : Bool)
  | hungUp (id : ConnectionId)
  deriving DecidableEq, Repr

namespace Signal

def id : Signal → ConnectionId
  | dialled id _ _ | opened id | sent id _ _ | hungUp id => id

/-- A journal tells of the signal. It tells neither of a report nor of a frame that nobody took. -/
def told : Signal → Bool
  | opened _ | sent _ _ false => false
  | _ => true

def asks : Signal → Bool
  | opened _ => false
  | _ => true

def granted? : Signal → Option ConnectionId
  | dialled id _ true => some id
  | _ => none

def hungUp? : Signal → Option ConnectionId
  | hungUp id => some id
  | _ => none

theorem id_of_granted? {signal : Signal} {id : ConnectionId} (h : signal.granted? = some id) :
    signal.id = id := by
  cases signal with
  | dialled id target granted => cases granted <;> cases h; rfl
  | _ => cases h

theorem id_of_hungUp? {signal : Signal} {id : ConnectionId} (h : signal.hungUp? = some id) :
    signal.id = id := by
  cases signal <;> cases h
  rfl

end Signal

def Act.signal? : Act → Option Signal
  | dialled id target granted => some (.dialled id target granted)
  | hungUp id => some (.hungUp id)
  | delivered id packet => some (.sent id packet.bytes true)
  | _ => none

def grantedIds (trace : List Signal) : List ConnectionId := trace.filterMap Signal.granted?

def hungUpIds (trace : List Signal) : List ConnectionId := trace.filterMap Signal.hungUp?

/-- The transports that were granted and not closed. -/
def LeftOpen (trace : List Signal) (id : ConnectionId) : Prop :=
  id ∈ grantedIds trace ∧ id ∉ hungUpIds trace

/-- A stage in the life of a transport: never granted, granted and not yet reported open, reported
open, closed. -/
inductive Stage where
  | unused | opening | ready | gone
  deriving DecidableEq, Repr

namespace Stage

/-- The stage after a signal, unless the signal is out of turn. -/
def step : Stage → Signal → Option Stage
  | unused, .dialled _ _ true => some opening
  | unused, .dialled _ _ false => some unused
  | opening, .opened _ => some ready
  | opening, .hungUp _ => some gone
  | ready, .sent .. => some ready
  | ready, .hungUp _ => some gone
  | _, _ => none

def isOpen : Stage → Bool
  | opening | ready => true
  | _ => false

def grants : Stage → Nat
  | unused => 0
  | _ => 1

def hangUps : Stage → Nat
  | gone => 1
  | _ => 0

theorem grants_le_one (stage : Stage) : stage.grants ≤ 1 := by
  cases stage <;> decide

theorem hangUps_le_one (stage : Stage) : stage.hangUps ≤ 1 := by
  cases stage <;> decide

theorem isOpen_iff {stage : Stage} :
    stage.isOpen = true ↔ 0 < stage.grants ∧ ¬ 0 < stage.hangUps := by
  cases stage <;> decide

end Stage

/-- The stage at which a trace leaves a transport, if it does nothing with it out of turn. -/
def stageOf (id : ConnectionId) (trace : List Signal) : Option Stage :=
  (trace.filter fun signal => signal.id = id).foldlM Stage.step .unused

section StageOf

variable {id : ConnectionId} {trace more : List Signal} {signal : Signal} {stage : Stage}

theorem stageOf_append : stageOf id (trace ++ more) = (stageOf id trace).bind fun stage =>
    (more.filter fun signal => signal.id = id).foldlM Stage.step stage := by
  unfold stageOf
  rw [List.filter_append, List.foldlM_append]
  rfl

theorem stageOf_append_of_ne (other : ∀ signal ∈ more, signal.id ≠ id) :
    stageOf id (trace ++ more) = stageOf id trace := by
  have none : (more.filter fun signal => signal.id = id) = [] := by
    rw [List.filter_eq_nil_iff]
    intro signal mem
    simpa using other signal mem
  rw [stageOf_append, none]
  exact Option.bind_fun_some _

theorem stageOf_concat_of_ne (other : signal.id ≠ id) :
    stageOf id (trace ++ [signal]) = stageOf id trace :=
  stageOf_append_of_ne (List.forall_mem_singleton.mpr other)

theorem stageOf_concat (own : signal.id = id) :
    stageOf id (trace ++ [signal]) = (stageOf id trace).bind fun stage => stage.step signal := by
  rw [stageOf_append]
  congr 1
  funext stage
  rw [List.filter_cons_of_pos (by simpa using own)]
  simp

theorem stageOf_step {after : Stage} (own : signal.id = id) (found : stageOf id trace = some stage)
    (step : stage.step signal = some after) : stageOf id (trace ++ [signal]) = some after := by
  rw [stageOf_concat own, found]
  exact step

theorem stageOf_of_append (h : stageOf id (trace ++ more) = some stage) :
    ∃ earlier, stageOf id trace = some earlier := by
  rw [stageOf_append, Option.bind_eq_some_iff] at h
  obtain ⟨earlier, found, -⟩ := h
  exact ⟨earlier, found⟩

theorem step_of_stageOf (h : stageOf id (trace ++ signal :: more) = some stage)
    (own : signal.id = id) :
    ∃ before after, stageOf id trace = some before ∧ before.step signal = some after := by
  rw [List.append_cons] at h
  obtain ⟨after, found⟩ := stageOf_of_append h
  rw [stageOf_concat own, Option.bind_eq_some_iff] at found
  obtain ⟨before, foundBefore, step⟩ := found
  exact ⟨before, after, foundBefore, step⟩

/-! ## What a stage tells of the trace -/

theorem count_grantedIds_concat (id : ConnectionId) (trace : List Signal) (signal : Signal) :
    (grantedIds (trace ++ [signal])).count id =
      (grantedIds trace).count id + if signal.granted? = some id then 1 else 0 := by
  unfold grantedIds
  rw [List.filterMap_append, List.count_append]
  cases granted : signal.granted? with
  | none => simp [granted]
  | some other => simp [granted, List.count_singleton]

theorem count_hungUpIds_concat (id : ConnectionId) (trace : List Signal) (signal : Signal) :
    (hungUpIds (trace ++ [signal])).count id =
      (hungUpIds trace).count id + if signal.hungUp? = some id then 1 else 0 := by
  unfold hungUpIds
  rw [List.filterMap_append, List.count_append]
  cases closed : signal.hungUp? with
  | none => simp [closed]
  | some other => simp [closed, List.count_singleton]

theorem counts_of_stageOf (h : stageOf id trace = some stage) :
    (grantedIds trace).count id = stage.grants ∧ (hungUpIds trace).count id = stage.hangUps := by
  -- The last signal decides, so the induction is from the end of the trace.
  induction trace using List.reverseRecOn generalizing stage with
  | nil => cases h; exact ⟨rfl, rfl⟩
  | append_singleton trace signal ih =>
    rw [count_grantedIds_concat, count_hungUpIds_concat]
    by_cases own : signal.id = id
    · rw [stageOf_concat own, Option.bind_eq_some_iff] at h
      obtain ⟨before, found, step⟩ := h
      obtain ⟨grants, hangUps⟩ := ih found
      rw [grants, hangUps]
      subst own
      cases before <;> cases signal <;> (try cases ‹Bool›) <;> cases step <;>
        simp [Stage.grants, Stage.hangUps, Signal.granted?, Signal.hungUp?, Signal.id]
    · rw [stageOf_concat_of_ne own] at h
      obtain ⟨grants, hangUps⟩ := ih h
      rw [grants, hangUps, if_neg fun granted => own (Signal.id_of_granted? granted),
        if_neg fun closed => own (Signal.id_of_hungUp? closed)]
      exact ⟨rfl, rfl⟩

theorem opened_mem_of_ready (h : stageOf id trace = some .ready) : .opened id ∈ trace := by
  induction trace using List.reverseRecOn with
  | nil => cases h
  | append_singleton trace signal ih =>
    by_cases own : signal.id = id
    · rw [stageOf_concat own, Option.bind_eq_some_iff] at h
      obtain ⟨before, found, step⟩ := h
      cases before with
      | ready => exact List.mem_append_left _ (ih found)
      | opening =>
        refine List.mem_append_right _ (List.mem_singleton.mpr ?_)
        cases signal <;> cases step
        rw [← own]
        rfl
      | unused => cases signal <;> (try cases ‹Bool›) <;> cases step
      | gone => cases signal <;> (try cases ‹Bool›) <;> cases step
    · rw [stageOf_concat_of_ne own] at h
      exact List.mem_append_left _ (ih h)

theorem leftOpen_iff (h : stageOf id trace = some stage) :
    LeftOpen trace id ↔ stage.isOpen = true := by
  obtain ⟨grants, hangUps⟩ := counts_of_stageOf h
  rw [Stage.isOpen_iff, ← grants, ← hangUps, List.count_pos_iff, List.count_pos_iff]
  rfl

end StageOf

/-- A trace with nothing out of turn, as one reads it. -/
structure InTurn (trace : List Signal) : Prop where
  /-- Every grant is of another transport. -/
  granted : (grantedIds trace).Nodup
  /-- No transport is closed twice. -/
  hungUp : (hungUpIds trace).Nodup
  /-- The report that a transport is open is acted upon after the grant. -/
  opened : ∀ before id after, trace = before ++ .opened id :: after → LeftOpen before id
  /-- Frames are handed to a transport that was reported open and is not closed, whether it takes
  them or not. -/
  sent : ∀ before id bytes taken after, trace = before ++ .sent id bytes taken :: after →
    .opened id ∈ before ∧ LeftOpen before id
  /-- What is closed was granted. -/
  closed : ∀ before id after, trace = before ++ .hungUp id :: after → LeftOpen before id

theorem inTurn_of_stages {trace : List Signal}
    (h : ∀ id, ∃ stage, stageOf id trace = some stage) : InTurn trace where
  granted := by
    rw [List.nodup_iff_count_le_one]
    intro id
    obtain ⟨stage, found⟩ := h id
    rw [(counts_of_stageOf found).1]
    exact stage.grants_le_one
  hungUp := by
    rw [List.nodup_iff_count_le_one]
    intro id
    obtain ⟨stage, found⟩ := h id
    rw [(counts_of_stageOf found).2]
    exact stage.hangUps_le_one
  opened := by
    rintro before id after rfl
    obtain ⟨stage, found⟩ := h id
    obtain ⟨earlier, _, foundEarlier, step⟩ := step_of_stageOf found rfl
    rw [leftOpen_iff foundEarlier]
    cases earlier <;> cases step
    rfl
  sent := by
    rintro before id bytes taken after rfl
    obtain ⟨stage, found⟩ := h id
    obtain ⟨earlier, _, foundEarlier, step⟩ := step_of_stageOf found rfl
    cases earlier <;> cases step
    exact ⟨opened_mem_of_ready foundEarlier, (leftOpen_iff foundEarlier).mpr rfl⟩
  closed := by
    rintro before id after rfl
    obtain ⟨stage, found⟩ := h id
    obtain ⟨earlier, _, foundEarlier, step⟩ := step_of_stageOf found rfl
    rw [leftOpen_iff foundEarlier]
    cases earlier <;> cases step <;> rfl

end Switchboard
