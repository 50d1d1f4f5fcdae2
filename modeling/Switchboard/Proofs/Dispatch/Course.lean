import Switchboard.Proofs.Dispatch.Resolve
/-!
# The course of a dispatcher

A dispatcher handles commands, transport events and due deadlines in any order, callers give up
waiting, and at some time a shutdown or the departure of the last caller stops it. One such thing is
a `Step`. What a step does to the registry is one operation at most (`Step.turn?`), so the steps of
a `Course` are a history of its registry (`Course.turns`).

A step takes its input in (`Intake`) and then resolves: the calls whose wait has ended are answered.
-/

namespace Switchboard

/-- The operation on the registry that a command asks for. -/
def Command.operation? (now : Instant) : Command → Option Registry.Operation
  | .connect key target config => some (.connect key target config now)
  | .disconnect key => some (.disconnect key)
  | .remove key => some (.remove key)
  | .authenticate key credentials => some (.authenticate key credentials)
  | .send key code header payload => some (.send key code (.ok (.obj header)) payload)
  | .request key code header payload => some (.request key code header payload now)
  | .status _ | .keys => none
  | .subscribe key filter => some (.subscribe key filter)
  | .subscribeStatus => some .subscribeStatus
  | .unsubscribe handle => some (.unsubscribe handle)
  | .shutdown => some .shutdown

namespace Dispatcher

/-- What happens to a dispatcher. -/
inductive Input where
  | command (ticket : Ticket) (command : Command) (now : Instant)
  | event (id : ConnectionId) (event : TransportEvent) (now : Instant)
  | poll (now : Instant)
  /-- The last caller who could make calls is gone. -/
  | deserted
  /-- A caller no longer waits. -/
  | abandon (ticket : Ticket)

namespace Input

/-- The operation on the registry that an input asks for. -/
def operation? : Input → Option Registry.Operation
  | .command _ asked now => asked.operation? now
  | .event id report now => some (.handleTransportEvent id report now)
  | .poll now => some (.pollTimers now)
  | .deserted => some .shutdown
  | .abandon _ => none

/-- The call that an input is. -/
def called : Input → List Ticket
  | .command ticket _ _ => [ticket]
  | _ => []

/-- The input stops a dispatcher. -/
def stops : Input → Bool
  | .command _ .shutdown _ | .deserted => true
  | _ => false

end Input

variable {σ : Type}

/-- One input of a course. -/
structure Step (σ : Type) where
  /-- The dispatcher that the input found. -/
  before : Dispatcher σ
  input : Input

/-- What the step does to the registry. A dispatcher that has stopped does nothing. -/
def Step.turn? (m : Step σ) : Option (Registry.Turn σ) :=
  if m.before.stopped then none else m.input.operation?.map fun op => ⟨m.before.registry, op⟩

namespace Course

/-- What the steps of a course did to the registry. -/
def turns (steps : List (Step σ)) : List (Registry.Turn σ) := steps.filterMap Step.turn?

/-- The calls that a course brought. -/
def called (steps : List (Step σ)) : List Ticket := steps.flatMap fun m => m.input.called

theorem called_concat (steps : List (Step σ)) (m : Step σ) :
    called (steps ++ [m]) = called steps ++ m.input.called := by
  unfold called
  rw [List.flatMap_append, List.flatMap_singleton]

end Course

/-- A dispatcher after it took an input in and before it answers the calls whose wait has ended:
new calls wait, or are answered at once. -/
structure Intake (d d' : Dispatcher σ) (connects : List ConnectWaiter)
    (requests : List RequestWaiter) (given : List Answer) : Prop where
  stopped : d'.stopped = d.stopped
  connectWaiters : d'.connectWaiters = d.connectWaiters ++ connects
  requestWaiters : d'.requestWaiters = d.requestWaiters ++ requests
  answers : d'.answers = d.answers ++ given

theorem intake_reply {d : Dispatcher σ} (registry : Registry σ) (ticket : Ticket)
    (result : Except Error Reply) :
    Intake d (reply { d with registry } ticket result) [] [] [⟨ticket, result⟩] :=
  ⟨rfl, (List.append_nil _).symm, (List.append_nil _).symm, rfl⟩

variable [Environment σ]

/-- Handle an input. -/
def handle (d : Dispatcher σ) : Input → Dispatcher σ
  | .command ticket command now => d.handleCommand ticket command now
  | .event id event now => d.handleEvent id event now
  | .poll now => d.poll now
  | .deserted => if d.stopped then d else d.stop
  | .abandon ticket => d.abandon ticket

namespace Step

def after (m : Step σ) : Dispatcher σ := m.before.handle m.input

/-- The answers given during the step. -/
def answers (m : Step σ) : List Answer := m.after.answers.drop m.before.answers.length

/-- The calls whose callers gave up waiting in the step. -/
def abandoned (m : Step σ) : List Ticket :=
  match m.input with
  | .abandon ticket => m.before.waiting.filter (· = ticket)
  | _ => []

/-- The calls whose wait ended in the step. -/
def released (m : Step σ) : List Ticket := m.answers.map Answer.ticket ++ m.abandoned

/-- What sessions did during the step. -/
def acts (m : Step σ) : List (String × Act) := (m.turn?.map Registry.Turn.acts).getD []

/-- The ids that the registry gave out in the step. -/
def issued (m : Step σ) : List (String × String) := (m.turn?.map Registry.Turn.issued).getD []

/-- The registry as the step's operation leaves it. -/
def worked (m : Step σ) : Registry σ := (m.turn?.map Registry.Turn.after).getD m.before.registry

variable {m : Step σ} {t : Registry.Turn σ}

omit [Environment σ] in
theorem operation_of_turn (turned : m.turn? = some t) :
    ∃ operation, m.input.operation? = some operation ∧ t = ⟨m.before.registry, operation⟩ := by
  unfold turn? at turned
  split at turned
  · cases turned
  · obtain ⟨operation, asked, same⟩ := Option.map_eq_some_iff.mp turned
    exact ⟨operation, asked, same.symm⟩

theorem worked_of_turn (turned : m.turn? = some t) : m.worked = t.after := by
  rw [worked, turned]
  rfl

theorem acts_of_turn (turned : m.turn? = some t) : m.acts = t.acts := by
  rw [acts, turned]
  rfl

theorem worked_of_still (still : m.turn? = none) : m.worked = m.before.registry := by
  rw [worked, still]
  rfl

theorem worked_of_stopped (stopped : m.before.stopped = true) : m.worked = m.before.registry :=
  worked_of_still (if_pos stopped)

end Step

/-- The courses of a dispatcher: their steps and where they have got to. -/
inductive Course : List (Step σ) → Dispatcher σ → Prop where
  | begin (world : σ) (defaults : SessionConfig) (marks : Nat → String) :
      Course [] (.create (.create world defaults marks))
  | step {steps : List (Step σ)} {d : Dispatcher σ} (h : Course steps d) (input : Input) :
      Course (steps ++ [⟨d, input⟩]) (d.handle input)
  /-- The callers take their answers. -/
  | drainAnswers {steps : List (Step σ)} {d : Dispatcher σ} (h : Course steps d) :
      Course steps d.drainAnswers.2
  /-- The subscribers take their notices. -/
  | drainNotices {steps : List (Step σ)} {d : Dispatcher σ} (h : Course steps d) :
      Course steps { d with registry := d.registry.drainNotices.2 }
  /-- The world changes by itself. -/
  | world {steps : List (Step σ)} {d : Dispatcher σ} (h : Course steps d) (world : σ) :
      Course steps { d with registry := { d.registry with world } }

/-- The call that a command lets wait for a request. -/
def entered (d : Dispatcher σ) (ticket : Ticket) (command : Command) (now : Instant) :
    List RequestWaiter :=
  match command with
  | .request key code header payload =>
    match (d.registry.request key code header payload now).1 with
    | .ok id => [⟨ticket, key, id, true⟩]
    | .error _ => []
  | _ => []

/-- The call that the step lets wait for a request. -/
def Step.entered (m : Step σ) : List RequestWaiter :=
  match m.input with
  | .command ticket command now =>
    if m.before.stopped then [] else m.before.entered ticket command now
  | _ => []

theorem Step.listens_of_entered {m : Step σ} {w : RequestWaiter} (mem : w ∈ m.entered) :
    w.listens = true := by
  unfold Step.entered at mem
  split at mem
  · split at mem
    · cases mem
    · unfold Dispatcher.entered at mem
      split at mem
      · split at mem
        · cases List.mem_singleton.mp mem
          rfl
        · cases mem
      · cases mem
  · cases mem

namespace Course

/-- The calls that were answered in a course, in order. -/
def answered (steps : List (Step σ)) : List Ticket :=
  steps.flatMap fun m => m.answers.map Answer.ticket

/-- The calls whose wait ended in a course. -/
def released (steps : List (Step σ)) : List Ticket := steps.flatMap Step.released

/-- The calls that came to wait for a request in a course. -/
def entered (steps : List (Step σ)) : List RequestWaiter := steps.flatMap Step.entered

theorem released_concat (steps : List (Step σ)) (m : Step σ) :
    released (steps ++ [m]) = released steps ++ m.released := by
  unfold released
  rw [List.flatMap_append, List.flatMap_singleton]

theorem entered_concat (steps : List (Step σ)) (m : Step σ) :
    entered (steps ++ [m]) = entered steps ++ m.entered := by
  unfold entered
  rw [List.flatMap_append, List.flatMap_singleton]

theorem listens_of_entered {steps : List (Step σ)} {w : RequestWaiter}
    (mem : w ∈ entered steps) : w.listens = true := by
  obtain ⟨m, -, new⟩ := List.mem_flatMap.mp mem
  exact Step.listens_of_entered new

end Course

/-! ## Taking an input in -/

/-- The calls that start to wait wait for the ids that the registry gives out. -/
theorem request_entered (d : Dispatcher σ) (ticket : Ticket) (command : Command) (now : Instant) :
    (d.entered ticket command now).map RequestWaiter.request =
      ((command.operation? now).map d.registry.issuedBy).getD [] := by
  cases command with
  | request key code header payload =>
    dsimp only [entered, Command.operation?, Option.map_some, Option.getD_some,
      Registry.issuedBy]
    cases (d.registry.request key code header payload now).1 <;> rfl
  | _ => rfl

theorem Step.request_entered (m : Step σ) :
    m.entered.map RequestWaiter.request = m.issued := by
  unfold Step.entered Step.issued Step.turn?
  cases m.input with
  | command ticket command now =>
    dsimp only [Input.operation?]
    split
    · rfl
    · refine (Dispatcher.request_entered m.before ticket command now).trans ?_
      cases command.operation? now <;> rfl
  | _ =>
    dsimp only [Input.operation?]
    split <;> rfl

/-- The new calls, by those that wait and those that are answered at once. -/
def newcomers (connects : List ConnectWaiter) (requests : List RequestWaiter)
    (given : List Answer) : List Ticket :=
  (connects.filter ConnectWaiter.listens).map ConnectWaiter.ticket ++
    (requests.filter RequestWaiter.listens).map RequestWaiter.ticket ++ given.map Answer.ticket

/-- The call is taken in: it waits, or it is answered at once. -/
structure Taken (d : Dispatcher σ) (ticket : Ticket) (command : Command) (now : Instant)
    (d' : Dispatcher σ) : Prop where
  registry : d'.registry = ((command.operation? now).map d.registry.operate).getD d.registry
  intake : ∃ connects given, Intake d d' connects (d.entered ticket command now) given ∧
    newcomers connects (d.entered ticket command now) given = [ticket]

omit [Environment σ] in
/-- A call that waits for a request that no other call waits for replaces none. -/
theorem awaitRequest_of_fresh {d : Dispatcher σ} {w : RequestWaiter}
    (fresh : w.request ∉ d.requestWaiters.map RequestWaiter.request) :
    d.awaitRequest w = { d with requestWaiters := d.requestWaiters ++ [w] } := by
  have other (v : RequestWaiter) (mem : v ∈ d.requestWaiters) : v.request ≠ w.request :=
    fun same => fresh (same ▸ List.mem_map_of_mem mem)
  have kept : (d.requestWaiters.filter fun v => v.request ≠ w.request) = d.requestWaiters :=
    List.filter_eq_self.mpr fun v mem => decide_eq_true (other v mem)
  have replaced : (d.requestWaiters.filter fun v => v.request = w.request) = [] :=
    List.filter_eq_nil_iff.mpr fun v mem same => other v mem (of_decide_eq_true same)
  unfold awaitRequest
  dsimp only
  rw [kept, replaced, List.flatMap_nil, List.append_nil]

theorem taken_request (d : Dispatcher σ) (ticket : Ticket) (key : String) (code : UInt8)
    (header : Header) (payload : Option Bytes) (now : Instant)
    (distinct : ((d.requestWaiters ++
      d.entered ticket (.request key code header payload) now).map RequestWaiter.request).Nodup) :
    Taken d ticket (.request key code header payload) now
      (d.execute ticket (.request key code header payload) now) := by
  rcases asked : d.registry.request key code header payload now with ⟨e | id, registry⟩
  · have refused : d.execute ticket (.request key code header payload) now =
        reply { d with registry } ticket (.error e) := by
      unfold execute
      simp only [asked]
    have nobody : d.entered ticket (.request key code header payload) now = [] := by
      unfold entered
      simp only [asked]
    rw [refused]
    refine ⟨(congrArg Prod.snd asked).symm, ?_⟩
    rw [nobody]
    exact ⟨[], _, intake_reply _ _ _, rfl⟩
  · have somebody : d.entered ticket (.request key code header payload) now =
        [⟨ticket, key, id, true⟩] := by
      unfold entered
      simp only [asked]
    have fresh : (key, id) ∉ d.requestWaiters.map RequestWaiter.request := by
      rw [somebody, List.map_append, List.nodup_append] at distinct
      exact fun mem => distinct.2.2 _ mem _ (List.mem_singleton_self _) rfl
    have accepted : d.execute ticket (.request key code header payload) now =
        { d with registry, requestWaiters := d.requestWaiters ++ [⟨ticket, key, id, true⟩] } := by
      unfold execute
      simp only [asked]
      exact awaitRequest_of_fresh (d := { d with registry }) fresh
    rw [accepted]
    refine ⟨(congrArg Prod.snd asked).symm, ?_⟩
    rw [somebody]
    exact ⟨[], [], ⟨rfl, (List.append_nil _).symm, rfl, (List.append_nil _).symm⟩, rfl⟩

theorem taken_execute (d : Dispatcher σ) (ticket : Ticket) {command : Command} (now : Instant)
    (goes : command.operation? now ≠ some .shutdown)
    (distinct : ((d.requestWaiters ++ d.entered ticket command now).map
      RequestWaiter.request).Nodup) :
    Taken d ticket command now (d.execute ticket command now) := by
  cases command with
  | connect key target config =>
    unfold execute
    dsimp only
    split
    · exact ⟨rfl, ⟨[], _, intake_reply _ _ _, rfl⟩⟩
    · exact ⟨rfl, ⟨[_], [], ⟨rfl, rfl, (List.append_nil _).symm, (List.append_nil _).symm⟩, rfl⟩⟩
  | disconnect key => exact ⟨rfl, ⟨[], _, intake_reply _ _ _, rfl⟩⟩
  | remove key => exact ⟨rfl, ⟨[], _, intake_reply _ _ _, rfl⟩⟩
  | authenticate key credentials => exact ⟨rfl, ⟨[], _, intake_reply _ _ _, rfl⟩⟩
  | send key code header payload => exact ⟨rfl, ⟨[], _, intake_reply _ _ _, rfl⟩⟩
  | request key code header payload =>
    exact taken_request d ticket key code header payload now distinct
  | status key => exact ⟨rfl, ⟨[], _, intake_reply _ _ _, rfl⟩⟩
  | keys => exact ⟨rfl, ⟨[], _, intake_reply _ _ _, rfl⟩⟩
  | subscribe key filter => exact ⟨rfl, ⟨[], _, intake_reply _ _ _, rfl⟩⟩
  | subscribeStatus => exact ⟨rfl, ⟨[], _, intake_reply _ _ _, rfl⟩⟩
  | unsubscribe handle => exact ⟨rfl, ⟨[], _, intake_reply _ _ _, rfl⟩⟩
  | shutdown => exact absurd rfl goes

end Dispatcher

end Switchboard
