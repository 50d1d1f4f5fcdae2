import Switchboard.Proofs.Session.Path
import Switchboard.Proofs.Session.Stages
/-!
# Transcripts

A transcript tells line by line what a session did, and it tells more than the journal: also the
frames that a transport was handed and did not take, and the reports that were acted upon. Each line
names the call that it belongs to and the scene in which it stands, which is the state of the
session and the transport that it held.

`Rule` says what may stand after which lines, and in `Lawful` transcripts every line keeps to it.
What is true of all lawful transcripts is proved by induction over their lines and needs no session.
-/

namespace Switchboard

/-- What a line of a transcript tells. -/
inductive Entry where
  /-- It stands in the journal as well. -/
  | told (act : Act)
  /-- A transport was handed a frame and did not take it. -/
  | refused (id : ConnectionId) (packet : Packet)
  /-- The report that a transport is open was acted upon. -/
  | opened (id : ConnectionId)

namespace Entry

def act? : Entry → Option Act
  | told act => some act
  | _ => none

/-- What passes between the session and the world. -/
def signal? : Entry → Option Signal
  | told act => act.signal?
  | refused id packet => some (.sent id packet.bytes false)
  | opened id => some (.opened id)

/-- The frame that a transport was handed, whether it took it or not. -/
def handed? : Entry → Option (ConnectionId × Packet)
  | told (.delivered id packet) => some (id, packet)
  | refused id packet => some (id, packet)
  | _ => none

/-- The state that was entered. -/
def state? : Entry → Option SessionState
  | told (.entered event) => some event.state
  | _ => none

/-- The phase of the exchange of credentials that was heard. -/
def phase? : Entry → Option AuthPhase
  | told act => act.phase?
  | _ => none

end Entry

/-- The state of a session and the transport that it holds. -/
structure Scene where
  state : SessionState
  transport : Option ConnectionId
  deriving DecidableEq, Repr

/-- The scene after an entry. -/
def Scene.step (scene : Scene) : Entry → Scene
  | .told (.entered event) => { scene with state := event.state }
  | .told (.dialled id _ true) => { scene with transport := some id }
  | .told (.hungUp _) => { scene with transport := none }
  | _ => scene

/-- A line of a transcript. -/
structure Line where
  cause : Call
  scene : Scene
  entry : Entry

section Transcripts

/-- The scene after lines. A session starts idle and holds nothing. -/
def sceneAfter (lines : List Line) : Scene :=
  lines.foldl (fun scene line => scene.step line.entry) ⟨.idle, none⟩

/-- The acts that lines tell. -/
def actsOf (lines : List Line) : List Act := lines.filterMap fun line => line.entry.act?

/-- What lines tell of what passed between the session and the world. -/
def signalsOf (lines : List Line) : List Signal := lines.filterMap fun line => line.entry.signal?

/-- The phase of the exchange of credentials that was heard last, if nothing was done since. -/
def lastPhase? (lines : List Line) : Option AuthPhase :=
  (actsOf lines).getLast?.bind Act.phase?

/-- The last line enters a state, in the course of a call. -/
def Enters (lines : List Line) (cause : Call) (state : SessionState) : Prop :=
  ∃ line, lines.getLast? = some line ∧ line.cause = cause ∧ line.entry.state? = some state

/-- The act is between the session and its callers. -/
def Act.isAside : Act → Bool
  | accepted _ | dropped _ | discarded _ | settled _ => true
  | _ => false

/-- When a state may be entered. -/
structure Turn (lines : List Line) (cause : Call) (state : SessionState) : Prop where
  leads : (sceneAfter lines).state.leadsTo state = true
  /-- An attempt begins without a transport. -/
  free : state.isAttempting = true → (sceneAfter lines).transport = none
  /-- The prompt comes from the transport that is held, if it comes from one. -/
  prompted : ∃ id, Prompted cause id (lastPhase? lines) (sceneAfter lines).state state ∧
    ∀ held, (sceneAfter lines).transport = some held → held = id

/-- When a frame of a purpose may be handed over. -/
def Occasion (lines : List Line) (cause : Call) : Purpose → Prop
  | .submission | .request _ => (sceneAfter lines).state = .connected
  | .ping | .pong => (sceneAfter lines).state.isLive = true
  | .credentials => Enters lines cause .authenticating
  | .farewell => Enters lines cause .disconnecting

/-- What a call may add to lines. -/
inductive Rule (lines : List Line) (cause : Call) : Entry → Prop where
  | aside {act : Act} (aside : act.isAside = true) : Rule lines cause (.told act)
  | dialled {id : ConnectionId} {target : Target} {granted : Bool}
      (attempts : (sceneAfter lines).state.isAttempting = true)
      (free : (sceneAfter lines).transport = none)
      (fresh : stageOf id (signalsOf lines) = some .unused) :
      Rule lines cause (.told (.dialled id target granted))
  | hungUp {id : ConnectionId} (held : (sceneAfter lines).transport = some id) :
      Rule lines cause (.told (.hungUp id))
  | opened {id : ConnectionId} {now : Instant} (held : (sceneAfter lines).transport = some id)
      (brings : cause = .handleEvent id .opened now) : Rule lines cause (.opened id)
  | heard {inbound : Inbound}
      (brings : ∀ id, (sceneAfter lines).transport = some id → ∃ bytes now,
        cause = .handleEvent id (.frame bytes) now ∧ Frame.decode bytes = .ok inbound.frame)
      (read : inbound.message = (Message.ofFrame inbound.frame).toOption.join) :
      Rule lines cause (.told (.heard inbound))
  | entered {event : StatusEvent} (turn : Turn lines cause event.state) :
      Rule lines cause (.told (.entered event))
  | handed {entry : Entry} {id : ConnectionId} {packet : Packet}
      (handed : entry.handed? = some (id, packet))
      (held : (sceneAfter lines).transport = some id)
      (ready : stageOf id (signalsOf lines) = some .ready) (genuine : packet.Genuine)
      (occasion : Occasion lines cause packet.purpose) : Rule lines cause entry

/-- Transcripts that keep to the rules. -/
inductive Lawful : List Line → Prop where
  | nil : Lawful []
  | concat {lines : List Line} {cause : Call} {entry : Entry} (h : Lawful lines)
      (rule : Rule lines cause entry) : Lawful (lines ++ [⟨cause, sceneAfter lines, entry⟩])

variable {lines : List Line} {line : Line}

@[simp] theorem sceneAfter_concat (lines : List Line) (line : Line) :
    sceneAfter (lines ++ [line]) = (sceneAfter lines).step line.entry := by
  simp [sceneAfter]

@[simp] theorem actsOf_append (lines more : List Line) :
    actsOf (lines ++ more) = actsOf lines ++ actsOf more :=
  List.filterMap_append

@[simp] theorem signalsOf_append (lines more : List Line) :
    signalsOf (lines ++ more) = signalsOf lines ++ signalsOf more :=
  List.filterMap_append

theorem actsOf_singleton (line : Line) : actsOf [line] = line.entry.act?.toList := by
  cases act : line.entry.act? <;> simp [actsOf, act]

theorem signalsOf_singleton (line : Line) : signalsOf [line] = line.entry.signal?.toList := by
  cases signal : line.entry.signal? <;> simp [signalsOf, signal]

theorem lastPhase?_concat (lines : List Line) (line : Line) : lastPhase? (lines ++ [line]) =
    match line.entry.act? with
    | some act => act.phase?
    | none => lastPhase? lines := by
  unfold lastPhase?
  rw [actsOf_append, actsOf_singleton]
  cases line.entry.act? <;> simp

@[simp] theorem enters_concat {cause : Call} {state : SessionState} :
    Enters (lines ++ [line]) cause state ↔
      line.cause = cause ∧ line.entry.state? = some state := by
  simp [Enters]

/-- The state changes when a line enters another one. -/
theorem Scene.state_step (scene : Scene) (entry : Entry) :
    (scene.step entry).state = entry.state?.getD scene.state := by
  cases entry with
  | told act =>
    cases act with
    | dialled id target granted => cases granted <;> rfl
    | _ => rfl
  | _ => rfl

theorem scene_of_enters {cause : Call} {state : SessionState} (h : Enters lines cause state) :
    (sceneAfter lines).state = state := by
  obtain ⟨line, last, -, enters⟩ := h
  obtain ⟨earlier, rfl⟩ := List.getLast?_eq_some_iff.mp last
  rw [sceneAfter_concat, Scene.state_step, enters]
  rfl

theorem Entry.of_aside {act : Act} (aside : act.isAside = true) :
    (told act).handed? = none ∧ (told act).state? = none ∧ (told act).phase? = none ∧
      (told act).signal? = none := by
  cases act <;> first | exact ⟨rfl, rfl, rfl, rfl⟩ | cases aside

theorem Scene.step_of_aside {act : Act} (aside : act.isAside = true) (scene : Scene) :
    scene.step (.told act) = scene := by
  cases act <;> first | rfl | cases aside

theorem Entry.state?_of_handed {entry : Entry} {frame : ConnectionId × Packet}
    (handed : entry.handed? = some frame) : entry.state? = none := by
  cases entry with
  | told act => cases act <;> first | rfl | cases handed
  | refused => rfl
  | opened => rfl

theorem Entry.phase?_of_handed {entry : Entry} {frame : ConnectionId × Packet}
    (handed : entry.handed? = some frame) : entry.phase? = none := by
  cases entry with
  | told act => cases act <;> first | rfl | cases handed
  | refused => rfl
  | opened => rfl

theorem Entry.signal?_of_handed {entry : Entry} {id : ConnectionId} {packet : Packet}
    (handed : entry.handed? = some (id, packet)) :
    ∃ taken, entry.signal? = some (.sent id packet.bytes taken) := by
  cases entry with
  | told act => cases act <;> cases handed; exact ⟨true, rfl⟩
  | refused => cases handed; exact ⟨false, rfl⟩
  | opened => cases handed

theorem Scene.step_of_handed {entry : Entry} {frame : ConnectionId × Packet}
    (handed : entry.handed? = some frame) (scene : Scene) : scene.step entry = scene := by
  cases entry with
  | told act => cases act <;> first | rfl | cases handed
  | refused => rfl
  | opened => rfl

namespace Rule

variable {cause : Call} {entry : Entry}

/-- A transport is handed frames while it is held, between the report and the hang-up. -/
theorem of_handed (h : Rule lines cause entry) {id : ConnectionId} {packet : Packet}
    (handed : entry.handed? = some (id, packet)) :
    (sceneAfter lines).transport = some id ∧ stageOf id (signalsOf lines) = some .ready ∧
      packet.Genuine ∧ Occasion lines cause packet.purpose := by
  cases h with
  | handed handedToo held ready genuine occasion =>
    rw [handed] at handedToo
    cases handedToo
    exact ⟨held, ready, genuine, occasion⟩
  | aside aside => rw [(Entry.of_aside aside).1] at handed; cases handed
  | _ => cases handed

theorem of_enters (h : Rule lines cause entry) {state : SessionState}
    (enters : entry.state? = some state) : Turn lines cause state := by
  cases h with
  | entered turn => cases enters; exact turn
  | aside aside => rw [(Entry.of_aside aside).2.1] at enters; cases enters
  | handed handed => rw [Entry.state?_of_handed handed] at enters; cases enters
  | _ => cases enters

/-- What is heard of the exchange of credentials arrived on the transport that is held. -/
theorem of_hears (h : Rule lines cause entry) {phase : AuthPhase}
    (hears : entry.phase? = some phase) {id : ConnectionId}
    (held : (sceneAfter lines).transport = some id) : cause.Tells id phase := by
  cases h with
  | @heard inbound brings read =>
    obtain ⟨bytes, now, same, decodes⟩ := brings id held
    obtain ⟨frame, message⟩ := inbound
    cases message with
    | none => cases hears
    | some message =>
      cases message <;> cases hears
      exact ⟨bytes, now, frame, _, same, decodes, read.symm, rfl⟩
  | aside aside => rw [(Entry.of_aside aside).2.2.1] at hears; cases hears
  | handed handed => rw [Entry.phase?_of_handed handed] at hears; cases hears
  | _ => cases hears

theorem of_opened {id : ConnectionId} (h : Rule lines cause (.opened id)) :
    ∃ now, cause = .handleEvent id .opened now := by
  cases h with
  | opened held brings => exact ⟨_, brings⟩
  | handed handed => cases handed

end Rule

namespace Lawful

/-- Every line of a lawful transcript keeps to the rules. -/
theorem rule_of_split (h : Lawful lines) {before after : List Line}
    (split : lines = before ++ line :: after) :
    Lawful before ∧ line.scene = sceneAfter before ∧ Rule before line.cause line.entry := by
  induction h generalizing after with
  | nil => simp at split
  | @concat lines cause entry h rule ih =>
    rcases split_of_concat split with ⟨rfl, rfl, -⟩ | ⟨rest, -, split⟩
    · exact ⟨h, rfl, rule⟩
    · exact ih split

theorem of_prefix (h : Lawful lines) {before : List Line} (early : before <+: lines) :
    Lawful before := by
  obtain ⟨after, rfl⟩ := early
  cases after with
  | nil => rwa [List.append_nil] at h
  | cons line after => exact (h.rule_of_split rfl).1

theorem genuine_of_handed (h : Lawful lines) (mem : line ∈ lines)
    {id : ConnectionId} {packet : Packet} (handed : line.entry.handed? = some (id, packet)) :
    packet.Genuine := by
  obtain ⟨before, after, split⟩ := List.append_of_mem mem
  obtain ⟨-, -, rule⟩ := h.rule_of_split split
  exact (rule.of_handed handed).2.2.1

theorem hears (h : Lawful lines) (mem : line ∈ lines) {phase : AuthPhase}
    (hears : line.entry.phase? = some phase) {id : ConnectionId}
    (held : line.scene.transport = some id) : line.cause.Tells id phase := by
  obtain ⟨before, after, split⟩ := List.append_of_mem mem
  obtain ⟨-, scene, rule⟩ := h.rule_of_split split
  rw [scene] at held
  exact rule.of_hears hears held

end Lawful

end Transcripts

end Switchboard
