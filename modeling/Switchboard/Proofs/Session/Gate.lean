import Switchboard.Proofs.Session.Recounting
import Switchboard.Scripted.Network
/-!
# Callers' frames pass while the session is connected

A transport is handed a caller's frame only in a scene in which the session is connected, and it
does not matter whether it takes the frame. So from the moment that the peer asks for credentials
until it accepts them, or until a later connection is open, only frames of the session itself leave:
probes, their answers, credentials and the farewell (`Gated.window`).

All of it holds for lawful transcripts, and every run has one.
-/

namespace Switchboard

/-- The line leaves the connection for the exchange of credentials. -/
def Line.Parks (line : Line) : Prop :=
  line.scene.state = .connected ∧
    (line.entry.state? = some .needAuth ∨ line.entry.state? = some .authenticating)

/-- Lines keep callers' frames back unless the session is connected. -/
structure Gated (lines : List Line) : Prop where
  staged : ∀ before line after, lines = before ++ line :: after → line.scene = sceneAfter before
  submitted : ∀ line ∈ lines, ∀ id packet, line.entry.handed? = some (id, packet) →
    packet.purpose.isSubmitted = true → line.scene.state = .connected
  /-- Until the session is connected again it hands over only frames of its own, each with the bytes
  of its kind. -/
  window : ∀ before line within after, lines = before ++ line :: (within ++ after) → line.Parks →
    (∀ other ∈ within, other.entry.state? ≠ some .connected) →
      ∀ other ∈ within, ∀ id packet, other.entry.handed? = some (id, packet) →
        packet.purpose.isSubmitted = false ∧ packet.Genuine
  /-- A session parks because the peer requires credentials, on the transport that is held. -/
  challenged : ∀ line ∈ lines, line.Parks → ∃ id methods, line.cause.Tells id (.required methods) ∧
    ∀ held, line.scene.transport = some held → held = id
  /-- It is connected again because the peer accepts them, or a transport is reported open. -/
  readmitted : ∀ line ∈ lines, line.entry.state? = some .connected → ∃ id,
    (∀ held, line.scene.transport = some held → held = id) ∧
      (line.scene.state = .authenticating ∧ line.cause.Tells id .success ∨
        (line.scene.state = .connecting ∨ line.scene.state = .reconnected) ∧
          ∃ now, line.cause = .handleEvent id .opened now)

/-- Unless a line enters it, the connected state is not reached, by induction on the lines. -/
theorem sceneAfter_ne_connected {lines within : List Line}
    (away : (sceneAfter lines).state ≠ .connected)
    (closed : ∀ line ∈ within, line.entry.state? ≠ some .connected) :
    (sceneAfter (lines ++ within)).state ≠ .connected := by
  induction within using List.reverseRecOn with
  | nil => rwa [List.append_nil]
  | append_singleton within line ih =>
    have earlier := ih fun other mem => closed other (List.mem_append_left _ mem)
    have last := closed line (List.mem_append_right _ (List.mem_singleton_self _))
    rw [← List.append_assoc, sceneAfter_concat, Scene.state_step]
    cases enters : line.entry.state? with
    | none => exact earlier
    | some state =>
      rw [enters] at last
      exact fun connected => last (congrArg some connected)

namespace Lawful

variable {lines : List Line}

/-- A caller's frame is handed over in a scene in which the session is connected. -/
theorem connected_of_submitted (h : Lawful lines) {line : Line} (mem : line ∈ lines)
    {id : ConnectionId} {packet : Packet} (handed : line.entry.handed? = some (id, packet))
    (submitted : packet.purpose.isSubmitted = true) : line.scene.state = .connected := by
  obtain ⟨before, after, split⟩ := List.append_of_mem mem
  obtain ⟨-, scene, rule⟩ := h.rule_of_split split
  obtain ⟨-, -, -, occasion⟩ := rule.of_handed handed
  rw [scene]
  unfold Occasion at occasion
  cases purpose : packet.purpose <;> rw [purpose] at occasion submitted <;>
    first | exact occasion | cases submitted

/-- A session that has left the connection hands over its own frames until it is connected again. -/
theorem own_of_window (h : Lawful lines) {before within after : List Line} {line : Line}
    (split : lines = before ++ line :: (within ++ after)) (parks : line.Parks)
    (closed : ∀ other ∈ within, other.entry.state? ≠ some .connected) {other : Line}
    (mem : other ∈ within) {id : ConnectionId} {packet : Packet}
    (handed : other.entry.handed? = some (id, packet)) :
    packet.purpose.isSubmitted = false ∧ packet.Genuine := by
  have among : other ∈ lines := by
    rw [split]
    exact List.mem_append_right _ (List.mem_cons_of_mem _ (List.mem_append_left _ mem))
  refine ⟨?_, h.genuine_of_handed among handed⟩
  rw [Bool.eq_false_iff]
  intro submitted
  have connected := h.connected_of_submitted among handed submitted
  obtain ⟨early, late, rfl⟩ := List.append_of_mem mem
  have here : lines = before ++ [line] ++ early ++ other :: (late ++ after) := by
    rw [split]
    simp
  rw [(h.rule_of_split here).2.1] at connected
  refine sceneAfter_ne_connected ?_ (fun x mem => closed x (List.mem_append_left _ mem)) connected
  rw [sceneAfter_concat, Scene.state_step]
  rcases parks.2 with enters | enters <;> rw [enters] <;> nofun

theorem gated (h : Lawful lines) : Gated lines where
  staged _ _ _ split := (h.rule_of_split split).2.1
  submitted _ mem _ _ handed submitted := h.connected_of_submitted mem handed submitted
  window _ _ _ _ split parks closed _ mem _ _ handed :=
    h.own_of_window split parks closed mem handed
  challenged line mem parks := by
    obtain ⟨before, after, split⟩ := List.append_of_mem mem
    obtain ⟨connected, enters⟩ := parks
    obtain ⟨-, scene, rule⟩ := h.rule_of_split split
    rw [scene] at connected ⊢
    rcases enters with enters | enters
    all_goals
      obtain ⟨id, prompted, own⟩ := (rule.of_enters enters).prompted
      rw [connected] at prompted
      obtain ⟨methods, -, tells⟩ := prompted
      exact ⟨id, methods, tells, own⟩
  readmitted line mem enters := by
    obtain ⟨before, after, split⟩ := List.append_of_mem mem
    obtain ⟨-, scene, rule⟩ := h.rule_of_split split
    have turn := rule.of_enters enters
    obtain ⟨id, prompted, own⟩ := turn.prompted
    have leads := turn.leads
    rw [scene]
    refine ⟨id, own, ?_⟩
    cases state : (sceneAfter before).state <;> rw [state] at leads prompted <;>
      first
      | exact .inr ⟨.inl rfl, prompted⟩
      | exact .inr ⟨.inr rfl, prompted⟩
      | exact .inl ⟨rfl, prompted.2⟩
      | cases leads

end Lawful

/-- In every run, over every world, a transport is handed callers' frames only while the session is
connected, and while credentials are asked for and not yet accepted it is handed none. -/
theorem run_gated {σ : Type} [Environment σ] {key : String} {target : Target}
    {config : SessionConfig} {generation serial : Nat} {mark : String} {ms : List (Moment σ)}
    {c : Station σ}
    (h : Run (.create key target config generation serial mark) ms c) :
    ∃ lines, Transcript ms lines ∧ Gated lines := by
  obtain ⟨lines, transcript, recounted⟩ := h.transcript
  exact ⟨lines, transcript, recounted.lawful.gated⟩

/-- A frame and a request are held back while the peer waits for credentials, and its probe is
answered all the same. They leave when it has accepted the credentials that the caller supplied. -/
theorem run_gated_parked :
    ∃ (ms : List (Moment ScriptedNetwork)) (c : Station ScriptedNetwork),
      Run (.create "k" default {} 0 1 "s0000001") ms c ∧
        (Run.statuses ms).map StatusEvent.state =
          [.connecting, .connected, .needAuth, .authenticating, .connected] ∧
        c.session.queue = [] ∧ c.world.frames.length = 4 ∧
        ∃ lines, Transcript ms lines ∧ Gated lines :=
  have begun : Run (.create "k" default {} 0 1 "s0000001") [] ⟨_, ({} : ScriptedNetwork)⟩ :=
    .begin _
  have hearing {ms : List (Moment ScriptedNetwork)} {c : Station ScriptedNetwork}
      (h : Run (.create "k" default {} 0 1 "s0000001") ms c) (message : Message) :=
    h.call (.handleEvent ⟨"k", 1⟩ (.frame ((message.encode none).toOption.getD [])) ⟨0⟩)
  have opened := (begun.call (.connect ⟨0⟩)).call (.handleEvent ⟨"k", 1⟩ .opened ⟨0⟩)
  have parked := hearing opened (.authenticate ⟨none, .required []⟩)
  have waiting := (parked.call (.send 0x30 (.ok (.obj [])) none)).call (.request 0x30 [] none ⟨0⟩)
  have probed := hearing waiting (.ping ⟨none, "p", none⟩)
  have run := hearing (probed.call (.authenticate (.str "secret")))
    (.authenticate ⟨none, .success⟩)
  ⟨_, _, run, by decide +kernel, by decide +kernel, by decide +kernel, run_gated run⟩

end Switchboard
