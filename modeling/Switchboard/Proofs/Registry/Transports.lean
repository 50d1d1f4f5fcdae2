import Switchboard.Proofs.Registry.Accounts
import Switchboard.Proofs.Session.Conduct
/-!
# The transports of a registry

What passed between the sessions of a registry and the world leaves open what registered sessions
hold, one transport for each session that attempts or is live, and no transport is used out of turn
(`transports_kept`). Sessions come and go under a key: a session that is taken out closes its
transport, and a new one goes on counting generations where the last one stopped, so that no id is
ever granted twice.
-/

namespace Switchboard

namespace SessionState

/-- The states in which a session holds a transport. -/
def carrying : List SessionState :=
  [connecting, reconnecting, connected, needAuth, authenticating]

theorem mem_carrying {s : SessionState} :
    s ∈ carrying ↔ s.isAttempting = true ∨ s.isLive = true := by
  cases s <;> decide

end SessionState

namespace Session

variable {s : Session}

theorem InPhase.transport_of_mem (h : InPhase s) (carries : s.state ∈ SessionState.carrying) :
    s.transport = some s.connectionId := by
  rcases SessionState.mem_carrying.mp carries with attempts | live
  · exact (h.attempting_of attempts).transport
  · exact (h.live_of live).transport

theorem InPhase.mem_of_transport (h : InPhase s) {id : ConnectionId}
    (held : s.transport = some id) : s.state ∈ SessionState.carrying := by
  rw [SessionState.mem_carrying]
  cases h with
  | resting h => rw [h.transport] at held; cases held
  | waiting h => rw [h.transport] at held; cases held
  | attempting h => exact .inl h.state
  | live h => exact .inr h.state

end Session

namespace Registry

variable {σ : Type} {cause : Operation} {r r' r'' : Registry σ} {trace more : List Signal}
  {key : String}

/-- The sessions of a registry hold what a trace has left open. -/
structure Tracks (r : Registry σ) (trace : List Signal) : Prop where
  sessions : ∀ {key : String} {s : Session}, KeyMap.find? key r.sessions = some s → s.Tracks trace
  /-- Where no session is registered, every transport is closed, and a new session starts from a
  later generation. -/
  rest : ∀ id : ConnectionId, KeyMap.find? id.key r.sessions = none →
    stageOf id trace = some .unused ∨
      stageOf id trace = some .gone ∧ id.generation < r.generationOf id.key

namespace Tracks

theorem congr (h : r.Tracks trace) (sessions : r'.sessions = r.sessions)
    (retired : r'.retired = r.retired) : r'.Tracks trace := by
  refine ⟨?_, ?_⟩
  · intro key s found
    rw [sessions] at found
    exact h.sessions found
  · intro id free
    rw [sessions] at free
    unfold generationOf
    rw [retired]
    exact h.rest id free

theorem entry (h : r.Tracks trace) {s : Session} {nextSerial : Nat}
    (entry : Entry r key s nextSerial) : s.Tracks trace := by
  cases entry with
  | found found => exact h.sessions found
  | fresh free target config =>
    refine ⟨nofun, nofun, ?_⟩
    intro id named _
    have same : id.key = key := named
    have rest := h.rest id (by rw [same]; exact free)
    rwa [same] at rest

end Tracks

variable [Environment σ]

/-! ## What passes in an operation -/

/-- What passes between the sessions of a registry and the world in the course of an operation. -/
structure Conduct (cause : Operation) (r : Registry σ) (trace : List Signal) (r' : Registry σ) :
    Prop where
  conducted : Conducted r.world trace r'.world
  told : ∃ acts, r'.acts = r.acts ++ acts ∧
    trace.filter Signal.told = acts.filterMap fun entry => entry.2.signal?
  /-- A report is in the trace only if the operation brings it. -/
  reported : ∀ id, .opened id ∈ trace → ∃ now, cause = .handleTransportEvent id .opened now

namespace Conduct

theorem nothing (world : r'.world = r.world) (acts : r'.acts = r.acts) :
    Conduct cause r [] r' :=
  ⟨world ▸ .nothing, ⟨[], by rw [acts, List.append_nil], rfl⟩, nofun⟩

theorem trans (h : Conduct cause r trace r') (k : Conduct cause r' more r'') :
    Conduct cause r (trace ++ more) r'' where
  conducted := h.conducted.trans k.conducted
  told := by
    obtain ⟨acts, published, told⟩ := h.told
    obtain ⟨others, publishedToo, toldToo⟩ := k.told
    refine ⟨acts ++ others, by rw [publishedToo, published, List.append_assoc], ?_⟩
    rw [List.filter_append, List.filterMap_append, told, toldToo]
  reported id mem := (List.mem_append.mp mem).elim (h.reported id) (k.reported id)

/-- What passes in a call of one session, whose journal is published. -/
theorem of_call {call : Switchboard.Call} {c d : Station σ} (h : Station.Conduct call c trace d)
    (brings : cause.Brings call) (drained : c.session.journal = []) (before : c.world = r.world)
    (after : r'.world = d.world)
    (published : r'.acts = r.acts ++ d.session.journal.map (key, ·)) : Conduct cause r trace r' where
  conducted := by
    rw [← before, after]
    exact h.conducted
  told := by
    obtain ⟨acts, journal, told⟩ := h.told
    rw [drained, List.nil_append] at journal
    refine ⟨_, published, ?_⟩
    rw [told, journal, List.filterMap_map]
    rfl
  reported id mem := by
    obtain ⟨now, same⟩ := h.reported id mem
    exact ⟨now, brings id .opened now same⟩

end Conduct

namespace Tracks

/-- What happens under one key leaves the sessions under the others as they are. -/
theorem of_key (h : r.Tracks trace) (sound : Sound r) (named : ∀ signal ∈ more, signal.id.key = key)
    (own : ∀ s, KeyMap.find? key r'.sessions = some s → s.Tracks (trace ++ more))
    (rest : ∀ id : ConnectionId, id.key = key → KeyMap.find? key r'.sessions = none →
      stageOf id (trace ++ more) = some .unused ∨
        stageOf id (trace ++ more) = some .gone ∧ id.generation < r'.generationOf key)
    (others : ∀ other, other ≠ key →
      KeyMap.find? other r'.sessions = KeyMap.find? other r.sessions ∧
        r'.generationOf other = r.generationOf other) : r'.Tracks (trace ++ more) := by
  refine ⟨?_, ?_⟩
  · intro other s found
    by_cases same : other = key
    · subst same
      exact own s found
    · rw [(others other same).1] at found
      apply (h.sessions found).append_of_ne
      intro signal mem
      rw [named signal mem, (sound.owned found).home]
      exact Ne.symm same
  · intro id free
    by_cases same : id.key = key
    · rw [same] at free ⊢
      exact rest id same free
    · have others' : stageOf id (trace ++ more) = stageOf id trace := by
        apply stageOf_append_of_ne
        intro signal mem eq
        exact same (by rw [← named signal mem, eq])
      rw [(others id.key same).1] at free
      rw [(others id.key same).2, others']
      exact h.rest id free

end Tracks

/-! ## Touches -/

theorem tracks_call (sound : Sound r) (h : r.Tracks trace) {s : Session} {nextSerial : Nat}
    (entry : Entry r key s nextSerial) {call : Switchboard.Call} (brings : cause.Brings call) :
    ∃ more, Conduct cause r more
        ({ r with nextSerial }.shelve (Moment.mk ⟨s, r.world⟩ call).after) ∧
      ({ r with nextSerial }.shelve (Moment.mk ⟨s, r.world⟩ call).after).Tracks (trace ++ more) := by
  have owned := entry.owned sound
  have home : (Moment.mk ⟨s, r.world⟩ call).after.session.key = key :=
    (owned.call r.world call).home
  obtain ⟨more, conduct, tracks⟩ := Moment.tracks ⟨⟨s, r.world⟩, call⟩ (h.entry entry)
  have published : ({ r with nextSerial }.shelve (Moment.mk ⟨s, r.world⟩ call).after).acts =
      r.acts ++ (Moment.mk ⟨s, r.world⟩ call).after.session.journal.map (key, ·) := by
    rw [← home]
    rfl
  have named : ∀ signal ∈ more, signal.id.key = key := by
    intro signal mem
    rw [conduct.named signal mem]
    exact owned.home
  refine ⟨more, .of_call conduct brings owned.journal rfl rfl published,
    h.of_key sound named ?_ ?_ ?_⟩
  · intro t found
    rw [find?_shelve _ home, Option.some.injEq] at found
    rw [← found]
    exact tracks.congr ⟨rfl, rfl, rfl⟩ rfl
  · intro id _ free
    rw [find?_shelve _ home] at free
    cases free
  · intro other different
    exact ⟨find?_shelve_of_ne _ home different, rfl⟩

/-- A session that is taken out leaves nothing open. -/
theorem tracks_takeOut (sound : Sound r) (h : r.Tracks trace) {s : Session}
    (found : KeyMap.find? key r.sessions = some s) :
    ∃ more, Conduct cause r more (r.takeOut key).2 ∧ (r.takeOut key).2.Tracks (trace ++ more) := by
  have owned := sound.owned found
  have home : (Moment.mk ⟨s, r.world⟩ .close).after.session.key = key :=
    (owned.call r.world .close).home
  have idle : Session.Resting (Moment.mk ⟨s, r.world⟩ .close).after.session :=
    Station.resting_close owned.inPhase
  obtain ⟨more, conduct, tracks⟩ := Moment.tracks ⟨⟨s, r.world⟩, .close⟩ (h.sessions found)
  have taken := takeOut_eq found
  rw [home] at taken
  have published : (r.takeOut key).2.acts =
      r.acts ++ (Moment.mk ⟨s, r.world⟩ .close).after.session.journal.map (key, ·) := by
    rw [taken, ← home]
    rfl
  have named : ∀ signal ∈ more, signal.id.key = key := by
    intro signal mem
    rw [conduct.named signal mem]
    exact owned.home
  refine ⟨more, .of_call conduct nofun owned.journal rfl (by rw [taken]; rfl) published,
    h.of_key sound named ?_ ?_ ?_⟩
  · intro t foundStill
    rw [find?_takeOut] at foundStill
    cases foundStill
  · intro id own _
    have later : (r.takeOut key).2.generationOf key =
        (Moment.mk ⟨s, r.world⟩ .close).after.session.generation := by
      rw [taken]
      exact congrArg (Option.getD · 0) (KeyMap.find?_insert_self ..)
    rw [later]
    exact tracks.rest id (own.trans home.symm) (by rw [idle.transport]; nofun)
  · intro other different
    refine ⟨find?_takeOut_of_ne r different, ?_⟩
    rw [taken]
    exact congrArg (Option.getD · 0) (KeyMap.find?_insert_of_ne different ..)

theorem Touch.tracks {ids : List (String × String)} (touch : Touch cause r ids r')
    (sound : Sound r) (h : r.Tracks trace) :
    ∃ more, Conduct cause r more r' ∧ r'.Tracks (trace ++ more) := by
  cases touch with
  | listen =>
    refine ⟨[], .nothing rfl rfl, ?_⟩
    rw [List.append_nil]
    exact h.congr rfl rfl
  | call entry call brings => exact tracks_call sound h entry brings
  | retire found => exact tracks_takeOut sound h found

theorem Touches.tracks {ids : List (String × String)} (touches : Touches cause r ids r')
    (sound : Sound r) (h : r.Tracks trace) :
    ∃ more, Conduct cause r more r' ∧ r'.Tracks (trace ++ more) := by
  induction touches with
  | refl => exact ⟨[], .nothing rfl rfl, by rw [List.append_nil]; exact h⟩
  | tail touches touch ih =>
    obtain ⟨more, conduct, tracks⟩ := ih
    obtain ⟨others, conductToo, tracksToo⟩ := touch.tracks (touches.sound sound) tracks
    exact ⟨more ++ others, conduct.trans conductToo, by rwa [← List.append_assoc]⟩

/-! ## Histories -/

def Turn.Traced (t : Turn σ) (trace : List Signal) : Prop :=
  Conduct t.operation t.before trace t.after

theorem History.tracks {ts : List (Turn σ)} (h : History ts r) :
    ∃ traces, List.Forall₂ Turn.Traced ts traces ∧ r.Tracks traces.flatten := by
  induction h with
  | begin world defaults marks => exact ⟨[], .nil, nofun, fun _ _ => .inl rfl⟩
  | turn h operation ih =>
    obtain ⟨traces, traced, tracks⟩ := ih
    obtain ⟨more, conduct, tracksToo⟩ := (touches_operate _ operation).tracks h.sound tracks
    have last : List.Forall₂ Turn.Traced [⟨_, operation⟩] [more] := .cons conduct .nil
    refine ⟨traces ++ [more], List.rel_append traced last, ?_⟩
    rw [List.flatten_append, List.flatten_singleton]
    exact tracksToo
  | drainActs _ ih =>
    obtain ⟨traces, traced, tracks⟩ := ih
    exact ⟨traces, traced, tracks.congr rfl rfl⟩
  | drainNotices _ ih =>
    obtain ⟨traces, traced, tracks⟩ := ih
    exact ⟨traces, traced, tracks.congr rfl rfl⟩
  | world _ _ ih =>
    obtain ⟨traces, traced, tracks⟩ := ih
    exact ⟨traces, traced, tracks.congr rfl rfl⟩

namespace Tracks

theorem stage (h : r.Tracks trace) (sound : Sound r) (id : ConnectionId) :
    ∃ stage, stageOf id trace = some stage ∧ (stage.isOpen = true ↔ r.held id.key = some id) := by
  cases found : KeyMap.find? id.key r.sessions with
  | none =>
    rw [held_of_none found]
    rcases h.rest id found with unused | ⟨gone, -⟩
    · exact ⟨_, unused, iff_of_false Bool.false_ne_true nofun⟩
    · exact ⟨_, gone, iff_of_false Bool.false_ne_true nofun⟩
  | some s =>
    rw [held_of_find? found]
    have tracks := h.sessions found
    by_cases holds : s.transport = some id
    · rcases tracks.held id holds with ready | ⟨opening, -⟩
      · exact ⟨_, ready, iff_of_true rfl holds⟩
      · exact ⟨_, opening, iff_of_true rfl holds⟩
    · rcases tracks.rest id (sound.owned found).home.symm holds with unused | ⟨gone, -⟩
      · exact ⟨_, unused, iff_of_false Bool.false_ne_true holds⟩
      · exact ⟨_, gone, iff_of_false Bool.false_ne_true holds⟩

theorem leftOpen_iff (h : r.Tracks trace) (sound : Sound r) (id : ConnectionId) :
    LeftOpen trace id ↔ r.held id.key = some id := by
  obtain ⟨stage, found, isOpen⟩ := h.stage sound id
  rw [Switchboard.leftOpen_iff found, isOpen]

end Tracks

/-- The operation closes what is under a key and opens nothing there. -/
def Operation.Closes (key : String) : Operation → Prop
  | .disconnect k | .remove k => k = key
  | .shutdown => True
  | _ => False

theorem held_of_closes (sound : Sound r) {operation : Operation} (closes : operation.Closes key) :
    (r.operate operation).held key = none := by
  cases operation with
  | disconnect k =>
    cases closes
    unfold operate disconnect
    dsimp only
    cases found : KeyMap.find? key r.sessions with
    | none =>
      rw [onSession_of_unknown found]
      exact held_of_none found
    | some s =>
      have owned := sound.owned found
      have rest : Session.Resting (Moment.mk ⟨s, r.world⟩ .disconnect).after.session :=
        Station.resting_disconnected owned.inPhase
      rw [onSession_of_known found]
      exact (held_of_find? (find?_shelve r (owned.call r.world .disconnect).home)).trans
        rest.transport
  | remove k =>
    cases closes
    exact held_of_none (find?_remove r key)
  | shutdown => exact held_of_none (find?_shutdown r key)
  | _ => cases closes

theorem History.held_of_closes {ts : List (Turn σ)} (h : History ts r) {t : Turn σ}
    (last : t ∈ ts.getLast?) (closes : t.operation.Closes key) : r.held key = none := by
  induction h with
  | begin world defaults marks => cases last
  | turn h operation _ =>
    rw [List.getLast?_concat, Option.mem_some_iff] at last
    subst last
    exact Registry.held_of_closes h.sound closes
  | drainActs _ ih => exact ih last
  | drainNotices _ ih => exact ih last
  | world _ _ ih => exact ih last

/-- The transports of a history as its owner reads them. -/
structure TransportsKept (ts : List (Turn σ)) (traces : List (List Signal)) (r : Registry σ) :
    Prop where
  /-- Operation by operation, what passed between the sessions and the world. -/
  traced : List.Forall₂ Turn.Traced ts traces
  /-- No transport is granted or closed twice, and a frame is handed over only after the transport
  was reported open and before it is closed. -/
  inTurn : InTurn traces.flatten
  /-- What is open is what registered sessions hold, in the states in which they hold something. -/
  held : ∀ id, LeftOpen traces.flatten id ↔ ∃ s, KeyMap.find? id.key r.sessions = some s ∧
    s.state ∈ SessionState.carrying ∧ s.transport = some id
  /-- In these states every session holds a transport of its key. -/
  each : ∀ key s, KeyMap.find? key r.sessions = some s → s.state ∈ SessionState.carrying →
    ∃ id, s.transport = some id ∧ id.key = key
  /-- Under one key at most one transport is open. -/
  one : ∀ id other, LeftOpen traces.flatten id → LeftOpen traces.flatten other →
    id.key = other.key → id = other
  /-- After a disconnection, a removal or a shutdown no transport is open under the key. -/
  closed : ∀ t ∈ ts.getLast?, ∀ key, t.operation.Closes key →
    ∀ id : ConnectionId, id.key = key → ¬ LeftOpen traces.flatten id

theorem Tracks.kept {ts : List (Turn σ)} {traces : List (List Signal)}
    (h : r.Tracks traces.flatten) (history : History ts r)
    (traced : List.Forall₂ Turn.Traced ts traces) : TransportsKept ts traces r where
  traced := traced
  inTurn := by
    refine inTurn_of_stages fun id => ?_
    obtain ⟨stage, found, -⟩ := h.stage history.sound id
    exact ⟨stage, found⟩
  held id := by
    rw [h.leftOpen_iff history.sound]
    cases found : KeyMap.find? id.key r.sessions with
    | none => simp [held_of_none found]
    | some s =>
      rw [held_of_find? found]
      have phase := (history.sound.owned found).inPhase
      refine ⟨fun holds => ⟨s, rfl, phase.mem_of_transport holds, holds⟩, ?_⟩
      rintro ⟨_, ⟨⟩, -, holds⟩
      exact holds
  each key s found carries := by
    have owned := history.sound.owned found
    exact ⟨s.connectionId, owned.inPhase.transport_of_mem carries, owned.home⟩
  one id other isOpen otherOpen same := by
    rw [h.leftOpen_iff history.sound] at isOpen otherOpen
    rw [same, otherOpen] at isOpen
    exact (Option.some.inj isOpen).symm
  closed t last key closes id named isOpen := by
    rw [h.leftOpen_iff history.sound, named, history.held_of_closes last closes] at isOpen
    cases isOpen

/-- In every history, over every world, what passed between the sessions and the world leaves open
exactly what registered sessions hold, and no transport is used out of turn. -/
theorem transports_kept {ts : List (Turn σ)} (h : History ts r) :
    ∃ traces, TransportsKept ts traces r := by
  obtain ⟨traces, traced, tracks⟩ := h.tracks
  exact ⟨traces, tracks.kept h traced⟩

/-- A live session is replaced after its transport has begun to refuse frames, and the registry is
shut down while the new one attempts. The record of the world has the refused frames and the leave
that nobody took, all between the grant and the hang-up. -/
theorem transports_kept_replaced :
    ∃ (ts : List (Turn (Recorded ScriptedNetwork))) (r : Registry (Recorded ScriptedNetwork)),
      History ts r ∧
        grantedIds r.world.record = [⟨"k", 1⟩, ⟨"k", 3⟩] ∧
        hungUpIds r.world.record = [⟨"k", 1⟩, ⟨"k", 3⟩] ∧
        (r.world.record.map fun signal => (signal.id.generation, signal.told)) =
          [(1, true), (1, true), (1, false), (1, false), (1, true), (3, true), (3, true)] ∧
        ∃ traces, TransportsKept ts traces r :=
  have refusing {ts : List (Turn (Recorded ScriptedNetwork))}
      {r : Registry (Recorded ScriptedNetwork)} (h : History ts r) :
      History ts { r with world := ⟨{ refuseFrames := true }, r.world.record⟩ } := h.world _
  have begun : History [] _ := .begin (⟨{}, []⟩ : Recorded ScriptedNetwork) {}
    scriptedMark
  have opened := (begun.turn (.connect "k" ⟨"a", 1, none⟩ none ⟨0⟩)).turn
    (.handleTransportEvent ⟨"k", 1⟩ .opened ⟨0⟩)
  have sent := opened.turn (.send "k" 0x30 (.ok (.obj [])) none)
  have replaced := ((refusing sent).turn (.send "k" 0x30 (.ok (.obj [])) none)).turn
    (.connect "k" ⟨"b", 1, none⟩ none ⟨0⟩)
  have history := replaced.turn .shutdown
  ⟨_, _, history, by decide, by decide, by decide, transports_kept history⟩

end Registry

end Switchboard
