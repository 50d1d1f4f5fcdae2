import Switchboard.Proofs.Session.Hearing
import Switchboard.Proofs.Session.Recounting
import Switchboard.Scripted.Network
/-!
# Credentials are disclosed once for each challenge

A challenge is a frame that requires credentials and reaches a connected session; a disclosure is a
frame with credentials that the session hands over, whether the transport takes it or not. On each
connection there are never more disclosures than challenges (`Balanced`), because a challenge
entitles to one disclosure and the disclosure uses the title up (`Entitled`). After a disclosure
there is no other one on the connection until the credentials are accepted (`Waits`): a transport
that is let go is never held again, and one that is held has no way back to a challenge but through
the acceptance.
-/

namespace Switchboard

namespace Line

/-- The line hands credentials to a transport. -/
def discloses (id : ConnectionId) (line : Line) : Bool :=
  match line.entry.handed? with
  | some (other, packet) => other = id ∧ packet.purpose = .credentials
  | none => false

/-- The line hears that credentials are required, and a connected session holds the transport. -/
def challenges (id : ConnectionId) (line : Line) : Bool :=
  match line.entry.phase? with
  | some (.required _) => line.scene = ⟨.connected, some id⟩
  | _ => false

/-- The line hears that credentials are accepted, on the transport that a session holds which waits
for that. -/
def clears (id : ConnectionId) (line : Line) : Bool :=
  match line.entry.phase? with
  | some .success => line.scene = ⟨.authenticating, some id⟩
  | _ => false

variable {id : ConnectionId} {line : Line}

theorem discloses_iff : line.discloses id = true ↔
    ∃ packet, line.entry.handed? = some (id, packet) ∧ packet.purpose = .credentials := by
  unfold discloses
  cases handed : line.entry.handed? with
  | none => simp
  | some frame =>
    obtain ⟨other, packet⟩ := frame
    simp only [decide_eq_true_eq, Option.some.injEq, Prod.mk.injEq]
    exact ⟨fun ⟨same, purpose⟩ => ⟨packet, ⟨same, rfl⟩, purpose⟩,
      fun ⟨_, ⟨same, other⟩, purpose⟩ => ⟨same, other ▸ purpose⟩⟩

theorem challenges_of {methods : List String} (hears : line.entry.phase? = some (.required methods))
    (scene : line.scene = ⟨.connected, some id⟩) : line.challenges id = true := by
  unfold challenges
  rw [hears, scene]
  exact decide_eq_true rfl

theorem clears_of (hears : line.entry.phase? = some .success)
    (scene : line.scene = ⟨.authenticating, some id⟩) : line.clears id = true := by
  unfold clears
  rw [hears, scene]
  exact decide_eq_true rfl

end Line

section Laws

variable {id : ConnectionId} {lines : List Line} {cause : Call} {entry : Entry}

/-- To enter a state is an act, and it hears nothing. -/
theorem Entry.told_of_enters {state : SessionState} (enters : entry.state? = some state) :
    ∃ act, entry.act? = some act ∧ act.phase? = none := by
  cases entry with
  | told act => cases act <;> first | exact ⟨_, rfl, rfl⟩ | cases enters
  | refused => cases enters
  | opened => cases enters

/-- What was heard last was heard just now, or before a line that is no act. -/
theorem heard_of_concat {line : Line} {phase : AuthPhase}
    (h : lastPhase? (lines ++ [line]) = some phase) :
    line.entry.phase? = some phase ∨ line.entry.act? = none ∧ lastPhase? lines = some phase := by
  rw [lastPhase?_concat] at h
  cases entry : line.entry with
  | told act => rw [entry] at h; exact .inl h
  | _ => rw [entry] at h; exact .inr ⟨rfl, h⟩

/-- A transport that is held was held before, or the session dials it. -/
theorem Rule.held_or_dialled (h : Rule lines cause entry)
    (held : ((sceneAfter lines).step entry).transport = some id) :
    (sceneAfter lines).transport = some id ∨
      (sceneAfter lines).state.isAttempting = true ∧ stageOf id (signalsOf lines) = some .unused ∧
        entry.state? = none := by
  cases h with
  | aside aside => rw [Scene.step_of_aside aside] at held; exact .inl held
  | @dialled other target granted attempts free fresh =>
    cases granted with
    | true => cases held; exact .inr ⟨attempts, fresh, rfl⟩
    | false => exact .inl held
  | hungUp => cases held
  | opened => exact .inl held
  | heard => exact .inl held
  | entered => exact .inl held
  | handed handed => rw [Scene.step_of_handed handed] at held; exact .inl held

theorem lastPhase?_of_enters {state : SessionState} (h : Enters lines cause state) :
    lastPhase? lines = none := by
  obtain ⟨line, last, -, enters⟩ := h
  obtain ⟨earlier, rfl⟩ := List.getLast?_eq_some_iff.mp last
  obtain ⟨act, told, silent⟩ := Entry.told_of_enters enters
  rw [lastPhase?_concat, told]
  exact silent

/-- A disclosure follows at once on the entry of the state in which the verdict is awaited. -/
theorem Rule.of_discloses (h : Rule lines cause entry)
    (discloses : Line.discloses id ⟨cause, sceneAfter lines, entry⟩ = true) :
    (sceneAfter lines).transport = some id ∧ stageOf id (signalsOf lines) = some .ready ∧
      Enters lines cause .authenticating ∧ entry.state? = none ∧ entry.phase? = none := by
  obtain ⟨packet, handed, purpose⟩ := Line.discloses_iff.mp discloses
  obtain ⟨held, ready, -, occasion⟩ := h.of_handed handed
  rw [purpose] at occasion
  exact ⟨held, ready, occasion, Entry.state?_of_handed handed, Entry.phase?_of_handed handed⟩

/-! ## A challenge entitles to a disclosure -/

/-- A disclosure is still to come: the session parks, or it is about to answer a challenge. -/
def Entitled (id : ConnectionId) (lines : List Line) : Prop :=
  (sceneAfter lines).transport = some id ∧
    ((sceneAfter lines).state = .needAuth ∨
      (sceneAfter lines).state = .connected ∧
        (∃ methods, lastPhase? lines = some (.required methods)) ∨
      ∃ cause, Enters lines cause .authenticating)

/-- The session parks, or goes to give credentials, when it was challenged or has parked before. -/
theorem titled_of_turn {state : SessionState} (turn : Turn lines cause state)
    (goes : state = .needAuth ∨ state = .authenticating) :
    (sceneAfter lines).state = .needAuth ∨ (sceneAfter lines).state = .connected ∧
      ∃ methods, lastPhase? lines = some (.required methods) := by
  obtain ⟨leads, -, other, prompted, -⟩ := turn
  cases found : (sceneAfter lines).state with
  | needAuth => exact .inl rfl
  | connected =>
    rw [found] at prompted
    rcases goes with rfl | rfl
    all_goals
      obtain ⟨methods, heard, -⟩ := prompted
      exact .inr ⟨rfl, methods, heard⟩
  | _ => rw [found] at leads; rcases goes with rfl | rfl <;> cases leads

/-- Only a challenge entitles. -/
theorem entitled_of_concat (rule : Rule lines cause entry)
    (h : Entitled id (lines ++ [⟨cause, sceneAfter lines, entry⟩])) :
    Entitled id lines ∨ Line.challenges id ⟨cause, sceneAfter lines, entry⟩ = true := by
  obtain ⟨held, title⟩ := h
  rw [sceneAfter_concat] at held title
  rw [Scene.state_step] at title
  cases enters : entry.state? with
  | some state =>
    have turn := rule.of_enters enters
    have before : (sceneAfter lines).transport = some id := by
      rcases rule.held_or_dialled held with held | ⟨-, -, none⟩
      · exact held
      · rw [none] at enters
        cases enters
    have quiet : lastPhase? (lines ++ [⟨cause, sceneAfter lines, entry⟩]) = none :=
      lastPhase?_of_enters (enters_concat.mpr ⟨rfl, enters⟩)
    rw [enters, quiet] at title
    simp only [enters_concat, enters, Option.getD_some, Option.some.injEq] at title
    have goes : state = .needAuth ∨ state = .authenticating := by
      rcases title with parks | ⟨-, methods, heard⟩ | ⟨cause, -, gives⟩
      · exact .inl parks
      · cases heard
      · exact .inr gives
    rcases titled_of_turn turn goes with parks | connected
    · exact .inl ⟨before, .inl parks⟩
    · exact .inl ⟨before, .inr (.inl connected)⟩
  | none =>
    rw [enters] at title
    have title' : (sceneAfter lines).state = .needAuth ∨ (sceneAfter lines).state = .connected ∧
        ∃ methods, lastPhase? (lines ++ [⟨cause, sceneAfter lines, entry⟩]) =
          some (.required methods) := by
      rcases title with parks | connected | ⟨_, again⟩
      · exact .inl parks
      · exact .inr connected
      · rw [enters_concat, enters] at again
        cases again.2
    have before : (sceneAfter lines).transport = some id := by
      rcases rule.held_or_dialled held with held | ⟨attempts, -⟩
      · exact held
      · rcases title' with parks | ⟨connected, -⟩
        · rw [parks] at attempts; cases attempts
        · rw [connected] at attempts; cases attempts
    rcases title' with parks | ⟨connected, methods, heard⟩
    · exact .inl ⟨before, .inl parks⟩
    · rcases heard_of_concat heard with hears | ⟨-, heard⟩
      · refine .inr (Line.challenges_of hears ?_)
        rw [← connected, ← before]
      · exact .inl ⟨before, .inr (.inl ⟨connected, methods, heard⟩)⟩

/-- On a connection there are no more disclosures than challenges, and fewer while one is still to
come. -/
structure Balanced (id : ConnectionId) (lines : List Line) : Prop where
  bounded : lines.countP (Line.discloses id) ≤ lines.countP (Line.challenges id)
  spare : Entitled id lines → lines.countP (Line.discloses id) < lines.countP (Line.challenges id)

theorem Balanced.concat (h : Balanced id lines) (rule : Rule lines cause entry) :
    Balanced id (lines ++ [⟨cause, sceneAfter lines, entry⟩]) := by
  have grows : lines.countP (Line.challenges id) ≤
      (lines ++ [Line.mk cause (sceneAfter lines) entry]).countP (Line.challenges id) := by
    rw [List.countP_append]
    exact Nat.le_add_right _ _
  by_cases discloses : Line.discloses id ⟨cause, sceneAfter lines, entry⟩ = true
  · -- The disclosure uses up the title that the session had.
    obtain ⟨held, -, enters, stays, -⟩ := rule.of_discloses discloses
    have spare := h.spare ⟨held, .inr (.inr ⟨cause, enters⟩)⟩
    refine ⟨?_, fun entitled => ?_⟩
    · rw [List.countP_append, List.countP_singleton, if_pos discloses]
      exact Nat.le_trans spare grows
    · exfalso
      obtain ⟨-, title⟩ := entitled
      rw [sceneAfter_concat, Scene.state_step, stays, Option.getD_none,
        scene_of_enters enters] at title
      simp only [enters_concat, stays] at title
      rcases title with parks | ⟨connected, -⟩ | ⟨cause, -, again⟩
      · cases parks
      · cases connected
      · cases again
  · have still : (lines ++ [Line.mk cause (sceneAfter lines) entry]).countP (Line.discloses id) =
        lines.countP (Line.discloses id) := by
      rw [List.countP_append, List.countP_singleton, if_neg discloses, Nat.add_zero]
    refine ⟨still ▸ Nat.le_trans h.bounded grows, fun entitled => ?_⟩
    rw [still]
    rcases entitled_of_concat rule entitled with before | challenges
    · exact Nat.lt_of_lt_of_le (h.spare before) grows
    · rw [List.countP_append, List.countP_singleton, if_pos challenges]
      exact Nat.lt_succ_of_le h.bounded

theorem Lawful.balanced (h : Lawful lines) (id : ConnectionId) : Balanced id lines := by
  induction h with
  | nil =>
    refine ⟨Nat.le_refl _, ?_⟩
    rintro ⟨held, -⟩
    cases held
  | concat _ rule ih => exact ih.concat rule

/-! ## After a disclosure the verdict is awaited -/

/-- There was a disclosure, and the credentials have not been accepted since. -/
def Undecided (id : ConnectionId) (lines : List Line) : Prop :=
  ∃ early first late, lines = early ++ first :: late ∧ first.discloses id = true ∧
    ∀ line ∈ late, line.clears id = false

theorem undecided_of_concat {line : Line} (h : Undecided id (lines ++ [line])) :
    line.discloses id = true ∨ Undecided id lines ∧ line.clears id = false := by
  obtain ⟨early, first, late, split, discloses, open_⟩ := h
  rcases split_of_concat split with ⟨-, rfl, -⟩ | ⟨rest, rfl, earlier⟩
  · exact .inl discloses
  · exact .inr ⟨⟨early, first, rest, earlier, discloses,
      fun other mem => open_ other (List.mem_append_left _ mem)⟩,
      open_ line (List.mem_append_right _ (List.mem_singleton_self _))⟩

/-- A transport that was handed credentials was granted, so it is not dialled again. -/
theorem Lawful.used_of_undecided (h : Lawful lines) (undecided : Undecided id lines) :
    stageOf id (signalsOf lines) ≠ some .unused := by
  obtain ⟨early, first, late, rfl, discloses, -⟩ := undecided
  obtain ⟨packet, handed, -⟩ := Line.discloses_iff.mp discloses
  obtain ⟨-, -, rule⟩ := h.rule_of_split rfl
  obtain ⟨-, ready, -, -⟩ := rule.of_handed handed
  intro unused
  have granted := (counts_of_stageOf ready).1
  have never := (counts_of_stageOf unused).1
  rw [signalsOf_append, grantedIds, List.filterMap_append, List.count_append, ← grantedIds,
    granted] at never
  exact absurd never (by simp [Stage.grants])

/-- The states in which a transport may be held after a disclosure that is not decided. -/
def SessionState.isUndecided : SessionState → Bool
  | .authenticating | .disconnecting | .disconnected | .error => true
  | _ => false

/-- While a transport is held, the verdict on its credentials is awaited, or the session fails or is
torn down. -/
structure Waits (id : ConnectionId) (lines : List Line) : Prop where
  state : (sceneAfter lines).state.isUndecided = true
  /-- The session does not go to give credentials once more. -/
  given : ∀ cause, ¬ Enters lines cause .authenticating
  /-- The acceptance would have been noticed. -/
  unheard : (sceneAfter lines).state = .authenticating → lastPhase? lines ≠ some .success

/-- From the states after a disclosure only the acceptance leads to the connection. -/
theorem SessionState.isUndecided_of_leadsTo {before after : SessionState}
    (leads : before.leadsTo after = true) (undecided : before.isUndecided = true) :
    after.isUndecided = true ∧ after ≠ .authenticating ∨ after.isAttempting = true ∨
      before = .authenticating ∧ after = .connected := by
  revert leads undecided
  cases before <;> cases after <;> decide

theorem waits_of_discloses (rule : Rule lines cause entry)
    (discloses : Line.discloses id ⟨cause, sceneAfter lines, entry⟩ = true) :
    Waits id (lines ++ [⟨cause, sceneAfter lines, entry⟩]) := by
  obtain ⟨-, -, enters, stays, deaf⟩ := rule.of_discloses discloses
  refine ⟨?_, fun _ again => ?_, fun _ heard => ?_⟩
  · rw [sceneAfter_concat, Scene.state_step, stays, Option.getD_none, scene_of_enters enters]
    rfl
  · rw [enters_concat, stays] at again
    cases again.2
  · rcases heard_of_concat heard with hears | ⟨-, earlier⟩
    · rw [deaf] at hears
      cases hears
    · rw [lastPhase?_of_enters enters] at earlier
      cases earlier

theorem Waits.concat (h : Waits id lines) (rule : Rule lines cause entry)
    (before : (sceneAfter lines).transport = some id)
    (unclear : Line.clears id ⟨cause, sceneAfter lines, entry⟩ = false) :
    Waits id (lines ++ [⟨cause, sceneAfter lines, entry⟩]) := by
  cases enters : entry.state? with
  | some state =>
    obtain ⟨leads, free, other, prompted, -⟩ := rule.of_enters enters
    have quiet : lastPhase? (lines ++ [⟨cause, sceneAfter lines, entry⟩]) = none :=
      lastPhase?_of_enters (enters_concat.mpr ⟨rfl, enters⟩)
    rcases SessionState.isUndecided_of_leadsTo leads h.state with
      ⟨undecided, gives⟩ | attempts | ⟨waiting, rfl⟩
    · refine ⟨?_, fun _ again => ?_, fun _ heard => ?_⟩
      · rw [sceneAfter_concat, Scene.state_step, enters]
        exact undecided
      · rw [enters_concat, enters] at again
        exact gives (Option.some.inj again.2)
      · rw [quiet] at heard
        cases heard
    · rw [free attempts] at before
      cases before
    · rw [waiting] at prompted
      exact absurd prompted.1 (h.unheard waiting)
  | none =>
    have same : (sceneAfter (lines ++ [⟨cause, sceneAfter lines, entry⟩])).state =
        (sceneAfter lines).state := by
      rw [sceneAfter_concat, Scene.state_step, enters]
      rfl
    refine ⟨same ▸ h.state, fun _ again => ?_, fun waiting heard => ?_⟩
    · rw [enters_concat, enters] at again
      cases again.2
    · rw [same] at waiting
      rcases heard_of_concat heard with hears | ⟨-, earlier⟩
      · rw [Line.clears_of hears] at unclear
        · cases unclear
        · rw [← waiting, ← before]
      · exact h.unheard waiting earlier

/-- After a disclosure, for as long as the transport is held, the verdict is awaited. By induction
on the lines: a transport that is dialled was not used before. -/
theorem Lawful.waits (h : Lawful lines) (undecided : Undecided id lines)
    (held : (sceneAfter lines).transport = some id) : Waits id lines := by
  induction h with
  | nil => cases held
  | @concat lines cause entry h rule ih =>
    rcases undecided_of_concat undecided with discloses | ⟨earlier, unclear⟩
    · exact waits_of_discloses rule discloses
    · rw [sceneAfter_concat] at held
      rcases rule.held_or_dialled held with before | ⟨-, unused, -⟩
      · exact (ih earlier before).concat rule before unclear
      · exact absurd unused (h.used_of_undecided earlier)

end Laws

/-- The session is discreet about its credentials. -/
structure Discreet (lines : List Line) : Prop where
  staged : ∀ before line after, lines = before ++ line :: after → line.scene = sceneAfter before
  /-- At no point are there more disclosures than challenges on a connection. -/
  bounded : ∀ before, before <+: lines → ∀ id,
    before.countP (Line.discloses id) ≤ before.countP (Line.challenges id)
  /-- Between two disclosures on a connection the credentials are accepted there. -/
  cleared : ∀ early first middle second late id,
    lines = early ++ first :: middle ++ second :: late → first.discloses id = true →
      second.discloses id = true → ∃ line ∈ middle, line.clears id = true
  /-- Credentials go to the transport that is held, open and not closed. -/
  ready : ∀ before line after id, lines = before ++ line :: after → line.discloses id = true →
    line.scene = ⟨.authenticating, some id⟩ ∧ .opened id ∈ signalsOf before ∧
      LeftOpen (signalsOf before) id
  /-- A disclosure directly follows its cause in the same call: a challenge to a connected session,
  or a caller who supplies credentials to a session that has parked. -/
  caused : ∀ before line after id, lines = before ++ line :: after → line.discloses id = true →
    ∃ earlier turn, before = earlier ++ [turn] ∧ turn.cause = line.cause ∧
      turn.entry.state? = some .authenticating ∧
      (turn.scene = ⟨.connected, some id⟩ ∧
          (∃ methods, lastPhase? earlier = some (.required methods) ∧
            line.cause.Tells id (.required methods)) ∨
        turn.scene = ⟨.needAuth, some id⟩ ∧ ∃ credentials, line.cause = .authenticate credentials)
  /-- What is heard arrived on the transport that is held. -/
  heard : ∀ line ∈ lines, ∀ phase, line.entry.phase? = some phase →
    ∀ id, line.scene.transport = some id → line.cause.Tells id phase
  opened : ∀ line ∈ lines, ∀ id, line.entry = .opened id →
    ∃ now, line.cause = .handleEvent id .opened now
  /-- A frame that the session makes is of the kind that its purpose says. -/
  genuine : ∀ line ∈ lines, ∀ id packet, line.entry.handed? = some (id, packet) → packet.Genuine

namespace Lawful

variable {lines : List Line} {id : ConnectionId} {line : Line}

/-- What a disclosure follows. -/
theorem caused (h : Lawful lines) {before after : List Line}
    (split : lines = before ++ line :: after) (discloses : line.discloses id = true) :
    ∃ earlier turn, before = earlier ++ [turn] ∧ turn.cause = line.cause ∧
      turn.entry.state? = some .authenticating ∧
      (turn.scene = ⟨.connected, some id⟩ ∧
          (∃ methods, lastPhase? earlier = some (.required methods) ∧
            line.cause.Tells id (.required methods)) ∨
        turn.scene = ⟨.needAuth, some id⟩ ∧
          ∃ credentials, line.cause = .authenticate credentials) := by
  obtain ⟨lawful, scene, rule⟩ := h.rule_of_split split
  obtain ⟨cause, _, entry⟩ := line
  cases scene
  obtain ⟨held, -, ⟨turn, last, same, enters⟩, -⟩ := rule.of_discloses discloses
  obtain ⟨earlier, rfl⟩ := List.getLast?_eq_some_iff.mp last
  refine ⟨earlier, turn, rfl, same, enters, ?_⟩
  obtain ⟨-, scene, ruleToo⟩ := lawful.rule_of_split rfl
  have before : (sceneAfter earlier).transport = some id := by
    rw [sceneAfter_concat] at held
    rcases ruleToo.held_or_dialled held with before | ⟨-, -, none⟩
    · exact before
    · rw [none] at enters
      cases enters
  obtain ⟨leads, -, own, prompted, holds⟩ := ruleToo.of_enters enters
  cases holds id before
  rw [scene]
  rw [same] at prompted
  cases found : (sceneAfter earlier).state <;> rw [found] at leads prompted <;>
    first
    | exact .inl ⟨by rw [← found, ← before], prompted⟩
    | exact .inr ⟨by rw [← found, ← before], prompted⟩
    | cases leads

/-- Between two disclosures on a connection the credentials are accepted. -/
theorem cleared (h : Lawful lines) {early middle late : List Line} {first second : Line}
    (split : lines = early ++ first :: middle ++ second :: late)
    (discloses : first.discloses id = true) (again : second.discloses id = true) :
    ∃ line ∈ middle, line.clears id = true := by
  by_contra none
  obtain ⟨lawful, scene, rule⟩ := h.rule_of_split split
  have undecided : Undecided id (early ++ first :: middle) :=
    ⟨early, first, middle, rfl, discloses, fun line mem =>
      Bool.eq_false_iff.mpr fun clears => none ⟨line, mem, clears⟩⟩
  obtain ⟨cause, _, entry⟩ := second
  cases scene
  obtain ⟨held, -, enters, -⟩ := rule.of_discloses again
  exact (lawful.waits undecided held).given _ enters

theorem discreet (h : Lawful lines) : Discreet lines where
  staged _ _ _ split := (h.rule_of_split split).2.1
  bounded _ early id := ((h.of_prefix early).balanced id).bounded
  cleared _ _ _ _ _ _ split discloses again := h.cleared split discloses again
  ready before line after id split discloses := by
    obtain ⟨-, scene, rule⟩ := h.rule_of_split split
    obtain ⟨cause, _, entry⟩ := line
    cases scene
    obtain ⟨held, ready, enters, -⟩ := rule.of_discloses discloses
    refine ⟨?_, opened_mem_of_ready ready, (leftOpen_iff ready).mpr rfl⟩
    rw [← scene_of_enters enters, ← held]
    rfl
  caused _ _ _ _ split discloses := h.caused split discloses
  heard _ mem _ hears _ held := h.hears mem hears held
  opened line mem id opens := by
    obtain ⟨before, after, split⟩ := List.append_of_mem mem
    obtain ⟨-, -, rule⟩ := h.rule_of_split split
    rw [opens] at rule
    exact rule.of_opened
  genuine _ mem _ _ handed := h.genuine_of_handed mem handed

end Lawful

/-- In every run, over every world, credentials are disclosed once for each challenge, to the
connection that challenged, and not again before they are accepted. A challenge is a frame of its
own, for no call hears two. -/
theorem run_discreet {σ : Type} [Environment σ] {key : String} {target : Target}
    {config : SessionConfig} {generation serial : Nat} {mark : String} {ms : List (Moment σ)}
    {c : Station σ}
    (h : Run (.create key target config generation serial mark) ms c) :
    (∀ m ∈ ms, (inboundsOf m.acts).length ≤ 1) ∧
      ∃ lines, Transcript ms lines ∧ Discreet lines := by
  obtain ⟨lines, transcript, recounted⟩ := h.transcript
  exact ⟨fun m _ => m.hears_once, lines, transcript, recounted.lawful.discreet⟩

/-- The peer asks for credentials, asks again while it has not answered, accepts them, and asks once
more. A caller who supplies credentials meanwhile changes nothing. They are disclosed twice. -/
theorem run_discreet_challenged_twice :
    ∃ (ms : List (Moment ScriptedNetwork)) (c : Station ScriptedNetwork),
      Run (.create "k" default { credentials := some (.str "secret") } 0 1 "s0000001") ms c ∧
        (Run.statuses ms).map StatusEvent.state =
          [.connecting, .connected, .authenticating, .connected, .authenticating] ∧
        (ms.flatMap fun m => inboundsOf m.acts).length = 4 ∧ c.world.frames.length = 2 ∧
        (∀ m ∈ ms, (inboundsOf m.acts).length ≤ 1) ∧
        ∃ lines, Transcript ms lines ∧ Discreet lines :=
  have begun : Run (.create "k" default { credentials := some (.str "secret") } 0 1 "s0000001") []
      ⟨_, ({} : ScriptedNetwork)⟩ := .begin _
  have hearing {ms : List (Moment ScriptedNetwork)} {c : Station ScriptedNetwork}
      (h : Run (.create "k" default { credentials := some (.str "secret") } 0 1 "s0000001") ms c)
      (phase : AuthPhase) :=
    h.call (.handleEvent ⟨"k", 1⟩
      (.frame (((Message.authenticate ⟨none, phase⟩).encode none).toOption.getD [])) ⟨0⟩)
  have opened := (begun.call (.connect ⟨0⟩)).call (.handleEvent ⟨"k", 1⟩ .opened ⟨0⟩)
  have answered := hearing opened (.required [])
  have pressed := (hearing answered (.required [])).call (.authenticate (.str "other"))
  have run := hearing (hearing pressed .success) (.required [])
  ⟨_, _, run, by decide +kernel, by decide +kernel, by decide +kernel, run_discreet run⟩

end Switchboard
