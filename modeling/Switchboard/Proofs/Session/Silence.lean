import Switchboard.Proofs.Session.Probes
import Switchboard.Proofs.Session.Vigil
import Switchboard.Scripted.Network
/-!
# How soon a silent peer is noticed

`run_vigilant` says what the ticks of a connection come to, for every interval between them. No
more than one PING is unanswered at a time, and a connection is given up only for one that stayed so
for a whole interval. If no tick is taken late, a silent peer is noticed between one and two
intervals after its last sign of life, and never while it answers in time.

The bound rests on what a connection waits for once its peer was heard of at `p`
(`Session.Awaits`): a tick within one interval of `p`, which sends a PING, and then a tick within
two, which finds no answer to it.
-/

namespace Switchboard

open Session (InPhase Attempting Stays Leaves)

section Silence

variable {σ : Type} [Environment σ]

/-! ### The clock -/

/-- The instant that was handed in. -/
def Moment.now? (m : Moment σ) : Option Instant := (Leg.whole m.call).now?

namespace Run

/-- The instants handed in never decrease. -/
def Ordered (ms : List (Moment σ)) : Prop :=
  ms.Pairwise fun m n => ∀ t ∈ m.now?, ∀ u ∈ n.now?, t ≤ u

/-- No call comes after a tick that has not been taken. So time goes on beyond a tick only with a
poll at its very instant, or if the connection is left before. -/
def Punctual (ms : List (Moment σ)) : Prop :=
  ∀ m ∈ ms, ∀ now ∈ m.now?, ∀ tick ∈ m.before.session.timers.heartbeat.deadline, now ≤ tick

instance (ms : List (Moment σ)) : Decidable (Ordered ms) :=
  inferInstanceAs (Decidable (ms.Pairwise _))

instance (ms : List (Moment σ)) : Decidable (Punctual ms) :=
  inferInstanceAs (Decidable (∀ m ∈ ms, _))

end Run

namespace Stride

/-- One leg does not come after another. -/
def NotAfter (s t : Stride σ) : Prop := ∀ i ∈ s.leg.now?, ∀ j ∈ t.leg.now?, i ≤ j

/-- The leg does not come after a tick that has not been taken. -/
def Punctual (s : Stride σ) : Prop :=
  ∀ now ∈ s.leg.now?, ∀ tick ∈ s.before.session.timers.heartbeat.deadline, now ≤ tick

theorem leg_of_mem_along {c : Station σ} {legs : List Leg} {s : Stride σ}
    (mem : s ∈ along c legs) : s.leg ∈ legs := by
  induction legs generalizing c with
  | nil => cases mem
  | cons leg legs ih =>
    rcases List.mem_cons.mp mem with rfl | mem
    · exact List.mem_cons_self
    · exact List.mem_cons_of_mem _ (ih mem)

/-- A timer that fires in time leaves no earlier tick behind. -/
theorem punctual_after {c : Station σ} (phase : InPhase c.session) {kind : TimerKind}
    {now : Instant} (punctual : Punctual ⟨c, .timer kind now⟩) (other : TimerKind) :
    Punctual ⟨c.fire now kind, .timer other now⟩ := by
  have here : ∀ tick, c.session.timers.heartbeat.deadline = some tick → now ≤ tick :=
    punctual now rfl
  have ended (dead : (c.fire now kind).session.state.isLive = false) (tick : Instant) :
      (c.fire now kind).session.timers.heartbeat.deadline ≠ some tick := by
    intro armed
    have live := (Coherent.of_inPhase (Station.inPhase_fire phase kind now)).heartbeat_iff.mp
    cases slot : (c.fire now kind).session.timers.heartbeat with
    | none =>
      rw [slot] at armed
      cases armed
    | some task =>
      rw [slot, dead] at live
      cases live rfl
  rintro _ ⟨⟩ tick armed
  cases Stride.course (s := ⟨c, .timer kind now⟩) trivial phase with
  | steady _ h =>
    have same : (c.fire now kind).session.timers.heartbeat = c.session.timers.heartbeat :=
      congrArg Prod.snd h.watch
    rw [show (c.fire now kind).session.timers.heartbeat = _ from same] at armed
    exact here tick armed
  | answered _ pongs => exact absurd pongs (not_pongs rfl _ _)
  | @pings probe pings _ watch =>
    have ticks : now = probe.sentAt := by
      have same := pings.ticks
      injection same
    have slot : (c.fire now kind).session.timers.heartbeat = some ⟨.heartbeat,
        probe.sentAt + c.session.heartbeat.interval, c.session.generation⟩ :=
      congrArg Prod.snd watch
    rw [show (c.fire now kind).session.timers.heartbeat = _ from slot] at armed
    cases armed
    rw [ticks]
    exact Nat.le_add_right _ _
  | silent _ _ _ _ _ h => exact absurd armed (ended h.dead tick)
  | leaves _ _ _ h => exact absurd armed (ended h.dead tick)
  | away _ _ h => exact absurd armed (ended h.dead tick)
  | opens _ ticks => cases ticks

theorem punctual_along (kinds : List TimerKind) {c : Station σ} (phase : InPhase c.session)
    {now : Instant} (punctual : ∀ kind, Punctual ⟨c, .timer kind now⟩) :
    ∀ s ∈ along c (kinds.map (.timer · now)), s.Punctual := by
  induction kinds generalizing c with
  | nil => exact List.forall_mem_nil _
  | cons kind kinds ih =>
    refine List.forall_mem_cons.mpr ⟨punctual kind, ?_⟩
    exact ih (Station.inPhase_fire phase kind now) (punctual_after phase (punctual kind))

end Stride

namespace Moment

/-- The legs of a call are at the instant of the call. -/
theorem now?_of_mem {m : Moment σ} {s : Stride σ} (mem : s ∈ m.strides) :
    s.leg.now? = m.now? := by
  have leg := Stride.leg_of_mem_along mem
  unfold now?
  cases call : m.call with
  | pollTimers now =>
    rw [call] at leg
    simp only [Call.legs, List.mem_cons, List.not_mem_nil, or_false] at leg
    rcases leg with leg | leg | leg <;> rw [leg] <;> rfl
  | _ =>
    rw [call] at leg
    rw [List.mem_singleton.mp leg]

theorem punctual_strides {m : Moment σ} (phase : InPhase m.before.session)
    (punctual : ∀ now ∈ m.now?, ∀ tick ∈ m.before.session.timers.heartbeat.deadline,
      now ≤ tick) :
    ∀ s ∈ m.strides, s.Punctual := by
  obtain ⟨c, call⟩ := m
  cases call with
  | pollTimers now =>
    exact Stride.punctual_along [.connectTimeout, .heartbeat, .retry] phase
      fun kind => punctual
  | _ => exact List.forall_mem_singleton.mpr punctual

end Moment

namespace Run

variable {key : String} {target : Target} {config : SessionConfig} {generation serial : Nat}
  {mark : String}
  {ms : List (Moment σ)} {c : Station σ}

theorem Ordered.strides (h : Ordered ms) : (strides ms).Pairwise Stride.NotAfter := by
  apply List.pairwise_flatMap.mpr
  constructor
  · intro m mem
    apply List.pairwise_of_forall_mem_list
    intro s here t there i at_ j at_'
    rw [Moment.now?_of_mem here] at at_
    rw [Moment.now?_of_mem there, at_] at at_'
    cases at_'
    exact Nat.le_refl _
  · refine h.imp ?_
    intro m n order s here t there i at_ j at_'
    rw [Moment.now?_of_mem here] at at_
    rw [Moment.now?_of_mem there] at at_'
    exact order i at_ j at_'

theorem Punctual.strides (h : Run (.create key target config generation serial mark) ms c)
    (punctual : Punctual ms) : ∀ s ∈ strides ms, s.Punctual := by
  intro s mem
  obtain ⟨m, here, mem⟩ := List.mem_flatMap.mp mem
  obtain ⟨earlier, before⟩ := h.until_mem here
  exact Moment.punctual_strides before.inPhase (punctual m here) s mem

end Run

/-! ### Waiting for a sign of life -/

theorem TimerSlot.le_of_isDue {slot : TimerSlot} {tick now : Instant}
    (armed : slot.deadline = some tick) (due : slot.isDue now = true) : tick ≤ now := by
  cases slot with
  | none => cases armed
  | some task =>
    cases armed
    exact of_decide_eq_true due

/-- The peer was last heard of at `p`. Either the next tick comes within an interval of `p` and
sends a PING, or the PING was sent and the tick after it comes between one interval and two. -/
def Session.Awaits (interval : Duration) (p : Instant) (s : Session) : Prop :=
  ∃ tick, s.timers.heartbeat.deadline = some tick ∧
    (s.heartbeat.probe = none ∧ p ≤ tick ∧ tick ≤ p + interval ∨
      s.heartbeat.probe.isSome = true ∧ p + interval ≤ tick ∧ tick ≤ p + interval + interval)

open Session (Awaits)

theorem Session.Awaits.tick_le {interval : Duration} {p tick : Instant} {s : Session}
    (h : Awaits interval p s) (armed : s.timers.heartbeat.deadline = some tick) :
    tick ≤ p + interval + interval := by
  obtain ⟨other, same, ⟨-, -, le⟩ | ⟨-, -, le⟩⟩ := h
  · rw [armed] at same
    cases same
    exact Nat.le_trans le (Nat.le_add_right _ _)
  · rw [armed] at same
    cases same
    exact le

namespace Stride

/-- The peer of the connection shows at the instant that it is there: the connection opens, or the
PING under way is answered. -/
def Assures (s : Stride σ) (now : Instant) : Prop :=
  s.before.session.state.isLive = false ∧ s.after.session.state.isLive = true ∧
      s.leg.now? = some now ∨
    ∃ probe, s.before.session.heartbeat.probe = some probe ∧ s.Pongs probe.requestId now

variable {s : Stride σ} {interval : Duration} {p : Instant} {early : List (Stride σ)}

omit [Environment σ] in
theorem now?_of_pongs {id : String} {now : Instant} (pongs : s.Pongs id now) :
    s.leg.now? = some now := by
  obtain ⟨-, bytes, frame, brought, -⟩ := pongs
  rw [brought]
  rfl

/-- From a sign of life on, the connection waits for the next. -/
theorem awaits_of_assures (single : s.leg.IsSingle) (phase : InPhase s.before.session)
    (same : s.before.session.heartbeat.interval = interval) (punctual : s.Punctual)
    (watches : Watches interval early s.before.session) (order : ∀ r ∈ early, NotAfter r s)
    (assures : s.Assures p) :
    Stays s.before.session s.after.session ∧ Awaits interval p s.after.session := by
  rcases assures with ⟨found, opened, at_⟩ | ⟨probe, under, pongs⟩
  · have dead {P : Prop} (live : s.before.session.state.isLive = true) : P := by
      rw [live] at found
      cases found
    cases course single phase with
    | steady live => exact dead live
    | answered _ pongs => exact dead pongs.live
    | pings pings => exact dead pings.live
    | silent _ _ live => exact dead live
    | leaves live => exact dead live
    | away _ _ h =>
      rw [h.dead] at opened
      cases opened
    | opens _ ticks h watch =>
      rw [ticks] at at_
      cases at_
      have heartbeat : s.after.session.heartbeat =
          { s.before.session.heartbeat with probe := none, running := true } :=
        congrArg Prod.fst watch
      have slot : s.after.session.timers.heartbeat = some ⟨.heartbeat, p + interval,
          s.before.session.generation⟩ := by
        rw [← same]
        exact congrArg Prod.snd watch
      refine ⟨h, p + interval, by rw [slot]; rfl, .inl ⟨by rw [heartbeat], ?_, Nat.le_refl _⟩⟩
      exact Nat.le_add_right _ _
  · rcases answers_or_keeps single phase pongs with
      ⟨-, -, -, stays, watch⟩ | ⟨other, -⟩
    · have heartbeat : s.after.session.heartbeat =
          { s.before.session.heartbeat with probe := none } := congrArg Prod.fst watch
      have slot : s.after.session.timers.heartbeat = s.before.session.timers.heartbeat :=
        congrArg Prod.snd watch
      obtain ⟨waits, due⟩ := watches pongs.live probe
      have armed := due under
      -- The PING was sent before its answer, and the answer comes before the next tick.
      have sent : probe.sentAt ≤ p := by
        obtain ⟨first, r, rest, rfl, -, pings, -⟩ := waits.mpr under
        refine order r (by simp) _ ?_ _ (now?_of_pongs pongs)
        rw [pings.ticks]
        rfl
      refine ⟨stays, _, by rw [slot]; exact armed, .inl ⟨by rw [heartbeat], ?_, ?_⟩⟩
      · exact punctual p (now?_of_pongs pongs) _ armed
      · exact Nat.add_le_add_right sent _
    · exact absurd rfl (other probe under)

/-- A connection that waits for a sign of life goes on waiting for it, or it is left. -/
theorem awaits (single : s.leg.IsSingle) (phase : InPhase s.before.session)
    (same : s.before.session.heartbeat.interval = interval) (punctual : s.Punctual)
    (live : s.before.session.state.isLive = true) (h : Awaits interval p s.before.session)
    (quiet : ∀ now, ¬ s.Assures now) :
    Stays s.before.session s.after.session ∧ Awaits interval p s.after.session ∨
      ∃ fault, Leaves fault s.before.session s.after.session := by
  cases course single phase with
  | steady _ steady =>
    have heartbeat : s.after.session.heartbeat = s.before.session.heartbeat :=
      congrArg Prod.fst steady.watch
    have slot : s.after.session.timers.heartbeat = s.before.session.timers.heartbeat :=
      congrArg Prod.snd steady.watch
    refine .inl ⟨steady.toStays, ?_⟩
    unfold Awaits
    rw [heartbeat, slot]
    exact h
  | answered under pongs => exact absurd (.inr ⟨_, under, pongs⟩) (quiet _)
  | @pings probe pings stays watch =>
    have slot : s.after.session.timers.heartbeat = some ⟨.heartbeat, probe.sentAt + interval,
        s.before.session.generation⟩ := by
      rw [← same]
      exact congrArg Prod.snd watch
    obtain ⟨tick, armed, ⟨-, early, late⟩ | ⟨asked, -⟩⟩ := h
    · -- The tick is taken at its very instant.
      have due := TimerSlot.le_of_isDue armed pings.due
      have now : probe.sentAt ≤ tick := by
        refine punctual _ ?_ tick armed
        rw [pings.ticks]
        rfl
      have issued : s.after.session.heartbeat.probe.isSome = true := by rw [pings.issued]; rfl
      refine .inl ⟨stays, _, by rw [slot]; rfl, .inr ⟨issued, ?_, ?_⟩⟩
      · exact Nat.add_le_add_right (Nat.le_trans early due) _
      · exact Nat.add_le_add_right (Nat.le_trans now late) _
    · rw [pings.idle] at asked
      cases asked
  | silent _ _ _ _ _ leaves => exact .inr ⟨_, leaves⟩
  | leaves _ _ _ leaves => exact .inr ⟨_, leaves⟩
  | away dead =>
    rw [live] at dead
    cases dead
  | opens found =>
    rw [found.isLive_eq] at live
    cases live

end Stride

namespace March

variable {key : String} {target : Target} {config : SessionConfig} {generation serial : Nat}
  {mark : String}
  {strides early late : List (Stride σ)} {s : Stride σ} {c : Station σ} {p : Instant}

/-- After the last sign of life of its peer a connection waits for another, until it is left. -/
theorem awaits (h : March (.create key target config generation serial mark) strides c)
    (ordered : strides.Pairwise Stride.NotAfter) (punctual : ∀ s ∈ strides, s.Punctual)
    (split : strides = early ++ s :: late) (assures : s.Assures p)
    (last : ∀ t ∈ late, t.connection = s.connection → ∀ now, ¬ t.Assures now) :
    (s.connection.generation < c.session.generation ∧
        ∃ t ∈ late, t.connection = s.connection ∧ t.Ends) ∨
      c.session.state.isLive = true ∧ c.session.connectionId = s.connection ∧
        Awaits config.heartbeatInterval p c.session := by
  induction h generalizing late with
  | begin world => simp at split
  | @go strides c h leg single ih =>
    obtain ⟨before, -, order⟩ := List.pairwise_append.mp ordered
    have here : Stride.Punctual ⟨c, leg⟩ := punctual _ (by simp)
    rcases split_of_concat split with ⟨rfl, rfl, rfl⟩ | ⟨rest, rfl, cut⟩
    · obtain ⟨stays, awaits⟩ := Stride.awaits_of_assures single h.inPhase h.interval here
        h.watches (fun r mem => order r mem _ (List.mem_singleton_self _)) assures
      exact .inr ⟨stays.live, stays.connectionId, awaits⟩
    · have inner := ih before (fun s mem => punctual s (List.mem_append_left _ mem)) cut
        fun t mem => last t (List.mem_append_left _ mem)
      rcases inner with ⟨past, t, mem, ended⟩ | ⟨live, own, awaits⟩
      · left
        exact ⟨Nat.lt_of_lt_of_le past (Stride.generation_le ⟨c, leg⟩), t,
          List.mem_append_left _ mem, ended⟩
      · have quiet := last ⟨c, leg⟩ (List.mem_append_right _ (List.mem_singleton_self _)) own
        rcases Stride.awaits (s := ⟨c, leg⟩) single h.inPhase h.interval here live awaits quiet with
          ⟨stays, awaits⟩ | ⟨fault, leaves⟩
        · exact .inr ⟨stays.live, stays.connectionId.trans own, awaits⟩
        · refine .inl ⟨?_, ⟨c, leg⟩, List.mem_append_right _ (List.mem_singleton_self _), own, live,
            leaves.dead⟩
          rw [← own]
          exact leaves.later
  | drain _ ih => exact ih ordered punctual split last
  | world _ _ ih => exact ih ordered punctual split last

/-- A connection is given up once at most. -/
theorem timesOut_once (h : March (.create key target config generation serial mark) strides c) :
    ((strides.filter Stride.timesOut).map Stride.connection).Nodup := by
  induction h with
  | begin world => exact List.nodup_nil
  | @go strides c h leg single ih =>
    rw [List.filter_append, List.map_append]
    refine List.nodup_append.mpr ⟨ih, ?_, ?_⟩
    · cases out : Stride.timesOut (⟨c, leg⟩ : Stride σ) <;> simp [out]
    · intro id given _ again same
      obtain ⟨s, earlier, rfl⟩ := List.mem_map.mp given
      obtain ⟨t, here, rfl⟩ := List.mem_map.mp again
      obtain ⟨mem, out⟩ := List.mem_filter.mp earlier
      obtain ⟨last, outToo⟩ := List.mem_filter.mp here
      rw [List.mem_singleton.mp last] at same outToo
      obtain ⟨early, late, split⟩ := List.append_of_mem mem
      obtain ⟨before, goes⟩ := h.before split
      have ended := Stride.ends_of_timesOut goes before.inPhase out
      rcases h.passed mem ended.1 with past | ⟨-, -, still⟩
      · rw [same] at past
        exact Nat.lt_irrefl _ past
      · exact still ended
  | drain _ ih => exact ih
  | world _ _ ih => exact ih

/-- A connection is given up for a PING that is unanswered for an interval. -/
theorem unanswered_of_timesOut
    (h : March (.create key target config generation serial mark) strides c)
    (split : strides = early ++ s :: late) (out : s.timesOut = true) :
    ∃ probe now, s.leg = .timer .heartbeat now ∧ Unanswered early s.connection probe ∧
      s.before.session.heartbeat.probe = some probe ∧
      s.before.session.timers.heartbeat.deadline =
        some (probe.sentAt + config.heartbeatInterval) ∧
      probe.sentAt + config.heartbeatInterval ≤ now := by
  obtain ⟨before, single⟩ := h.before split
  obtain ⟨live, probe, now, ticks, due, under, -⟩ := Stride.of_timesOut single before.inPhase out
  obtain ⟨waits, armed⟩ := before.watches live probe
  exact ⟨probe, now, ticks, waits.mpr under, under, armed under,
    TimerSlot.le_of_isDue (armed under) due⟩

end March

/-- Each PING over the connection is answered within the interval, as far as the strides get. -/
def Prompt (interval : Duration) (strides : List (Stride σ)) (id : ConnectionId) : Prop :=
  ∀ early s late, strides = early ++ s :: late → s.connection = id → ∀ p, s.Pings p →
    (∃ now, AnsweredAt late id p.requestId now ∧ now < p.sentAt + interval) ∨
      ∀ t ∈ late, ∀ now ∈ t.leg.now?, now < p.sentAt + interval

/-- A connection whose PINGs are answered in time is not given up. -/
theorem March.kept_of_prompt {key : String} {target : Target} {config : SessionConfig}
    {generation serial : Nat} {mark : String} {strides : List (Stride σ)} {c : Station σ}
    (h : March (.create key target config generation serial mark) strides c)
    (ordered : strides.Pairwise Stride.NotAfter) {s : Stride σ} (mem : s ∈ strides)
    (prompt : Prompt config.heartbeatInterval strides s.connection) : s.timesOut = false := by
  apply Bool.eq_false_iff.mpr
  intro out
  obtain ⟨early, late, split⟩ := List.append_of_mem mem
  obtain ⟨p, now, ticks, ⟨first, asker, mid, cut, same, pings, silent⟩, -, -, due⟩ :=
    h.unanswered_of_timesOut split out
  have at_ : s.leg.now? = some now := by rw [ticks]; rfl
  have whole : strides = first ++ asker :: (mid ++ s :: late) := by
    rw [split, cut, List.append_assoc]
    rfl
  rcases prompt _ _ _ whole same p pings with ⟨soon, ⟨t, there, own, pongs⟩, in_⟩ | in_
  · rcases List.mem_append.mp there with there | there
    · exact silent ⟨soon, t, there, own, pongs⟩
    · rcases List.mem_cons.mp there with rfl | there
      · exact Stride.not_pongs (by rw [ticks]; rfl) _ _ pongs
      · -- The answer would come after the tick, though it is at an earlier instant.
        rw [split] at ordered
        have later := List.rel_of_pairwise_cons (List.pairwise_append.mp ordered).2.1 there
        have le : now ≤ soon := later now at_ soon (Stride.now?_of_pongs pongs)
        exact absurd (Nat.le_trans due le) (Nat.not_le_of_lt in_)
  · exact absurd due (Nat.not_le_of_lt (in_ s (by simp) now at_))

/-- The peer of a connection was last heard of at `p`; what came since is `late`. -/
def LastHeard (strides : List (Stride σ)) (id : ConnectionId) (p : Instant)
    (late : List (Stride σ)) : Prop :=
  ∃ early s, strides = early ++ s :: late ∧ s.connection = id ∧ s.Assures p ∧
    ∀ t ∈ late, t.connection = id → ∀ now, ¬ t.Assures now

/-- What a leg finds after the last sign of life of a peer: the connection was left before, or it
waits for another. -/
theorem Run.awaits {key : String} {target : Target} {config : SessionConfig}
    {generation serial : Nat} {mark : String} {ms : List (Moment σ)} {c : Station σ}
    (h : Run (.create key target config generation serial mark) ms c) (ordered : Ordered ms)
    (punctual : Punctual ms) {id : ConnectionId} {p : Instant} {mid rest : List (Stride σ)}
    {s : Stride σ} (heard : LastHeard (strides ms) id p (mid ++ s :: rest)) :
    (∃ early, strides ms = early ++ s :: rest) ∧
      ((id.generation < s.before.session.generation ∧ ∃ t ∈ mid, t.connection = id ∧ t.Ends) ∨
        Awaits config.heartbeatInterval p s.before.session) := by
  obtain ⟨early, first, split, rfl, assures, last⟩ := heard
  have cut : strides ms = (early ++ first :: mid) ++ s :: rest := by
    rw [split, List.append_assoc]
    rfl
  obtain ⟨before, -⟩ := h.march.before cut
  have order := ordered.strides
  have intime := Punctual.strides h punctual
  rw [cut] at order intime
  refine ⟨⟨_, cut⟩, ?_⟩
  refine (before.awaits (List.pairwise_append.mp order).1
    (fun t there => intime t (List.mem_append_left _ there)) rfl assures
    fun t there => last t (List.mem_append_left _ there)).imp_right ?_
  rintro ⟨-, -, awaits⟩
  exact awaits

/-- How the peers of the connections of a run are watched. -/
structure Vigilant (interval : Duration) (ms : List (Moment σ)) (c : Station σ) : Prop where
  /-- Of two PINGs over one connection the first is answered before the second is sent. -/
  single : ∀ early s mid t late, Run.strides ms = early ++ s :: (mid ++ t :: late) →
    s.connection = t.connection → ∀ p q, s.Pings p → t.Pings q →
      Answered mid s.connection p.requestId
  /-- The frame of a PING is handed over only by a tick that sends one. -/
  frames : ∀ s ∈ Run.strides ms, ∀ id bytes, .delivered id ⟨.ping, bytes⟩ ∈ s.acts →
    ∃ p, s.Pings p
  /-- The PING that is unanswered is the one that the session has under way, and the next tick is
  due an interval after it was sent. -/
  waiting : c.session.state.isLive = true → ∀ p,
    Unanswered (Run.strides ms) c.session.connectionId p →
      c.session.heartbeat.probe = some p ∧
        c.session.timers.heartbeat.deadline = some (p.sentAt + interval)
  /-- A silent peer is reported where an open connection is given up, there once, and elsewhere only
  if the world refuses a dial in these words. -/
  raised : ∀ s ∈ Run.strides ms, s.acts.any Act.isSilence = true →
    s.timesOut = true ∧ s.acts.countP Act.isSilence = 1 ∨ s.acts.any Act.refuses = true
  /-- A connection is given up at a poll at least an interval after a PING that is unanswered. -/
  timeouts : ∀ early s late, Run.strides ms = early ++ s :: late → s.timesOut = true →
    ∃ p now, s.leg = .timer .heartbeat now ∧ Unanswered early s.connection p ∧
      p.sentAt + interval ≤ now
  /-- A PONG that answers no such PING changes nothing about the watch. -/
  others : ∀ early s late, Run.strides ms = early ++ s :: late → ∀ id now, s.Pongs id now →
    (∀ p, Unanswered early s.connection p → p.requestId ≠ id) →
      s.after.session.watch = s.before.session.watch
  /-- No connection is given up twice. -/
  once : (((Run.strides ms).filter Stride.timesOut).map Stride.connection).Nodup
  /-- A connection is not given up if each of its PINGs is answered within the interval, as far as
  the run gets. -/
  kept : Run.Ordered ms → ∀ id, Prompt interval (Run.strides ms) id →
    ∀ s ∈ Run.strides ms, s.connection = id → s.timesOut = false
  /-- A connection whose peer was last heard of at `p` is given up between one interval after `p`
  and two, if at all; -/
  within : Run.Ordered ms → Run.Punctual ms → ∀ id p late, LastHeard (Run.strides ms) id p late →
    ∀ s ∈ late, s.connection = id → s.timesOut = true →
      ∃ now, s.leg.now? = some now ∧ p + interval ≤ now ∧ now ≤ p + interval + interval
  /-- and if it does not end for another reason, it is given up before the run gets any further. -/
  detected : Run.Ordered ms → Run.Punctual ms → ∀ id p late, LastHeard (Run.strides ms) id p late →
    (∃ s ∈ late, ∃ now ∈ s.leg.now?, p + interval + interval < now) →
      (∀ s ∈ late, s.connection = id → s.Ends → s.timesOut = true) →
        ∃ s ∈ late, s.connection = id ∧ s.timesOut = true

/-- In every run, over every world, the peer of an open connection is watched. -/
theorem run_vigilant {key : String} {target : Target} {config : SessionConfig}
    {generation serial : Nat} {mark : String} {ms : List (Moment σ)} {c : Station σ}
    (h : Run (.create key target config generation serial mark) ms c) :
    Vigilant config.heartbeatInterval ms c where
  single early s mid t late split same p q pings pingsToo := by
    have cut : Run.strides ms = (early ++ s :: mid) ++ t :: late := by
      rw [split, List.append_assoc]
      rfl
    obtain ⟨before, -⟩ := h.march.before cut
    apply Classical.byContradiction
    intro silent
    have unanswered : Unanswered (early ++ s :: mid) t.connection p :=
      ⟨early, s, mid, rfl, same, pings, same ▸ silent⟩
    have under := (before.watches pingsToo.live p).1.mp unanswered
    rw [pingsToo.idle] at under
    cases under
  frames s mem id bytes told := by
    obtain ⟨early, late, split⟩ := List.append_of_mem mem
    obtain ⟨before, single⟩ := h.march.before split
    exact Stride.pings_of_probe single before.inPhase before.submitted told rfl
  waiting live p unanswered := by
    obtain ⟨waits, due⟩ := h.march.watches live p
    have under := waits.mp unanswered
    exact ⟨under, due under⟩
  raised s mem silence := by
    obtain ⟨early, late, split⟩ := List.append_of_mem mem
    obtain ⟨before, single⟩ := h.march.before split
    refine (Stride.raised single before.inPhase silence).imp_left ?_
    intro out
    obtain ⟨-, -, -, -, -, -, told, -⟩ := Stride.of_timesOut single before.inPhase out
    exact ⟨out, told⟩
  timeouts early s late split out := by
    obtain ⟨p, now, ticks, unanswered, -, -, due⟩ := h.march.unanswered_of_timesOut split out
    exact ⟨p, now, ticks, unanswered, due⟩
  others early s late split id now pongs other := by
    obtain ⟨before, single⟩ := h.march.before split
    rcases Stride.answers_or_keeps single before.inPhase pongs with
      ⟨probe, under, named, -⟩ | ⟨-, same⟩
    · exact absurd named (other probe ((before.watches pongs.live probe).1.mpr under))
    · exact same
  once := h.march.timesOut_once
  kept ordered id prompt s mem own := by
    rw [← own] at prompt
    exact h.march.kept_of_prompt ordered.strides mem prompt
  within ordered punctual id p late heard s mem own out := by
    obtain ⟨mid, rest, rfl⟩ := List.append_of_mem mem
    obtain ⟨⟨early, cut⟩, ⟨past, -⟩ | awaits⟩ := h.awaits ordered punctual heard
    · rw [← own] at past
      exact absurd past (Nat.lt_irrefl _)
    · obtain ⟨probe, now, ticks, -, under, armed, due⟩ := h.march.unanswered_of_timesOut cut out
      have at_ : s.leg.now? = some now := by rw [ticks]; rfl
      have intime := Run.Punctual.strides h punctual
      have here : now ≤ probe.sentAt + config.heartbeatInterval :=
        intime s (by rw [cut]; simp) now at_ _ armed
      refine ⟨now, at_, ?_, Nat.le_trans here (awaits.tick_le armed)⟩
      obtain ⟨tick, same, ⟨idle, -⟩ | ⟨-, le, -⟩⟩ := awaits
      · rw [idle] at under
        cases under
      · rw [armed] at same
        cases same
        exact Nat.le_trans le due
  detected ordered punctual id p late heard further alone := by
    obtain ⟨s, mem, now, at_, beyond⟩ := further
    obtain ⟨mid, rest, rfl⟩ := List.append_of_mem mem
    obtain ⟨⟨early, cut⟩, ⟨-, t, there, own, ended⟩ | awaits⟩ := h.awaits ordered punctual heard
    · have among := List.mem_append_left (s :: rest) there
      exact ⟨t, among, own, alone t among own ended⟩
    · obtain ⟨tick, armed⟩ : ∃ tick, s.before.session.timers.heartbeat.deadline = some tick :=
        awaits.imp fun _ => And.left
      have intime := Run.Punctual.strides h punctual
      have here : now ≤ tick := intime s (by rw [cut]; simp) now at_ tick armed
      exact absurd (Nat.le_trans here (awaits.tick_le armed)) (Nat.not_le_of_lt beyond)

end Silence

/-- The first PING is answered, and the second is not: the peer was last heard of at 12, and it is
found silent at 30. -/
theorem run_vigilant_silent :
    ∃ (ms : List (Moment ScriptedNetwork)) (c : Station ScriptedNetwork),
      Run (.create "k" default { heartbeatInterval := .clamp 10 } 0 1 "s0000001") ms c ∧
        Run.Ordered ms ∧ Run.Punctual ms ∧
        (Run.strides ms).map Stride.timesOut =
          [false, false, false, false, false, false, false, false, false, false, true, false] ∧
        Vigilant (.clamp 10) ms c :=
  have begun : Run (.create "k" default { heartbeatInterval := .clamp 10 } 0 1 "s0000001") []
      ⟨_, ({} : ScriptedNetwork)⟩ := .begin _
  have opened := (begun.call (.connect ⟨0⟩)).call (.handleEvent ⟨"k", 1⟩ .opened ⟨0⟩)
  have answered := (opened.call (.pollTimers ⟨10⟩)).call (.handleEvent ⟨"k", 1⟩
    (.frame (((Message.pong ⟨none, "s0000001-1", none, none⟩).encode none).toOption.getD [])) ⟨12⟩)
  have run := (answered.call (.pollTimers ⟨20⟩)).call (.pollTimers ⟨30⟩)
  ⟨_, _, run, by decide +kernel, by decide +kernel, by decide +kernel, run_vigilant run⟩

end Switchboard
