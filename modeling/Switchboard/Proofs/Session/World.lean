import Switchboard.Proofs.Session.Moves
/-!
# What the world is asked for

A session dials, hands frames over and hangs up, and its journal tells of it. The journal is to be
believed: the world after a call is the world before it, asked for what the journal says in that
order, with the answers that the journal gives (`Moment.asked`). Only a delivery that is refused
leaves no act behind.
-/

namespace Switchboard

section Asked

variable {σ : Type} [Environment σ]

/-- A world that was asked for what acts say. -/
inductive Asked (world : σ) : List Act → σ → Prop where
  | nothing : Asked world [] world
  /-- An act between the session and its owner. -/
  | aside {acts : List Act} {later : σ} (h : Asked world acts later) {act : Act}
      (silent : act.asks = false) : Asked world (acts ++ [act]) later
  | granted {acts : List Act} {later last : σ} (h : Asked world acts later) {id : ConnectionId}
      {target : Target} (answer : Environment.dial later target id = (.ok (), last)) :
      Asked world (acts ++ [.dialled id target true]) last
  | refused {acts : List Act} {later last : σ} (h : Asked world acts later) {id : ConnectionId}
      {target : Target} {e : Error} (answer : Environment.dial later target id = (.error e, last)) :
      Asked world (acts ++ [.dialled id target false]) last
  | hungUp {acts : List Act} {later : σ} (h : Asked world acts later) (id : ConnectionId) :
      Asked world (acts ++ [.hungUp id]) (Environment.hangUp later id)
  | delivered {acts : List Act} {later last : σ} (h : Asked world acts later) {id : ConnectionId}
      {packet : Packet} (answer : Environment.deliver later id packet.bytes = (.ok (), last)) :
      Asked world (acts ++ [.delivered id packet]) last
  /-- A delivery that was refused. -/
  | lost {acts : List Act} {later last : σ} (h : Asked world acts later) {id : ConnectionId}
      {bytes : Bytes} {e : Error} (answer : Environment.deliver later id bytes = (.error e, last)) :
      Asked world acts last

namespace Asked

variable {u v w : σ} {acts more : List Act}

theorem trans (h : Asked u acts v) (k : Asked v more w) : Asked u (acts ++ more) w := by
  induction k with
  | nothing => rwa [List.append_nil]
  | aside _ silent ih => rw [← List.append_assoc]; exact ih.aside silent
  | granted _ answer ih => rw [← List.append_assoc]; exact ih.granted answer
  | refused _ answer ih => rw [← List.append_assoc]; exact ih.refused answer
  | hungUp _ id ih => rw [← List.append_assoc]; exact ih.hungUp id
  | delivered _ answer ih => rw [← List.append_assoc]; exact ih.delivered answer
  | lost _ answer ih => exact ih.lost answer

theorem of_silent (world : σ) (silent : ∀ act ∈ acts, act.asks = false) :
    Asked world acts world := by
  induction acts with
  | nil => exact .nothing
  | cons act rest ih =>
    have first : Asked world [act] world := Asked.nothing.aside (silent act List.mem_cons_self)
    exact first.trans (ih fun act mem => silent act (List.mem_cons_of_mem _ mem))

end Asked

end Asked

namespace Station

variable {σ : Type} [Environment σ] {cause : Call} {c d : Station σ}

theorem Move.asked (h : Move cause c d) :
    ∃ acts, d.session.journal = c.session.journal ++ acts ∧ Asked c.world acts d.world := by
  cases h with
  | alone world _ silent =>
    obtain ⟨acts, journal, silent⟩ := silent
    exact ⟨acts, journal, .of_silent world silent⟩
  | dial now _ _ _ answer => exact ⟨[_], rfl, .granted .nothing answer⟩
  | refuse _ _ _ answer => exact ⟨[_], rfl, .refused .nothing answer⟩
  | hangUp held =>
    refine ⟨_, ?_, .hungUp .nothing _⟩
    rw [Session.unplug_eq, held]
    rfl
  | hand _ _ _ answer => exact ⟨[_], rfl, .delivered .nothing answer⟩
  | flush _ _ _ _ answer => exact ⟨[_], rfl, .delivered .nothing answer⟩
  | @announce _ _ state _ _ _ _ _ _ _ _ _ answer =>
    have entered : Asked c.world
        [.entered ⟨c.session.key, c.session.target, state, none,
          Environment.wallClock c.world⟩] c.world :=
      Asked.nothing.aside rfl
    exact ⟨_, List.append_assoc .., entered.delivered answer⟩
  | announceInVain _ _ _ _ _ _ _ answer =>
    exact ⟨[_], rfl, (Asked.nothing.aside rfl).lost answer⟩
  | lose _ _ answer => exact ⟨[], (List.append_nil _).symm, .lost .nothing answer⟩

theorem Moves.asked (h : Moves cause c d) :
    ∃ acts, d.session.journal = c.session.journal ++ acts ∧ Asked c.world acts d.world := by
  induction h with
  | refl => exact ⟨[], (List.append_nil _).symm, .nothing⟩
  | tail _ move ih =>
    obtain ⟨acts, journal, asked⟩ := ih
    obtain ⟨more, journalToo, askedToo⟩ := move.asked
    exact ⟨acts ++ more, by rw [journalToo, journal, List.append_assoc], asked.trans askedToo⟩

end Station

/-- During a call the world is asked for what the session says it did, and nothing else is done to
it. -/
theorem Moment.asked {σ : Type} [Environment σ] (m : Moment σ) :
    Asked m.before.world m.acts m.after.world := by
  obtain ⟨d, moves, journal, after⟩ := m.moves
  obtain ⟨acts, added, asked⟩ := moves.asked
  rw [after, List.append_cancel_left (journal.symm.trans added)]
  exact asked

end Switchboard
