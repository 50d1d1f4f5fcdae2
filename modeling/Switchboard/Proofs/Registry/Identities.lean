import Switchboard.Proofs.Registry.Succession
import Switchboard.Proofs.Registry.Transports
import Switchboard.Proofs.Session.Milestones
/-!
# Identities are not used again

A session that is closed uses up one more generation, the registry remembers the last one under each
key, and a new session goes on from there. So the generations that transports are asked for under a
key only grow, whatever comes and goes there (`Registry.History.rises`), and no id of a transport is
ever asked for again. The numbers of sessions grow with every session that is created
(`Registry.identities_fresh`).
-/

namespace Switchboard

/-- The id under which a transport is asked for. -/
def Signal.dialled? : Signal → Option ConnectionId
  | dialled id _ _ => some id
  | _ => none

/-- The ids under which transports were asked for, granted or not. -/
def dialledIds (trace : List Signal) : List ConnectionId := trace.filterMap Signal.dialled?

def Act.dialled? : Act → Option ConnectionId
  | dialled id _ _ => some id
  | _ => none

/-- The ids under which acts ask for transports. -/
def dials (acts : List Act) : List ConnectionId := acts.filterMap Act.dialled?

theorem dials_append (acts more : List Act) : dials (acts ++ more) = dials acts ++ dials more :=
  List.filterMap_append

theorem dials_eq_milestones (acts : List Act) : dials acts = dials (milestones acts) := by
  unfold dials milestones
  rw [List.filterMap_filter]
  refine List.filterMap_congr fun act _ => ?_
  cases act with
  | entered event => exact (ite_self _).symm
  | _ => rfl

theorem dialledIds_filter_told (trace : List Signal) :
    dialledIds (trace.filter Signal.told) = dialledIds trace := by
  unfold dialledIds
  rw [List.filterMap_filter]
  refine List.filterMap_congr fun signal _ => ?_
  cases signal with
  | sent id bytes taken => cases taken <;> rfl
  | _ => rfl

theorem dialledIds_signals (acts : List Act) :
    dialledIds (acts.filterMap Act.signal?) = dials acts := by
  unfold dialledIds dials
  rw [List.filterMap_filterMap]
  refine List.filterMap_congr fun act _ => ?_
  cases act <;> rfl

/-- Where acts ask under their own keys, the ids of a key are those that its acts ask for. -/
theorem filter_dials {entries : List (String × Act)}
    (named : ∀ key, ∀ id ∈ dials (under key entries), id.key = key) (key : String) :
    (dials (entries.map Prod.snd)).filter (·.key = key) = dials (under key entries) := by
  induction entries with
  | nil => rfl
  | cons entry rest ih =>
    obtain ⟨own, act⟩ := entry
    have split (other : String) : under other ((own, act) :: rest) =
        under other [(own, act)] ++ under other rest := under_append [(own, act)] rest
    have rest := ih fun other id mem => named other id <| by
      rw [split, dials_append]
      exact List.mem_append_right _ mem
    have first : (dials [act]).filter (·.key = key) = dials (under key [(own, act)]) := by
      have here : under own [(own, act)] = [act] := under_map_self own [act]
      have ids (id : ConnectionId) (mem : id ∈ dials [act]) : id.key = own := by
        refine named own id ?_
        rw [split, dials_append, here]
        exact List.mem_append_left _ mem
      by_cases same : own = key
      · subst same
        rw [here]
        exact List.filter_eq_self.mpr fun id mem => decide_eq_true (ids id mem)
      · rw [show under key [(own, act)] = [] from under_map_of_ne same [act]]
        exact List.filter_eq_nil_iff.mpr fun id mem => by
          rw [ids id mem, decide_eq_true_eq]
          exact same
    rw [split, dials_append, ← rest, ← first, ← List.filter_append, ← dials_append]
    rfl

/-! ## Generations rise -/

/-- Ids of one key whose generations grow from one bound to another. -/
structure Rises (key : String) (low : Nat) (ids : List ConnectionId) (high : Nat) : Prop where
  le : low ≤ high
  named : ∀ id ∈ ids, id.key = key
  above : ∀ id ∈ ids, low < id.generation
  below : ∀ id ∈ ids, id.generation ≤ high
  ascending : (ids.map ConnectionId.generation).Pairwise (· < ·)

namespace Rises

variable {key : String} {low middle high : Nat} {ids more : List ConnectionId}

theorem nothing (le : low ≤ high) : Rises key low [] high := ⟨le, nofun, nofun, nofun, .nil⟩

theorem trans (h : Rises key low ids middle) (k : Rises key middle more high) :
    Rises key low (ids ++ more) high where
  le := Nat.le_trans h.le k.le
  named id mem := (List.mem_append.mp mem).elim (h.named id) (k.named id)
  above id mem := (List.mem_append.mp mem).elim (h.above id) fun later =>
    Nat.lt_of_le_of_lt h.le (k.above id later)
  below id mem := (List.mem_append.mp mem).elim
    (fun early => Nat.le_trans (h.below id early) k.le) (k.below id)
  ascending := by
    rw [List.map_append, List.pairwise_append]
    refine ⟨h.ascending, k.ascending, fun early memEarly late memLate => ?_⟩
    obtain ⟨id, mem, rfl⟩ := List.mem_map.mp memEarly
    obtain ⟨other, memOther, rfl⟩ := List.mem_map.mp memLate
    exact Nat.lt_of_le_of_lt (h.below id mem) (k.above other memOther)

end Rises

namespace Registry

variable {σ : Type} {r r' : Registry σ} {key : String}

/-- The generation that a key has come to: that of the session there, or the one that a new session
would start from. -/
def level (r : Registry σ) (key : String) : Nat :=
  match KeyMap.find? key r.sessions with
  | some s => s.generation
  | none => r.generationOf key

theorem level_of_some {s : Session} (found : KeyMap.find? key r.sessions = some s) :
    r.level key = s.generation := by
  unfold level
  rw [found]

theorem level_of_none (vacant : KeyMap.find? key r.sessions = none) :
    r.level key = r.generationOf key := by
  unfold level
  rw [vacant]

theorem level_congr (session : KeyMap.find? key r'.sessions = KeyMap.find? key r.sessions)
    (generation : r'.generationOf key = r.generationOf key) : r'.level key = r.level key := by
  unfold level
  rw [session, generation]

/-- The session that an operation creates, by its key and its number. -/
def created (r : Registry σ) : Operation → List (String × Nat)
  | .connect key target _ _ => if r.reuses key target then [] else [(key, r.nextSerial)]
  | _ => []

theorem created_of_reuses {target : Target} (content : r.reuses key target = true)
    (config : Option SessionConfig) (now : Instant) :
    r.created (.connect key target config now) = [] := if_pos content

theorem created_of_spent {target : Target} (spent : r.reuses key target = false)
    (config : Option SessionConfig) (now : Instant) :
    r.created (.connect key target config now) = [(key, r.nextSerial)] :=
  if_neg fun content => Bool.false_ne_true (spent.symm.trans content)

theorem created_eq (cause : Operation) :
    r.created cause = [] ∨ ∃ key, r.created cause = [(key, r.nextSerial)] := by
  cases cause with
  | connect key target config now =>
    cases spent : r.reuses key target with
    | true => exact .inl (created_of_reuses spent config now)
    | false => exact .inr ⟨key, created_of_spent spent config now⟩
  | _ => exact .inl rfl

theorem serial_of_created {cause : Operation} {serial : Nat}
    (mem : (key, serial) ∈ r.created cause) : serial = r.nextSerial := by
  rcases created_eq (r := r) cause with none | ⟨other, one⟩
  · rw [none] at mem
    cases mem
  · rw [one] at mem
    exact congrArg Prod.snd (List.mem_singleton.mp mem)

theorem reuses_of_vacant (vacant : KeyMap.find? key r.sessions = none) (target : Target) :
    r.reuses key target = false := by
  unfold reuses
  rw [vacant]
  rfl

theorem nextSerial_onSession {α : Type} (key : String)
    (step : Station σ → Except Error α × Station σ) :
    (r.onSession key step).2.nextSerial = r.nextSerial := by
  cases found : KeyMap.find? key r.sessions with
  | none => rw [onSession_of_unknown found]
  | some s => rw [onSession_of_known found]; rfl

theorem nextSerial_foldl {step : Registry σ → String → Registry σ}
    (same : ∀ r key, (step r key).nextSerial = r.nextSerial) (keys : List String) :
    (keys.foldl step r).nextSerial = r.nextSerial := by
  induction keys generalizing r with
  | nil => rfl
  | cons key rest ih => exact ih.trans (same r key)

end Registry

variable {σ : Type} [Environment σ]

/-- A call asks for a transport once at most, of a generation that was not used before. -/
theorem Moment.rises (m : Moment σ) : Rises m.before.session.key m.before.session.generation
    (dials m.acts) m.after.session.generation := by
  rw [dials_eq_milestones]
  cases m.passage with
  | nothing acts =>
    rw [acts]
    exact .nothing m.generation_le
  | attempt generation granted acts fresh used =>
    rw [acts]
    refine ⟨m.generation_le, ?_, ?_, ?_, List.pairwise_singleton _ _⟩
    all_goals
      intro id mem
      obtain rfl := List.mem_singleton.mp mem
    · rfl
    · exact fresh
    · exact used
  | arrival wall acts =>
    rw [acts]
    exact .nothing m.generation_le

namespace Registry

variable {r r' : Registry σ} {key : String}

theorem Succession.rises {cause : Operation} {acts : List Act} (sound : Sound r)
    (h : Succession cause r key r' acts) : Rises key (r.level key) (dials acts) (r'.level key) := by
  have closing {s : Session} (found : KeyMap.find? key r.sessions = some s) (world : σ)
      (call : Switchboard.Call) : Rises key (r.level key) (dials (Moment.mk ⟨s, world⟩ call).acts)
        (Moment.mk ⟨s, world⟩ call).after.session.generation := by
    have rises := (Moment.mk ⟨s, world⟩ call).rises
    rw [level_of_some found]
    exact (sound.owned found).home ▸ rises
  cases h with
  | kept session generation =>
    exact .nothing (Nat.le_of_eq (level_congr session generation).symm)
  | called found asks world after =>
    rw [level_of_some after]
    exact closing found world _
  | removed found removes world after generation =>
    rw [level_of_none after, generation]
    exact closing found world .close
  | begun vacant connects world after =>
    rw [level_of_some after, level_of_none vacant]
    exact Moment.rises ⟨⟨r.newSession .., world⟩, .connect _⟩
  | replaced found connects spent world worldToo last after =>
    rw [level_of_some after, dials_append]
    refine (closing found world .close).trans ?_
    rw [← last]
    exact Moment.rises ⟨⟨r.newSession .., worldToo⟩, .connect _⟩

/-! ## Numbers of sessions -/

/-- A session that is registered after an operation was created by it or has the number of the one
before it. -/
theorem Succession.serial {cause : Operation} {acts : List Act}
    (h : Succession cause r key r' acts) {s : Session}
    (found : KeyMap.find? key r'.sessions = some s) :
    (key, s.serial) ∈ r.created cause ∨
      ∃ t, KeyMap.find? key r.sessions = some t ∧ t.serial = s.serial := by
  have fresh {target : Target} {config : Option SessionConfig} {now : Instant} {generation : Nat}
      {world : σ} (connects : cause = .connect key target config now)
      (spent : r.reuses key target = false)
      (after : some s = some (Moment.mk
        ⟨r.newSession key target (config.getD r.defaults) generation, world⟩
        (.connect now)).after.session.drained) :
      (key, s.serial) ∈ r.created cause := by
    have serial : s.serial = r.nextSerial := by
      rw [Option.some.inj after]
      exact (Moment.sameIdentity _).serial
    rw [connects, created_of_spent spent, serial]
    exact List.mem_singleton_self _
  cases h with
  | kept session => exact .inr ⟨s, session ▸ found, rfl⟩
  | @called t before call asks world after =>
    rw [after, Option.some.injEq] at found
    rw [← found]
    exact .inr ⟨t, before, (Moment.mk ⟨t, world⟩ call).sameIdentity.serial.symm⟩
  | removed _ _ _ after =>
    rw [after] at found
    cases found
  | begun vacant connects world after =>
    exact .inl (fresh connects (reuses_of_vacant vacant _) (found.symm.trans after))
  | replaced _ connects spent _ _ _ after =>
    exact .inl (fresh connects spent (found.symm.trans after))

/-- What an operation creates is registered after it. -/
theorem registered_of_created (sound : Sound r) {cause : Operation} {serial : Nat}
    (mem : (key, serial) ∈ r.created cause) :
    ∃ s, KeyMap.find? key (r.operate cause).sessions = some s ∧ s.serial = serial := by
  cases cause with
  | connect other target config now =>
    cases spent : r.reuses other target with
    | true =>
      rw [created_of_reuses spent] at mem
      cases mem
    | false =>
      rw [created_of_spent spent] at mem
      cases List.mem_singleton.mp mem
      have soundToo := sound.takeOut key
      obtain ⟨after, -⟩ := shelved soundToo
        (.fresh (find?_takeOut r key) target (config.getD r.defaults)) (.connect now)
      rw [← connectWith_of_spent spent] at after
      exact ⟨_, after, (Moment.sameIdentity _).serial.trans (nextSerial_takeOut r key)⟩
  | _ => cases mem

theorem nextSerial_remove (key : String) : (r.remove key).2.nextSerial = r.nextSerial := by
  unfold remove
  split
  · exact nextSerial_takeOut _ key
  · rfl

/-- Numbers are used up by sessions that are created and by nothing else. -/
theorem nextSerial_operate (cause : Operation) :
    (r.operate cause).nextSerial = r.nextSerial + (r.created cause).length := by
  cases cause with
  | connect key target config now =>
    cases spent : r.reuses key target with
    | true =>
      rw [created_of_reuses spent]
      exact congrArg nextSerial (connectWith_of_reuses spent _ now)
    | false =>
      rw [created_of_spent spent]
      refine (congrArg nextSerial (connectWith_of_spent spent _ now)).trans ?_
      exact congrArg (· + 1) (nextSerial_takeOut r key)
  | remove key => exact nextSerial_remove key
  | shutdown => exact nextSerial_foldl (fun _ _ => nextSerial_remove _) _
  | pollTimers now => exact nextSerial_foldl (fun _ _ => nextSerial_onSession _ _) _
  | subscribe => rfl
  | subscribeStatus => rfl
  | unsubscribe => rfl
  | _ => exact nextSerial_onSession _ _

/-- The session that the operation of a turn creates. -/
def Turn.created (t : Turn σ) : List (String × Nat) := t.before.created t.operation

/-! ## Histories -/

namespace History

variable {ts : List (Turn σ)}

/-- The generations that were used under a key so far, in order. -/
theorem rises (h : History ts r) (key : String) :
    Rises key 0 (dials (under key (acts ts))) (r.level key) := by
  induction h with
  | begin world defaults marks => exact .nothing (Nat.le_refl _)
  | turn h operation ih =>
    have step := (Turn.succession (t := ⟨_, operation⟩) h.sound key).rises h.sound
    unfold acts at ih ⊢
    rw [List.flatMap_append, List.flatMap_singleton, under_append, dials_append]
    exact ih.trans step
  | drainActs _ ih => exact ih
  | drainNotices _ ih => exact ih
  | world _ _ ih => exact ih

/-- The registry at the beginning of each operation, and as it is now. -/
def points (ts : List (Turn σ)) (r : Registry σ) : List (Registry σ) := ts.map Turn.before ++ [r]

/-- No key ever comes to an earlier generation. -/
theorem level_le (h : History ts r) : (points ts r).Pairwise fun earlier later =>
    ∀ key, earlier.level key ≤ later.level key := by
  have last {ts : List (Turn σ)} {r r' : Registry σ} (ih : (points ts r).Pairwise
      fun earlier later => ∀ key, earlier.level key ≤ later.level key)
      (same : ∀ key, r'.level key = r.level key) : (points ts r').Pairwise
        fun earlier later => ∀ key, earlier.level key ≤ later.level key := by
    unfold points at ih ⊢
    rw [List.pairwise_append] at ih ⊢
    refine ⟨ih.1, List.pairwise_singleton _ _, fun earlier mem later memLater key => ?_⟩
    rw [List.mem_singleton.mp memLater, same]
    exact ih.2.2 earlier mem r (List.mem_singleton_self r) key
  induction h with
  | begin world defaults marks => exact List.pairwise_singleton _ _
  | @turn ts r h operation ih =>
    have step (key : String) : r.level key ≤ (r.operate operation).level key :=
      ((Turn.succession (t := ⟨r, operation⟩) h.sound key).rises h.sound).le
    have all : points (ts ++ [⟨r, operation⟩]) (r.operate operation) =
        points ts r ++ [r.operate operation] := by
      unfold points
      rw [List.map_append]
      rfl
    rw [all, List.pairwise_append]
    refine ⟨ih, List.pairwise_singleton _ _, fun earlier mem later memLater key => ?_⟩
    rw [List.mem_singleton.mp memLater]
    refine Nat.le_trans ?_ (step key)
    rcases List.mem_append.mp mem with before | now
    · exact (List.pairwise_append.mp ih).2.2 earlier before r (List.mem_singleton_self r) key
    · exact Nat.le_of_eq (congrArg (level · key) (List.mem_singleton.mp now))
  | drainActs _ ih => exact last ih fun _ => rfl
  | drainNotices _ ih => exact last ih fun _ => rfl
  | world _ _ ih => exact last ih fun _ => rfl

/-- What was asked of the world in a history is what its acts tell. -/
theorem dialledIds_eq {traces : List (List Signal)} (traced : List.Forall₂ Turn.Traced ts traces) :
    dialledIds traces.flatten = dials ((acts ts).map Prod.snd) := by
  induction traced with
  | nil => rfl
  | @cons t trace ts traces conduct _ ih =>
    obtain ⟨published, all, told⟩ := conduct.told
    have same : t.acts = published := by
      unfold Turn.acts
      rw [all, List.drop_left]
    have first : dialledIds trace = dials (t.acts.map Prod.snd) := by
      rw [← dialledIds_filter_told, told, same, ← dialledIds_signals, List.filterMap_map]
      rfl
    unfold acts at ih ⊢
    rw [List.flatMap_cons, List.map_append, dials_append, ← ih, ← first]
    exact List.filterMap_append

/-- The sessions that were created in a history. -/
def created (ts : List (Turn σ)) : List (String × Nat) := ts.flatMap Turn.created

/-- The numbers of the sessions created so far grow and are used up, and registered sessions are
among them. -/
structure Census (ts : List (Turn σ)) (r : Registry σ) : Prop where
  ascending : ((created ts).map Prod.snd).Pairwise (· < ·)
  used : ∀ serial ∈ (created ts).map Prod.snd, serial < r.nextSerial
  origin : ∀ key s, KeyMap.find? key r.sessions = some s → (key, s.serial) ∈ created ts

theorem census (h : History ts r) : Census ts r := by
  induction h with
  | begin world defaults marks =>
    exact ⟨.nil, List.forall_mem_nil _, fun key s found => by cases found⟩
  | @turn ts r h operation ih =>
    have longer : created (ts ++ [⟨r, operation⟩]) = created ts ++ r.created operation := by
      unfold created
      rw [List.flatMap_append, List.flatMap_singleton]
      rfl
    have lies : ∀ serial ∈ (created ts).map Prod.snd, serial < (r.operate operation).nextSerial :=
      fun serial mem => Nat.lt_of_lt_of_le (ih.used serial mem)
        (by rw [nextSerial_operate]; exact Nat.le_add_right _ _)
    have origin (key : String) (s : Session)
        (found : KeyMap.find? key (r.operate operation).sessions = some s) :
        (key, s.serial) ∈ created ts ++ r.created operation := by
      rw [List.mem_append]
      have succession := Turn.succession (t := ⟨r, operation⟩) h.sound key
      rcases succession.serial found with new | ⟨t, before, same⟩
      · exact .inr new
      · exact .inl (same ▸ ih.origin key t before)
    rcases created_eq (r := r) operation with none | ⟨key, one⟩
    · rw [none, List.append_nil] at longer origin
      rw [← longer] at lies origin
      exact ⟨longer ▸ ih.ascending, lies, origin⟩
    · rw [one] at longer
      refine ⟨?_, ?_, ?_⟩
      · rw [longer, List.map_append, List.pairwise_append]
        refine ⟨ih.ascending, List.pairwise_singleton _ _, fun early mem late memLate => ?_⟩
        rw [List.mem_singleton.mp memLate]
        exact ih.used early mem
      · rw [longer, List.map_append]
        refine fun serial mem => (List.mem_append.mp mem).elim (lies serial) fun last => ?_
        rw [List.mem_singleton.mp last, nextSerial_operate, one]
        exact Nat.lt_succ_self _
      · rw [longer, ← one]
        exact origin
  | drainActs _ ih => exact ⟨ih.ascending, ih.used, ih.origin⟩
  | drainNotices _ ih => exact ⟨ih.ascending, ih.used, ih.origin⟩
  | world _ _ ih => exact ⟨ih.ascending, ih.used, ih.origin⟩

theorem sound_of_mem (h : History ts r) {t : Turn σ} (mem : t ∈ ts) : Sound t.before := by
  induction h with
  | begin world defaults marks => cases mem
  | turn h operation ih =>
    rcases List.mem_append.mp mem with early | last
    · exact ih early
    · rw [List.mem_singleton.mp last]
      exact h.sound
  | drainActs _ ih => exact ih mem
  | drainNotices _ ih => exact ih mem
  | world _ _ ih => exact ih mem

end History

/-- The identities of a history as its owner reads them. -/
structure IdentitiesFresh (ts : List (Turn σ)) (traces : List (List Signal)) (r : Registry σ) :
    Prop where
  /-- Operation by operation, what passed between the sessions and the world. -/
  traced : List.Forall₂ Turn.Traced ts traces
  /-- Under one key, every transport is asked for with a later generation. -/
  ascending : ∀ key, (((dialledIds traces.flatten).filter (·.key = key)).map
    ConnectionId.generation).Pairwise (· < ·)
  /-- No transport is asked for under an id that was used before. -/
  distinct : (dialledIds traces.flatten).Nodup
  /-- Sessions may come and go, the generation of the one under a key never falls. -/
  generations : (History.points ts r).Pairwise fun earlier later => ∀ key s t,
    KeyMap.find? key earlier.sessions = some s → KeyMap.find? key later.sessions = some t →
      s.generation ≤ t.generation
  /-- Every session that is created has a number above all before. -/
  serials : ((History.created ts).map Prod.snd).Pairwise (· < ·)
  /-- An operation creates what is registered after it with a number that no session had before. -/
  created : ∀ t ∈ ts, ∀ key serial, (key, serial) ∈ t.created →
    (∃ s, KeyMap.find? key t.after.sessions = some s ∧ s.serial = serial) ∧
      ∀ other s, KeyMap.find? other t.before.sessions = some s → s.serial ≠ serial
  /-- Any other session that is registered after it has the number of the one before. -/
  succeeded : ∀ t ∈ ts, ∀ key s, KeyMap.find? key t.after.sessions = some s →
    (key, s.serial) ∈ t.created ∨
      ∃ earlier, KeyMap.find? key t.before.sessions = some earlier ∧ earlier.serial = s.serial
  /-- Sessions that are registered under different keys have different numbers. -/
  apart : ∀ key other s t, KeyMap.find? key r.sessions = some s →
    KeyMap.find? other r.sessions = some t → s.serial = t.serial → key = other

/-- Increasing numbers are the numbers of one entry each. -/
theorem key_eq_of_ascending {entries : List (String × Nat)}
    (ascending : (entries.map Prod.snd).Pairwise (· < ·)) {key other : String} {serial : Nat}
    (mem : (key, serial) ∈ entries) (memOther : (other, serial) ∈ entries) : key = other := by
  have distinct : (entries.map Prod.snd).Nodup := ascending.imp Nat.ne_of_lt
  exact congrArg Prod.fst (List.inj_on_of_nodup_map distinct mem memOther rfl)

/-- A value that occurs twice would come after itself. -/
theorem nodup_of_ascending {ids : List ConnectionId} (ascending : ∀ key,
    ((ids.filter (·.key = key)).map ConnectionId.generation).Pairwise (· < ·)) : ids.Nodup := by
  rw [List.nodup_iff_sublist]
  intro id twice
  have own := (twice.filter (·.key = id.key)).map ConnectionId.generation
  have less := (ascending id.key).sublist own
  simp at less

/-- In every history, over every world, no id of a transport and no number of a session is used
again. -/
theorem identities_fresh {ts : List (Turn σ)} (h : History ts r) :
    ∃ traces, IdentitiesFresh ts traces r := by
  obtain ⟨traces, traced, -⟩ := h.tracks
  have census := h.census
  have ascending (key : String) : (((dialledIds traces.flatten).filter (·.key = key)).map
      ConnectionId.generation).Pairwise (· < ·) := by
    rw [History.dialledIds_eq traced, filter_dials fun key => (h.rises key).named]
    exact (h.rises key).ascending
  refine ⟨traces, traced, ascending, nodup_of_ascending ascending, ?_, census.ascending, ?_, ?_, ?_⟩
  · refine h.level_le.imp fun le key s t found foundLater => ?_
    rw [← level_of_some found, ← level_of_some foundLater]
    exact le key
  · intro t mem key serial new
    have sound := h.sound_of_mem mem
    refine ⟨registered_of_created sound new, fun other s found same => ?_⟩
    exact Nat.ne_of_lt (sound.owned found).serial (same.trans (serial_of_created new))
  · intro t mem key s found
    exact (Turn.succession (h.sound_of_mem mem) key).serial found
  · intro key other s t found foundOther same
    exact key_eq_of_ascending census.ascending (census.origin key s found)
      (same ▸ census.origin other t foundOther)

/-- A refused attempt, a replacement, a removal and a new start, all under one key. -/
theorem identities_fresh_restarted :
    ∃ (ts : List (Turn (Recorded ScriptedNetwork))) (r : Registry (Recorded ScriptedNetwork)),
      History ts r ∧
        dialledIds r.world.record = [⟨"k", 1⟩, ⟨"k", 4⟩, ⟨"k", 6⟩] ∧
        History.created ts = [("k", 1), ("k", 2), ("k", 3)] ∧
        ∃ traces, IdentitiesFresh ts traces r :=
  have begun : History [] _ := .begin (⟨{ refuseNext := 1 }, []⟩ : Recorded ScriptedNetwork) {}
    scriptedMark
  have refused := begun.turn (.connect "k" ⟨"a", 1, none⟩ none ⟨0⟩)
  have replaced := refused.turn (.connect "k" ⟨"b", 1, none⟩ none ⟨0⟩)
  have removed := replaced.turn (.remove "k")
  have history := removed.turn (.connect "k" ⟨"b", 1, none⟩ none ⟨0⟩)
  ⟨_, _, history, by decide, by decide, identities_fresh history⟩

end Registry

end Switchboard
