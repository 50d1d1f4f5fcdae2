import Switchboard.Proofs.Registry.Sound
import Switchboard.Proofs.Session.Transports
import Switchboard.Proofs.Session.World
import Switchboard.Scripted.Network
import Mathlib.Data.List.Nodup
/-!
# The books of a registry

For each key, the ids that were given out under it are those that are outstanding there and those
whose outcome was published under it; and the transports that were opened under it are those that
were closed and the one that is held. Sessions come and go under a key, and a session that goes
settles its requests and closes its transport first. No id is given out that is outstanding, and if
the marks of the sessions differ, none is given out twice. What the acts tell of transports is what
the world was asked for.
-/

namespace Switchboard

/-- What entries say about a key, in order. -/
def under {α : Type} (key : String) (entries : List (String × α)) : List α :=
  entries.filterMap fun entry => if entry.1 = key then some entry.2 else none

section Under

variable {α : Type} {key : String}

@[simp] theorem under_append (entries more : List (String × α)) :
    under key (entries ++ more) = under key entries ++ under key more :=
  List.filterMap_append

@[simp] theorem under_map_self (key : String) (values : List α) :
    under key (values.map (key, ·)) = values := by
  unfold under
  rw [List.filterMap_map]
  simp

theorem under_map_of_ne {other : String} (h : other ≠ key) (values : List α) :
    under key (values.map (other, ·)) = [] := by
  unfold under
  rw [List.filterMap_map, List.filterMap_eq_nil_iff]
  intro value _
  exact if_neg h

@[simp] theorem map_snd_map (key : String) (values : List α) :
    (values.map (key, ·)).map Prod.snd = values := by
  rw [List.map_map]
  exact List.map_id values

theorem mem_under {value : α} {entries : List (String × α)} :
    value ∈ under key entries ↔ (key, value) ∈ entries := by
  unfold under
  rw [List.mem_filterMap]
  refine ⟨fun ⟨entry, mem, eq⟩ => ?_, fun mem => ⟨(key, value), mem, if_pos rfl⟩⟩
  split at eq
  · next same =>
    obtain ⟨k, v⟩ := entry
    cases eq
    cases same
    exact mem
  · cases eq

theorem nodup_under {entries : List (String × α)} (h : entries.Nodup) :
    (under key entries).Nodup := by
  refine List.Nodup.filterMap (fun a b value ha hb => ?_) h
  rw [Option.mem_def] at ha hb
  split at ha
  · next sameA =>
    split at hb
    · next sameB =>
      exact Prod.ext (sameA.trans sameB.symm) (Option.some.inj (ha.trans hb.symm))
    · cases hb
  · cases ha

end Under

namespace Registry

variable {σ : Type}

/-- The requests outstanding under a key. -/
def outstanding (r : Registry σ) (key : String) : List String :=
  match KeyMap.find? key r.sessions with
  | some s => s.requests.ids
  | none => []

/-- The transport held under a key. -/
def held (r : Registry σ) (key : String) : Option ConnectionId :=
  (KeyMap.find? key r.sessions).bind Session.transport

theorem outstanding_of_find? {r : Registry σ} {key : String} {s : Session}
    (h : KeyMap.find? key r.sessions = some s) : r.outstanding key = s.requests.ids := by
  unfold outstanding
  rw [h]

theorem held_of_find? {r : Registry σ} {key : String} {s : Session}
    (h : KeyMap.find? key r.sessions = some s) : r.held key = s.transport := by
  unfold held
  rw [h]
  rfl

theorem outstanding_of_none {r : Registry σ} {key : String}
    (h : KeyMap.find? key r.sessions = none) : r.outstanding key = [] := by
  unfold outstanding
  rw [h]

theorem exists_of_mem_outstanding {r : Registry σ} {key id : String}
    (mem : id ∈ r.outstanding key) :
    ∃ s, KeyMap.find? key r.sessions = some s ∧ id ∈ s.requests.ids := by
  unfold outstanding at mem
  split at mem
  · next s found => exact ⟨s, found, mem⟩
  · cases mem

theorem outstanding_of_empty {r : Registry σ} (empty : r.sessions = []) (key : String) :
    r.outstanding key = [] := by
  refine outstanding_of_none ?_
  rw [empty]
  rfl

theorem held_of_none {r : Registry σ} {key : String}
    (h : KeyMap.find? key r.sessions = none) : r.held key = none := by
  unfold held
  rw [h]
  rfl

theorem outstanding_congr {r r' : Registry σ} {key : String}
    (h : KeyMap.find? key r'.sessions = KeyMap.find? key r.sessions) :
    r'.outstanding key = r.outstanding key := by
  unfold outstanding
  rw [h]

theorem held_congr {r r' : Registry σ} {key : String}
    (h : KeyMap.find? key r'.sessions = KeyMap.find? key r.sessions) :
    r'.held key = r.held key := by
  unfold held
  rw [h]

theorem Entry.outstanding_eq {r : Registry σ} {key : String} {s : Session} {nextSerial : Nat}
    (entry : Entry r key s nextSerial) : r.outstanding key = s.requests.ids := by
  cases entry with
  | found found => exact outstanding_of_find? found
  | fresh free => exact outstanding_of_none free

theorem Entry.held_eq {r : Registry σ} {key : String} {s : Session} {nextSerial : Nat}
    (entry : Entry r key s nextSerial) : r.held key = s.transport := by
  cases entry with
  | found found => exact held_of_find? found
  | fresh free => exact held_of_none free

/-! ## Ids are given out once -/

/-- The sessions that were created so far have different marks. -/
def MarksDiffer (r : Registry σ) : Prop :=
  ∀ m < r.nextSerial, ∀ n < r.nextSerial, r.marks m = r.marks n → m = n

theorem MarksDiffer.of_le {r r' : Registry σ} (h : r'.MarksDiffer)
    (le : r.nextSerial ≤ r'.nextSerial) (marks : r'.marks = r.marks) : r.MarksDiffer := by
  intro m small n smallToo same
  rw [← marks] at same
  exact h m (Nat.lt_of_lt_of_le small le) n (Nat.lt_of_lt_of_le smallToo le) same

/-- The ids that were given out, by the session whose mark they have and by their own number: a
session that is still registered has not come to a number that it gave out. -/
structure Numbered (issued : List (String × String)) (r : Registry σ) : Prop where
  spent : ∀ key id, (key, id) ∈ issued → ∃ serial n, id = Requests.idAt (r.marks serial) n ∧
    serial < r.nextSerial ∧
    ∀ s, KeyMap.find? key r.sessions = some s → s.serial = serial → n < s.requests.next
  distinct : r.MarksDiffer → issued.Nodup

namespace Numbered

variable {issued : List (String × String)} {r : Registry σ}

theorem mono (h : Numbered issued r) {r' : Registry σ} (le : r.nextSerial ≤ r'.nextSerial)
    (marks : r'.marks = r.marks)
    (kept : ∀ key s, KeyMap.find? key r'.sessions = some s → KeyMap.find? key r.sessions = some s) :
    Numbered issued r' := by
  refine ⟨fun key id mem => ?_, fun differ => h.distinct (differ.of_le le marks)⟩
  obtain ⟨serial, n, eq, lt, later⟩ := h.spent key id mem
  rw [marks]
  exact ⟨serial, n, eq, Nat.lt_of_lt_of_le lt le, fun s found => later s (kept key s found)⟩

/-- A session that a call finds has not come to a number that it gave out. -/
theorem entry_spent (h : Numbered issued r) {key : String} {s : Session} {nextSerial : Nat}
    (entry : Entry r key s nextSerial) {id : String} (mem : (key, id) ∈ issued) :
    ∃ serial n, id = Requests.idAt (r.marks serial) n ∧ serial < r.nextSerial ∧
      (s.serial = serial → n < s.requests.next) := by
  obtain ⟨serial, n, eq, lt, later⟩ := h.spent key id mem
  refine ⟨serial, n, eq, lt, fun same => ?_⟩
  cases entry with
  | found found => exact later s found same
  | fresh => exact absurd same (Nat.ne_of_gt lt)

end Numbered

/-! ## What calls exchange -/

variable [Environment σ]

/-- What happens between two registries, with the ids given out and the acts published. The world
is asked for what the acts say. -/
structure Exchange (r : Registry σ) (ids : List (String × String)) (acts : List (String × Act))
    (r' : Registry σ) : Prop where
  published : r'.acts = r.acts ++ acts
  balance : ∀ key, (r'.outstanding key ++ settledIds (under key acts)).Perm
    (under key ids ++ r.outstanding key)
  turns : ∀ key, Turns (r.held key) (under key acts) (r'.held key)
  asked : Asked r.world (acts.map Prod.snd) r'.world

namespace Exchange

variable {r r' r'' : Registry σ} {ids more : List (String × String)}
  {acts acts' : List (String × Act)}

theorem refl (r : Registry σ) : Exchange r [] [] r :=
  ⟨(List.append_nil _).symm, fun _ => .of_eq (List.append_nil _),
    fun _ => .of_silent (List.forall_mem_nil _), .nothing⟩

theorem trans (h : Exchange r ids acts r') (k : Exchange r' more acts' r'') :
    Exchange r (ids ++ more) (acts ++ acts') r'' where
  published := by rw [k.published, h.published, List.append_assoc]
  balance key := by
    rw [under_append, under_append, settledIds_append]
    refine (perm_carry (h.balance key).symm (k.balance key)).symm.trans ?_
    rw [List.append_assoc, List.append_assoc]
    exact List.perm_append_comm.append_left _
  turns key := by
    rw [under_append]
    exact (h.turns key).trans (k.turns key)
  asked := by
    rw [List.map_append]
    exact h.asked.trans k.asked

/-- What happens under one key leaves the sessions under the others as they are. -/
theorem of_key {key : String} (given : List String) {done : List Act}
    (published : r'.acts = r.acts ++ done.map (key, ·))
    (balance : (r'.outstanding key ++ settledIds done).Perm (given ++ r.outstanding key))
    (turns : Turns (r.held key) done (r'.held key)) (asked : Asked r.world done r'.world)
    (others : ∀ other, other ≠ key →
      KeyMap.find? other r'.sessions = KeyMap.find? other r.sessions) :
    Exchange r (given.map (key, ·)) (done.map (key, ·)) r' := by
  refine ⟨published, fun other => ?_, fun other => ?_, ?_⟩
  · by_cases same : other = key
    · subst same
      rw [under_map_self, under_map_self]
      exact balance
    · rw [under_map_of_ne (Ne.symm same), under_map_of_ne (Ne.symm same),
        outstanding_congr (others other same)]
      exact .of_eq (List.append_nil _)
  · by_cases same : other = key
    · subst same
      rw [under_map_self]
      exact turns
    · rw [under_map_of_ne (Ne.symm same), held_congr (others other same)]
      exact .of_silent (List.forall_mem_nil _)
  · rw [map_snd_map]
    exact asked

end Exchange

namespace Owned

variable {r : Registry σ} {key : String} {s : Session}

theorem booked (h : Owned r key s) : ∃ ms : List (Moment σ), ∃ world, Booked ms ⟨s, world⟩ := by
  obtain ⟨_, _, _, ms, world, run⟩ := h.history
  exact ⟨ms, world, run.booked⟩

theorem mark (h : Owned r key s) : s.requests.mark = r.marks s.serial := by
  obtain ⟨_, _, _, _, _, run⟩ := h.history
  exact run.sameIdentity.mark

theorem balance (h : Owned r key s) (world : σ) (call : Switchboard.Call) :
    ((Moment.mk ⟨s, world⟩ call).after.session.requests.ids ++
        settledIds (Moment.mk ⟨s, world⟩ call).acts).Perm
      ((Moment.mk ⟨s, world⟩ call).issued?.toList ++ s.requests.ids) := by
  obtain ⟨_, _, booked⟩ := h.booked
  exact (Moment.mk ⟨s, world⟩ call).balance booked.sorted booked.next_not_pending

theorem journal_after (h : Owned r key s) (world : σ) (call : Switchboard.Call) :
    (Moment.mk ⟨s, world⟩ call).after.session.journal = (Moment.mk ⟨s, world⟩ call).acts := by
  rw [Moment.journal]
  dsimp only
  rw [h.journal, List.nil_append]

end Owned

theorem exchange_call {r : Registry σ} (h : Sound r) {key : String} {s : Session}
    {nextSerial : Nat} (entry : Entry r key s nextSerial) (call : Switchboard.Call) :
    Exchange r ((Moment.mk ⟨s, r.world⟩ call).issued?.toList.map (key, ·))
      ((Moment.mk ⟨s, r.world⟩ call).acts.map (key, ·))
      ({ r with nextSerial }.shelve (Moment.mk ⟨s, r.world⟩ call).after) := by
  have owned := entry.owned h
  have home : (Moment.mk ⟨s, r.world⟩ call).after.session.key = key :=
    (owned.call r.world call).home
  refine .of_key _ ?_ ?_ ?_ (Moment.asked (Moment.mk ⟨s, r.world⟩ call)) fun other different =>
    find?_shelve_of_ne _ home different
  · unfold shelve publish
    rw [owned.journal_after, home]
  · rw [outstanding_of_find? (find?_shelve _ home), entry.outstanding_eq]
    exact owned.balance r.world call
  · rw [held_of_find? (find?_shelve _ home), entry.held_eq]
    exact Moment.turns (Moment.mk ⟨s, r.world⟩ call)

/-- A session that is taken out settles its requests and closes its transport. -/
theorem exchange_takeOut {r : Registry σ} (h : Sound r) {key : String} {s : Session}
    (found : KeyMap.find? key r.sessions = some s) :
    Exchange r [] ((Moment.mk ⟨s, r.world⟩ .close).acts.map (key, ·)) (r.takeOut key).2 := by
  have owned := h.owned found
  have home : (Moment.mk ⟨s, r.world⟩ .close).after.session.key = key :=
    (owned.call r.world .close).home
  have rest : Session.Resting (Moment.mk ⟨s, r.world⟩ .close).after.session :=
    Station.resting_close owned.inPhase
  refine .of_key [] ?_ ?_ ?_ ?_ fun other different => find?_takeOut_of_ne r different
  · rw [takeOut_eq found]
    unfold publish
    rw [owned.journal_after, home]
  · have settled := owned.balance r.world .close
    rw [Requests.ids, rest.requests] at settled
    rw [outstanding_of_none (find?_takeOut r key), outstanding_of_find? found]
    exact settled
  · have turns := Moment.turns (Moment.mk ⟨s, r.world⟩ .close)
    rw [rest.transport] at turns
    rw [held_of_none (find?_takeOut r key), held_of_find? found]
    exact turns
  · rw [takeOut_eq found]
    exact Moment.asked (Moment.mk ⟨s, r.world⟩ .close)

theorem Touch.exchange {cause : Operation} {r r' : Registry σ} {ids : List (String × String)}
    (touch : Touch cause r ids r') (h : Sound r) : ∃ acts, Exchange r ids acts r' := by
  cases touch with
  | listen =>
    exact ⟨[], (List.append_nil _).symm, fun _ => .of_eq (List.append_nil _),
      fun _ => .of_silent (List.forall_mem_nil _), .nothing⟩
  | call entry call => exact ⟨_, exchange_call h entry call⟩
  | retire found => exact ⟨_, exchange_takeOut h found⟩

theorem Touches.exchange {cause : Operation} {r r' : Registry σ} {ids : List (String × String)}
    (touches : Touches cause r ids r') (h : Sound r) : ∃ acts, Exchange r ids acts r' := by
  induction touches with
  | refl => exact ⟨[], .refl r⟩
  | tail touches touch ih =>
    obtain ⟨acts, exchanged⟩ := ih
    obtain ⟨more, exchangedToo⟩ := touch.exchange (touches.sound h)
    exact ⟨acts ++ more, exchanged.trans exchangedToo⟩

theorem Turn.exchange {t : Turn σ} (h : Sound t.before) :
    Exchange t.before t.issued t.acts t.after := by
  obtain ⟨acts, exchanged⟩ := (touches_operate t.before t.operation).exchange h
  have same : t.acts = acts := by
    unfold Turn.acts Turn.after
    rw [exchanged.published, List.drop_left]
  rw [same]
  exact exchanged

/-- An operation gives out no id that is outstanding under its key. -/
theorem Sound.issued_fresh {r : Registry σ} (h : Sound r) (operation : Operation) (key : String) :
    (under key (r.issuedBy operation) ++ r.outstanding key).Nodup := by
  have distinct : (r.outstanding key).Nodup := by
    unfold outstanding
    split
    · next s found =>
      obtain ⟨_, _, booked⟩ := (h.owned found).booked
      exact KeyMap.nodup_keys booked.sorted
    · exact List.nodup_nil
  cases operation with
  | request other code header payload now =>
    cases found : KeyMap.find? other r.sessions with
    | none =>
      rw [issuedBy_request_of_unknown found]
      exact distinct
    | some s =>
      rw [issuedBy_request_of_known found]
      by_cases same : other = key
      · subst same
        rw [under_map_self]
        cases issued : (Moment.mk ⟨s, r.world⟩ (.request code header payload now)).issued? with
        | none => exact distinct
        | some id =>
          obtain ⟨_, _, booked⟩ := (h.owned found).booked
          refine List.nodup_cons.mpr ⟨?_, distinct⟩
          rw [Moment.issued_eq issued, outstanding_of_find? found]
          exact booked.next_not_pending
      · rw [under_map_of_ne same]
        exact distinct
  | _ => exact distinct

namespace Numbered

variable {issued : List (String × String)} {r : Registry σ}

/-- The id that a session would give out next was not given out, if no other session has its
mark. -/
theorem next_fresh (h : Numbered issued r) (sound : Sound r) {key : String} {s : Session}
    {nextSerial : Nat} (entry : Entry r key s nextSerial)
    (differ : ({ r with nextSerial } : Registry σ).MarksDiffer) :
    (key, s.requests.nextId) ∉ issued := by
  intro mem
  obtain ⟨serial, n, eq, older, later⟩ := h.entry_spent entry mem
  have owned := entry.owned sound
  rw [Requests.nextId, owned.mark] at eq
  obtain ⟨marks, numbers⟩ := Requests.idAt_inj.mp eq
  have same := differ s.serial owned.serial serial
    (Nat.lt_of_lt_of_le older entry.nextSerial_le) marks
  have lt := later same
  omega

theorem call (h : Numbered issued r) (sound : Sound r) {key : String} {s : Session}
    {nextSerial : Nat} (entry : Entry r key s nextSerial) (call : Switchboard.Call) :
    Numbered (issued ++ (Moment.mk ⟨s, r.world⟩ call).issued?.toList.map (key, ·))
      ({ r with nextSerial }.shelve (Moment.mk ⟨s, r.world⟩ call).after) := by
  have owned := entry.owned sound
  have identity := (Moment.mk ⟨s, r.world⟩ call).sameIdentity
  have home : (Moment.mk ⟨s, r.world⟩ call).after.session.key = key :=
    identity.key.trans owned.home
  have grown := (Moment.mk ⟨s, r.world⟩ call).next_after
  refine ⟨fun other id mem => ?_, ?_⟩
  · rcases List.mem_append.mp mem with old | new
    · by_cases same : other = key
      · -- The serial number stays, and the number of the session only grows.
        subst same
        obtain ⟨serial, n, eq, lt, later⟩ := h.entry_spent entry old
        refine ⟨serial, n, eq, Nat.lt_of_lt_of_le lt entry.nextSerial_le, fun t found named => ?_⟩
        rw [find?_shelve _ home, Option.some.injEq] at found
        rw [← found] at named ⊢
        have number := later (identity.serial.symm.trans named)
        exact Nat.lt_of_lt_of_le number (Nat.le_trans (Nat.le_add_right _ _) grown)
      · obtain ⟨serial, n, eq, lt, later⟩ := h.spent other id old
        refine ⟨serial, n, eq, Nat.lt_of_lt_of_le lt entry.nextSerial_le, fun t found => ?_⟩
        rw [find?_shelve_of_ne _ home same] at found
        exact later t found
    · -- The new id has the number that the call has just used up.
      obtain ⟨issuedId, given, eq⟩ := List.mem_map.mp new
      cases eq
      rw [Option.mem_toList] at given
      have isNext := Moment.issued_eq given
      rw [given] at grown
      refine ⟨s.serial, s.requests.next, ?_, owned.serial, fun t found _ => ?_⟩
      · exact isNext.trans (congrArg (Requests.idAt · s.requests.next) owned.mark)
      · rw [find?_shelve _ home, Option.some.injEq] at found
        rw [← found]
        exact grown
  · intro differ
    have before : r.MarksDiffer := differ.of_le entry.nextSerial_le rfl
    rw [List.nodup_append]
    refine ⟨h.distinct before, ?_, fun old oldMem new newMem same => ?_⟩
    · cases (Moment.mk ⟨s, r.world⟩ call).issued? <;> simp
    · obtain ⟨issuedId, given, rfl⟩ := List.mem_map.mp newMem
      rw [Option.mem_toList] at given
      rw [same, Moment.issued_eq given] at oldMem
      exact h.next_fresh sound entry differ oldMem

end Numbered

theorem Touch.numbered {cause : Operation} {r r' : Registry σ}
    {ids issued : List (String × String)} (touch : Touch cause r ids r') (sound : Sound r)
    (h : Numbered issued r) : Numbered (issued ++ ids) r' := by
  cases touch with
  | listen =>
    rw [List.append_nil]
    exact h.mono (Nat.le_refl _) rfl fun _ _ found => found
  | call entry call => exact h.call sound entry call
  | @retire key s found =>
    rw [List.append_nil]
    have le : r.nextSerial ≤ (r.takeOut key).2.nextSerial := by
      rw [takeOut_eq found]
      exact Nat.le_refl _
    have marks : (r.takeOut key).2.marks = r.marks := by
      rw [takeOut_eq found]
      rfl
    refine h.mono le marks fun other t foundOther => ?_
    by_cases same : other = key
    · subst same
      rw [find?_takeOut] at foundOther
      cases foundOther
    · rwa [find?_takeOut_of_ne r same] at foundOther

theorem Touches.numbered {cause : Operation} {r r' : Registry σ}
    {ids issued : List (String × String)} (touches : Touches cause r ids r') (sound : Sound r)
    (h : Numbered issued r) :
    Numbered (issued ++ ids) r' := by
  induction touches with
  | refl => rw [List.append_nil]; exact h
  | tail touches touch ih =>
    rw [← List.append_assoc]
    exact touch.numbered (touches.sound sound) ih

/-! ## Histories -/

namespace History

/-- The ids that a history gave out, with their keys. -/
def issued (ts : List (Turn σ)) : List (String × String) := ts.flatMap Turn.issued

/-- What sessions did in a history, with their keys. -/
def acts (ts : List (Turn σ)) : List (String × Act) := ts.flatMap Turn.acts

variable {ts : List (Turn σ)} {r : Registry σ}

theorem numbered (h : History ts r) : Numbered (issued ts) r := by
  induction h with
  | begin world defaults marks => exact ⟨nofun, fun _ => List.nodup_nil⟩
  | turn h operation ih =>
    have longer := (touches_operate _ operation).numbered h.sound ih
    unfold issued at longer ⊢
    rw [List.flatMap_append, List.flatMap_singleton]
    exact longer
  | drainActs _ ih => exact ih.mono (Nat.le_refl _) rfl fun _ _ found => found
  | drainNotices _ ih => exact ih.mono (Nat.le_refl _) rfl fun _ _ found => found
  | world _ _ ih => exact ih.mono (Nat.le_refl _) rfl fun _ _ found => found

theorem balance (h : History ts r) (key : String) : (under key (issued ts)).Perm
    (r.outstanding key ++ settledIds (under key (acts ts))) := by
  induction h with
  | begin world defaults marks => exact .refl _
  | turn h operation ih =>
    have exchanged := Turn.exchange (t := ⟨_, operation⟩) h.sound
    unfold issued acts at ih ⊢
    rw [List.flatMap_append, List.flatMap_append, List.flatMap_singleton, List.flatMap_singleton,
      under_append, under_append, settledIds_append]
    exact perm_carry ih (exchanged.balance key)
  | drainActs _ ih => exact ih
  | drainNotices _ ih => exact ih
  | world _ _ ih => exact ih

theorem turns (h : History ts r) (key : String) :
    Turns none (under key (acts ts)) (r.held key) := by
  induction h with
  | begin world defaults marks => rfl
  | turn h operation ih =>
    have exchanged := Turn.exchange (t := ⟨_, operation⟩) h.sound
    unfold acts at ih ⊢
    rw [List.flatMap_append, List.flatMap_singleton, under_append]
    exact ih.trans (exchanged.turns key)
  | drainActs _ ih => exact ih
  | drainNotices _ ih => exact ih
  | world _ _ ih => exact ih

theorem once (h : History ts r) (differ : r.MarksDiffer) (key : String) :
    (r.outstanding key ++ settledIds (under key (acts ts))).Nodup :=
  (h.balance key).nodup_iff.mp (nodup_under (h.numbered.distinct differ))

end History

/-! ## Operations that end sessions -/

/-- The operation ends what is under a key: it removes it, replaces it, disconnects it or shuts the
registry down. -/
def Ends (r : Registry σ) (key : String) : Operation → Prop
  | .remove k | .disconnect k => k = key
  | .shutdown => True
  | .connect k target _ _ => k = key ∧
    ∀ s, KeyMap.find? key r.sessions = some s → ¬ (s.target = target ∧ s.state.isActive = true)
  | _ => False

theorem find?_remove (r : Registry σ) (key : String) :
    KeyMap.find? key (r.remove key).2.sessions = none := by
  unfold remove
  split
  · exact find?_takeOut _ key
  · next absent =>
    exact KeyMap.find?_eq_none_iff.mpr fun mem => absent (KeyMap.contains_iff.mpr mem)

theorem find?_remove_of_none {r : Registry σ} {key : String}
    (h : KeyMap.find? key r.sessions = none) (other : String) :
    KeyMap.find? key (r.remove other).2.sessions = none := by
  by_cases same : key = other
  · subst same
    exact find?_remove r key
  · unfold remove
    split
    · rw [find?_takeOut_of_ne _ same]
      exact h
    · exact h

/-- A shutdown leaves no key behind, by induction on the keys that are still to be removed. -/
theorem find?_shutdown (r : Registry σ) (key : String) :
    KeyMap.find? key r.shutdown.sessions = none := by
  have cleared (keys : List String) (r : Registry σ)
      (h : KeyMap.find? key r.sessions = none ∨ key ∈ keys) :
      KeyMap.find? key (keys.foldl (fun r key => (r.remove key).2) r).sessions = none := by
    induction keys generalizing r with
    | nil => exact h.resolve_right nofun
    | cons first rest ih =>
      refine ih _ ?_
      rcases h with gone | mem
      · exact .inl (find?_remove_of_none gone first)
      · rcases List.mem_cons.mp mem with rfl | later
        · exact .inl (find?_remove r key)
        · exact .inr later
  refine cleared _ r ?_
  cases found : KeyMap.find? key r.sessions with
  | none => exact .inl rfl
  | some s => exact .inr (KeyMap.mem_keys_of_find? found)

theorem sessions_shutdown (r : Registry σ) : r.shutdown.sessions = [] := by
  rw [← List.map_eq_nil_iff (f := Prod.fst), List.eq_nil_iff_forall_not_mem]
  exact fun key => KeyMap.find?_eq_none_iff.mp (find?_shutdown r key)

theorem outstanding_disconnect {r : Registry σ} (h : Sound r) (key : String) :
    (r.disconnect key).2.outstanding key = [] := by
  unfold disconnect
  cases found : KeyMap.find? key r.sessions with
  | none =>
    rw [onSession_of_unknown found]
    exact outstanding_of_none found
  | some s =>
    have owned := h.owned found
    have rest : Session.Resting (Moment.mk ⟨s, r.world⟩ .disconnect).after.session :=
      Station.resting_disconnected owned.inPhase
    rw [onSession_of_known found]
    exact (outstanding_of_find? (find?_shelve r (owned.call r.world .disconnect).home)).trans
      (congrArg KeyMap.keys rest.requests)

/-- A session that starts has nothing outstanding, also after its first attempt. -/
theorem outstanding_connectWith {r : Registry σ} (h : Sound r) {key : String} {target : Target}
    (replaced : ∀ s, KeyMap.find? key r.sessions = some s →
      ¬ (s.target = target ∧ s.state.isActive = true))
    (config : SessionConfig) (now : Instant) :
    (r.connectWith key target config now).2.outstanding key = [] := by
  have start : (KeyMap.find? key r.sessions).filter
      (fun s => s.target = target ∧ s.state.isActive) = none := by
    cases found : KeyMap.find? key r.sessions with
    | none => rfl
    | some s => simpa using replaced s found
  have retiring : Touches (.remove key) r [] (r.takeOut key).2 := touches_takeOut r key
  have sound := retiring.sound h
  have entry := Entry.fresh (find?_takeOut r key) target config
  have exchanged := exchange_call sound entry (.connect now)
  have balance := exchanged.balance key
  rw [outstanding_of_none (find?_takeOut r key), List.append_nil,
    issued?_of_not_request rfl] at balance
  unfold connectWith
  rw [start]
  exact List.append_eq_nil_iff.mp (List.perm_nil.mp balance) |>.1

theorem outstanding_of_ends {r : Registry σ} (h : Sound r) {key : String} {operation : Operation}
    (ends : r.Ends key operation) : (r.operate operation).outstanding key = [] := by
  cases operation with
  | remove k =>
    cases ends
    exact outstanding_of_none (find?_remove r key)
  | disconnect k =>
    cases ends
    exact outstanding_disconnect h key
  | shutdown => exact outstanding_of_none (find?_shutdown r key)
  | connect k target config now =>
    obtain ⟨rfl, replaced⟩ := ends
    exact outstanding_connectWith h replaced _ now
  | _ => cases ends

/-- The books of a history as its owner reads them. -/
structure Accounted (ts : List (Turn σ)) (r : Registry σ) : Prop where
  /-- The ids given out under a key are those outstanding and those settled there. -/
  balance : ∀ key, (under key (History.issued ts)).Perm
    (r.outstanding key ++ settledIds (under key (History.acts ts)))
  /-- If the marks of the sessions differ, no id is outstanding and settled, or settled twice. -/
  once : r.MarksDiffer → ∀ key,
    (r.outstanding key ++ settledIds (under key (History.acts ts))).Nodup
  /-- After an operation that ends what is under a key, every id given out there is settled. -/
  ended : ∀ key operation, r.Ends key operation → (under key (History.issued ts)).Perm
    (settledIds (under key (History.acts (ts ++ [⟨r, operation⟩]))))

theorem issuedBy_of_ends {r : Registry σ} {key : String} {operation : Operation}
    (ends : r.Ends key operation) : r.issuedBy operation = [] := by
  cases operation <;> first | rfl | cases ends

theorem History.accounted {ts : List (Turn σ)} {r : Registry σ} (h : History ts r) :
    Accounted ts r where
  balance := h.balance
  once := h.once
  ended key operation ends := by
    have balance := (h.turn operation).balance key
    rw [outstanding_of_ends h.sound ends, List.nil_append] at balance
    unfold issued at balance ⊢
    rw [List.flatMap_append, List.flatMap_singleton, Turn.issued, issuedBy_of_ends ends,
      List.append_nil] at balance
    exact balance

end Registry

/-- Requests are accounted for, in every run of a session and in every history of a registry. -/
theorem requests_accounted {σ : Type} [Environment σ] {key : String} {target : Target}
    {config : SessionConfig} {generation serial : Nat} {mark : String} {ms : List (Moment σ)}
    {c : Station σ}
    (run : Run (.create key target config generation serial mark) ms c)
    {ts : List (Registry.Turn σ)} {r : Registry σ} (history : Registry.History ts r) :
    Accounted ms c ∧ Registry.Accounted ts r :=
  ⟨run.accounted, history.accounted⟩

/-- A request that is still held back when its session is torn down, by a caller of the session and
by a removal. -/
theorem requests_accounted_torn_down :
    ∃ (ms : List (Moment ScriptedNetwork)) (c : Station ScriptedNetwork)
      (ts : List (Registry.Turn ScriptedNetwork)) (r : Registry ScriptedNetwork),
      Run (.create "k" default {} 0 1 "s0000001") ms c ∧ Registry.History ts r ∧
        Run.issued ms = ["s0000001-1"] ∧
        (Run.outcomes ms).map Outcome.requestId = ["s0000001-1"] ∧
        Registry.History.issued ts = [("k", "s0000001-1")] ∧
        settledIds (under "k" (Registry.History.acts ts)) = ["s0000001-1"] ∧
        r.MarksDiffer ∧ Accounted ms c ∧ Registry.Accounted ts r :=
  have begun : Run (.create "k" default {} 0 1 "s0000001") [] ⟨_, ({} : ScriptedNetwork)⟩ :=
    .begin _
  have run := ((begun.call (.connect ⟨0⟩)).call (.request 0x30 [] none ⟨0⟩)).call .disconnect
  have opened : Registry.History [] _ := .begin ({} : ScriptedNetwork) {} scriptedMark
  have history := ((opened.turn (.connect "k" default none ⟨0⟩)).turn
    (.request "k" 0x30 [] none ⟨0⟩)).turn (.remove "k")
  ⟨_, _, _, _, run, history, by decide, by decide, by decide, by decide,
    fun _ _ _ _ same => scriptedMark_inj.mp same, requests_accounted run history⟩

end Switchboard
