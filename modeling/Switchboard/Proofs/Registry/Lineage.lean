import Switchboard.Proofs.Registry.Identities
import Switchboard.Proofs.Session.Provenance
/-!
# The sessions under a key, one after the other

Under a key sessions come one after the other: each lives from its creation to the call that closes
it, and the next one is created after that. A `Life` is one of them, with all calls that it made.
The lives under a key, in the order in which their sessions were created, did exactly what was
published under the key (`Lineage`, `History.lineage`): an operation lets the present session make
one call, or closes it, or begins a new one after closing it.
-/

namespace Switchboard

/-- A session with its calls so far, and where they have led to. -/
structure Life (σ : Type) where
  serial : Nat
  moments : List (Moment σ)
  station : Station σ

namespace Life

variable {σ : Type}

def session (l : Life σ) : Session := l.station.session

variable [Environment σ]

/-- All that the session did, in order. -/
def acts (l : Life σ) : List Act := l.moments.flatMap Moment.acts

/-- The states that the session entered, in order. -/
def statuses (l : Life σ) : List StatusEvent := Switchboard.statuses l.acts

/-- The ends of the session's requests, in order. -/
def outcomes (l : Life σ) : List Outcome := l.acts.filterMap Act.outcome?

/-- One more call, after which the journal is taken. -/
def call (l : Life σ) (world : σ) (call : Call) : Life σ where
  serial := l.serial
  moments := l.moments ++ [⟨⟨l.session, world⟩, call⟩]
  station := (Moment.mk ⟨l.session, world⟩ call).after.modify Session.drained

/-- A life that starts with a call. -/
def start (serial : Nat) (m : Moment σ) : Life σ where
  serial := serial
  moments := [m]
  station := m.after.modify Session.drained

/-- The life is a run of a session that was created under the key. -/
def Genuine (key : String) (l : Life σ) : Prop :=
  ∃ target config generation mark,
    Run (.create key target config generation l.serial mark) l.moments l.station

/-- The last call closed the session. -/
def Closed (l : Life σ) : Prop := ∃ m, l.moments.getLast? = some m ∧ m.call = .close

variable {key : String} {l : Life σ}

theorem acts_call (l : Life σ) (world : σ) (call : Call) :
    (l.call world call).acts = l.acts ++ (Moment.mk ⟨l.session, world⟩ call).acts := by
  simp [acts, Life.call]

theorem acts_start (serial : Nat) (m : Moment σ) : (start serial m).acts = m.acts := by
  simp [acts, start]

theorem closed_call_close (l : Life σ) (world : σ) : (l.call world .close).Closed :=
  ⟨_, List.getLast?_concat, rfl⟩

theorem Genuine.call (h : l.Genuine key) (world : σ) (call : Call) :
    (l.call world call).Genuine key := by
  obtain ⟨target, config, generation, mark, run⟩ := h
  exact ⟨target, config, generation, mark, ((run.world world).call call).drain⟩

theorem genuine_start {serial : Nat} {m : Moment σ} {target : Target} {config : SessionConfig}
    {generation : Nat} {mark : String}
    (fresh : m.before.session = .create key target config generation serial mark) :
    (start serial m).Genuine key := by
  obtain ⟨⟨s, world⟩, call⟩ := m
  cases fresh
  exact ⟨target, config, generation, mark, ((Run.begin world).call call).drain⟩

/-- A session tells of states under its key. -/
theorem Genuine.named (h : l.Genuine key) {event : StatusEvent} (mem : event ∈ l.statuses) :
    event.key = key := by
  obtain ⟨_, _, _, _, run⟩ := h
  unfold statuses Switchboard.statuses acts at mem
  rw [List.filterMap_flatMap] at mem
  obtain ⟨m, here, told⟩ := List.mem_flatMap.mp mem
  obtain ⟨earlier, before⟩ := run.until_mem here
  rw [(m.named told).1]
  exact before.sameIdentity.key

end Life

/-! ## Lives under a key -/

variable {σ : Type}

namespace Registry

variable {r : Registry σ} {key : String}

theorem created_of_connect {target : Target} (spent : r.reuses key target = false)
    (config : Option SessionConfig) (now : Instant) :
    under key (r.created (.connect key target config now)) = [r.nextSerial] := by
  rw [created_of_spent spent]
  exact under_map_self key [r.nextSerial]

theorem History.created_concat (ts : List (Turn σ)) (t : Turn σ) :
    under key (created (ts ++ [t])) = under key (created ts) ++ under key t.created := by
  unfold created
  rw [List.flatMap_append, List.flatMap_singleton, under_append]

end Registry

variable [Environment σ]

/-- The lives under a key: those that are over and the one of the registered session, if there is
one. Their sessions bear the given numbers, in order, and did the given acts. -/
structure Lineage (key : String) (serials : List Nat) (acts : List Act) (gone : List (Life σ))
    (present : Option (Life σ)) : Prop where
  genuine : ∀ l ∈ gone ++ present.toList, l.Genuine key
  closed : ∀ l ∈ gone, l.Closed
  born : (gone ++ present.toList).map Life.serial = serials
  told : (gone ++ present.toList).flatMap Life.acts = acts

namespace Lineage

variable {key : String} {serials : List Nat} {acts : List Act} {gone : List (Life σ)} {l : Life σ}

theorem call (h : Lineage key serials acts gone (some l)) (world : σ) (call : Call) :
    Lineage key serials (acts ++ (Moment.mk ⟨l.session, world⟩ call).acts) gone
      (some (l.call world call)) where
  genuine := by
    have last : l.Genuine key := h.genuine l (by simp)
    intro life mem
    rcases List.mem_append.mp mem with early | here
    · exact h.genuine life (List.mem_append_left _ early)
    · cases List.mem_singleton.mp here
      exact last.call world call
  closed := h.closed
  born := by
    rw [← h.born]
    simp [Life.call]
  told := by
    rw [← h.told]
    simp [Life.acts_call]

theorem close (h : Lineage key serials acts gone (some l)) (world : σ) :
    Lineage key serials (acts ++ (Moment.mk ⟨l.session, world⟩ .close).acts)
      (gone ++ [l.call world .close]) none := by
  have called := h.call world .close
  refine ⟨?_, fun life mem => ?_, ?_, ?_⟩
  · simpa using called.genuine
  · rcases List.mem_append.mp mem with early | here
    · exact h.closed life early
    · cases List.mem_singleton.mp here
      exact l.closed_call_close world
  · simpa using called.born
  · simpa using called.told

theorem begin (h : Lineage key serials acts gone none) {m : Moment σ} {target : Target}
    {config : SessionConfig} {generation serial : Nat} {mark : String}
    (fresh : m.before.session = .create key target config generation serial mark) :
    Lineage key (serials ++ [serial]) (acts ++ m.acts) gone (some (.start serial m)) where
  genuine := by
    intro life mem
    rcases List.mem_append.mp mem with early | here
    · exact h.genuine life (List.mem_append_left _ early)
    · cases List.mem_singleton.mp here
      exact Life.genuine_start fresh
  closed := h.closed
  born := by
    rw [← h.born]
    simp [Life.start]
  told := by
    rw [← h.told]
    simp [Life.acts_start]

end Lineage

namespace Registry

variable {r : Registry σ} {key : String}

/-- An operation creates no session under a key where the one that is registered after it is
older. -/
theorem created_of_older (sound : Sound r) {cause : Operation}
    (older : ∀ s, KeyMap.find? key (r.operate cause).sessions = some s → s.serial < r.nextSerial) :
    under key (r.created cause) = [] := by
  rw [List.eq_nil_iff_forall_not_mem]
  intro serial mem
  have created := mem_under.mp mem
  obtain ⟨s, found, rfl⟩ := registered_of_created sound created
  have lt := older s found
  rw [serial_of_created created] at lt
  exact Nat.lt_irrefl _ lt

theorem History.acts_concat (ts : List (Turn σ)) (t : Turn σ) :
    under key (acts (ts ++ [t])) = under key (acts ts) ++ under key t.acts := by
  unfold acts
  rw [List.flatMap_append, List.flatMap_singleton, under_append]

/-- The lives under a key tell where its sessions and all that was published under it come from. -/
theorem History.lineage {ts : List (Turn σ)} (h : History ts r) (key : String) :
    ∃ (gone : List (Life σ)) (present : Option (Life σ)),
      Lineage key (under key (created ts)) (under key (acts ts)) gone present ∧
        present.map Life.session = KeyMap.find? key r.sessions := by
  induction h with
  | begin world defaults marks =>
    exact ⟨[], none, ⟨List.forall_mem_nil _, List.forall_mem_nil _, rfl, rfl⟩, rfl⟩
  | @turn ts r h operation ih =>
    obtain ⟨gone, present, lineage, registered⟩ := ih
    have succession := Turn.succession (t := ⟨r, operation⟩) h.sound key
    have older (olds : ∀ s, KeyMap.find? key (r.operate operation).sessions = some s →
        s.serial < r.nextSerial) : under key (r.created operation) = [] :=
      created_of_older h.sound olds
    rw [acts_concat, created_concat]
    change ∃ gone present, Lineage key (_ ++ under key (r.created operation)) _ gone present ∧ _
    generalize under key (Turn.mk r operation).acts = acts at succession ⊢
    have alive {s : Session} (found : KeyMap.find? key r.sessions = some s) :
        ∃ l, present = some l ∧ l.session = s := by
      rw [found] at registered
      exact Option.map_eq_some_iff.mp registered
    cases succession with
    | kept session =>
      have unchanged : under key (r.created operation) = [] :=
        older fun s found => (h.sound.owned (session.symm.trans found)).serial
      rw [unchanged, List.append_nil, List.append_nil]
      exact ⟨gone, present, lineage, registered.trans session.symm⟩
    | @called s found call asks world after =>
      obtain ⟨l, rfl, rfl⟩ := alive found
      have serial : (Moment.mk ⟨l.session, world⟩ call).after.session.serial = l.session.serial :=
        (Moment.sameIdentity _).serial
      have unchanged : under key (r.created operation) = [] := by
        refine older fun s foundToo => ?_
        cases after.symm.trans foundToo
        exact serial ▸ (h.sound.owned found).serial
      rw [unchanged, List.append_nil]
      exact ⟨gone, _, lineage.call world call, after.symm⟩
    | removed found removes world after =>
      obtain ⟨l, rfl, rfl⟩ := alive found
      have vacant : under key (r.created operation) = [] := by
        refine older fun s foundToo => ?_
        cases after.symm.trans foundToo
      rw [vacant, List.append_nil]
      exact ⟨_, none, lineage.close world, after.symm⟩
    | begun vacant connects world after =>
      subst connects
      rw [vacant] at registered
      cases Option.map_eq_none_iff.mp registered
      rw [created_of_connect (reuses_of_vacant vacant _)]
      exact ⟨gone, _, lineage.begin rfl, after.symm⟩
    | replaced found connects spent world worldToo last after =>
      subst connects
      obtain ⟨l, rfl, rfl⟩ := alive found
      rw [created_of_connect spent, ← List.append_assoc]
      exact ⟨_, _, (lineage.close world).begin rfl, after.symm⟩
  | drainActs _ ih => exact ih
  | drainNotices _ ih => exact ih
  | world _ _ ih => exact ih

end Registry

end Switchboard
