import Switchboard.Proofs.Registry.Accounts
/-!
# Who comes after whom

Under a key there is one session or none. An operation leaves what is there alone, or makes one call
of the session, or closes it and takes it out, or starts a new one, after closing the one that was
there (`Registry.succession`). Whatever it does, what it publishes under the key is what those calls
did.
-/

namespace Switchboard

namespace Registry

variable {σ : Type} {r r' r'' : Registry σ} {key : String} {acts more : List Act}

/-- A session under the key is active against the target, so that a caller who connects to the
target is content with it. -/
def reuses (r : Registry σ) (key : String) (target : Target) : Bool :=
  ((KeyMap.find? key r.sessions).filter fun s => s.target = target ∧ s.state.isActive).isSome

/-- The operation makes a call of the session under a key. -/
inductive Operation.Asks : Operation → String → Switchboard.Call → Prop
  | disconnect (key : String) : Asks (.disconnect key) key .disconnect
  | authenticate (key : String) (credentials : Json) :
      Asks (.authenticate key credentials) key (.authenticate credentials)
  | send (key : String) (code : UInt8) (header : Except String Json) (payload : Option Bytes) :
      Asks (.send key code header payload) key (.send code header payload)
  | sendMessage (key : String) (message : Message) (payload : Option Bytes) :
      Asks (.sendMessage key message payload) key (.sendMessage message payload)
  | request (key : String) (code : UInt8) (header : Header) (payload : Option Bytes)
      (now : Instant) : Asks (.request key code header payload now) key
        (.request code header payload now)
  | event (id : ConnectionId) (event : TransportEvent) (now : Instant) :
      Asks (.handleTransportEvent id event now) id.key (.handleEvent id event now)
  | poll (key : String) (now : Instant) : Asks (.pollTimers now) key (.pollTimers now)

/-- The operation takes out what is under a key. -/
def Operation.Removes (key : String) : Operation → Prop
  | .remove k => k = key
  | .shutdown => True
  | _ => False

/-! ## What is published under a key -/

/-- Between two registries, `acts` were published under a key. -/
def Publishes (key : String) (r : Registry σ) (acts : List Act) (r' : Registry σ) : Prop :=
  ∃ published, r'.acts = r.acts ++ published ∧ under key published = acts

namespace Publishes

theorem nothing (same : r'.acts = r.acts) : Publishes key r [] r' :=
  ⟨[], by rw [same, List.append_nil], rfl⟩

theorem own (published : r'.acts = r.acts ++ acts.map (key, ·)) : Publishes key r acts r' :=
  ⟨_, published, under_map_self key acts⟩

theorem other {elsewhere : String} (ne : elsewhere ≠ key)
    (published : r'.acts = r.acts ++ acts.map (elsewhere, ·)) : Publishes key r [] r' :=
  ⟨_, published, under_map_of_ne ne acts⟩

theorem trans (h : Publishes key r acts r') (k : Publishes key r' more r'') :
    Publishes key r (acts ++ more) r'' := by
  obtain ⟨published, first, rfl⟩ := h
  obtain ⟨later, second, rfl⟩ := k
  exact ⟨published ++ later, by rw [second, first, List.append_assoc], under_append _ _⟩

end Publishes

/-- Nothing has happened under a key. -/
structure Untouched (key : String) (r r' : Registry σ) : Prop where
  session : KeyMap.find? key r'.sessions = KeyMap.find? key r.sessions
  generation : r'.generationOf key = r.generationOf key
  acts : Publishes key r [] r'

namespace Untouched

theorem refl (key : String) (r : Registry σ) : Untouched key r r := ⟨rfl, rfl, .nothing rfl⟩

theorem trans (h : Untouched key r r') (k : Untouched key r' r'') : Untouched key r r'' :=
  ⟨k.session.trans h.session, k.generation.trans h.generation, h.acts.trans k.acts⟩

end Untouched

/-- Steps on distinct keys, each of which leaves the other keys alone: one key sees nothing of them
but its own. -/
theorem foldl_alone {Good : Registry σ → Prop} {Same : Registry σ → Registry σ → Prop}
    (refl : ∀ r, Same r r) (trans : ∀ {r r' r''}, Same r r' → Same r' r'' → Same r r'')
    {step : Registry σ → String → Registry σ}
    (keeps : ∀ {r other}, Good r → Good (step r other))
    (others : ∀ {r other}, Good r → key ≠ other → Same r (step r other))
    {keys : List String} (distinct : keys.Nodup) (good : Good r) :
    key ∉ keys ∧ Same r (keys.foldl step r) ∨
      key ∈ keys ∧ ∃ b, Good b ∧ Same r b ∧ Same (step b key) (keys.foldl step r) := by
  induction keys generalizing r with
  | nil => exact .inl ⟨List.not_mem_nil, refl r⟩
  | cons first rest ih =>
    obtain ⟨alone, apart⟩ := List.nodup_cons.mp distinct
    rw [List.foldl_cons, List.mem_cons]
    by_cases here : key = first
    · subst here
      rcases ih apart (keeps good) with ⟨-, later⟩ | ⟨again, -⟩
      · exact .inr ⟨.inl rfl, r, good, refl r, later⟩
      · exact absurd again alone
    · have same := others good here
      rcases ih apart (keeps good) with ⟨absent, later⟩ | ⟨mem, b, goodToo, early, later⟩
      · exact .inl ⟨fun mem => mem.elim here absent, trans same later⟩
      · exact .inr ⟨.inr mem, b, goodToo, trans same early, later⟩

variable [Environment σ]

theorem Sound.takeOut (h : Sound r) (key : String) : Sound (r.takeOut key).2 := by
  have taken : Touches .shutdown r [] (r.takeOut key).2 := touches_takeOut r key
  exact taken.sound h

theorem Sound.remove (h : Sound r) (key : String) : Sound (r.remove key).2 := by
  have removed : Touches .shutdown r [] (r.remove key).2 := touches_remove r key
  exact removed.sound h

theorem Sound.pollKey (h : Sound r) (now : Instant) (key : String) : Sound (r.pollKey now key) := by
  have polled : Touches (.pollTimers now) r [] (r.pollKey now key) := touches_pollKey r now key
  exact polled.sound h

/-! ## One key at a time -/

/-- The call that the session under a key is asked for. -/
theorem shelved (sound : Sound r) {s : Session} {nextSerial : Nat}
    (entry : Entry r key s nextSerial) (call : Switchboard.Call) :
    KeyMap.find? key ({ r with nextSerial }.shelve (Moment.mk ⟨s, r.world⟩ call).after).sessions =
        some (Moment.mk ⟨s, r.world⟩ call).after.session.drained ∧
      Publishes key r (Moment.mk ⟨s, r.world⟩ call).acts
        ({ r with nextSerial }.shelve (Moment.mk ⟨s, r.world⟩ call).after) ∧
      ∀ other, other ≠ key →
        Untouched other r ({ r with nextSerial }.shelve (Moment.mk ⟨s, r.world⟩ call).after) := by
  have owned := entry.owned sound
  have home : (Moment.mk ⟨s, r.world⟩ call).after.session.key = key :=
    (owned.call r.world call).home
  have published : ({ r with nextSerial }.shelve (Moment.mk ⟨s, r.world⟩ call).after).acts =
      r.acts ++ (Moment.mk ⟨s, r.world⟩ call).acts.map (key, ·) := by
    unfold shelve publish
    rw [owned.journal_after, home]
  exact ⟨find?_shelve _ home, .own published, fun other ne =>
    ⟨find?_shelve_of_ne _ home ne, rfl, .other (Ne.symm ne) published⟩⟩

/-- A session that is taken out is closed, and its last generation is remembered. -/
theorem takenOut (sound : Sound r) {s : Session} (found : KeyMap.find? key r.sessions = some s) :
    (r.takeOut key).2.generationOf key =
        (Moment.mk ⟨s, r.world⟩ .close).after.session.generation ∧
      Publishes key r (Moment.mk ⟨s, r.world⟩ .close).acts (r.takeOut key).2 := by
  have owned := sound.owned found
  have home : (Moment.mk ⟨s, r.world⟩ .close).after.session.key = key :=
    (owned.call r.world .close).home
  rw [takeOut_eq found, home]
  refine ⟨congrArg (Option.getD · 0) (KeyMap.find?_insert_self ..), .own ?_⟩
  unfold publish
  rw [owned.journal_after, home]

theorem untouched_takeOut (sound : Sound r) {other : String} (ne : other ≠ key) :
    Untouched other r (r.takeOut key).2 := by
  cases found : KeyMap.find? key r.sessions with
  | none =>
    unfold takeOut
    rw [found]
    exact .refl other r
  | some s =>
    have owned := sound.owned found
    have home : (Moment.mk ⟨s, r.world⟩ .close).after.session.key = key :=
      (owned.call r.world .close).home
    refine ⟨find?_takeOut_of_ne r ne, ?_, ?_⟩
    · rw [takeOut_eq found, home]
      exact congrArg (Option.getD · 0) (KeyMap.find?_insert_of_ne ne ..)
    · have published : (r.takeOut key).2.acts =
          r.acts ++ (Moment.mk ⟨s, r.world⟩ .close).acts.map (key, ·) := by
        rw [takeOut_eq found]
        unfold publish
        rw [owned.journal_after, home]
      exact .other (Ne.symm ne) published

theorem untouched_remove (sound : Sound r) {other : String} (ne : other ≠ key) :
    Untouched other r (r.remove key).2 := by
  unfold remove
  split
  · have listens : Touch .shutdown r []
        { r with dataListeners := KeyMap.erase key r.dataListeners } := .listen _ _ _
    have taken := untouched_takeOut (listens.sound sound) ne
    exact ⟨taken.session, taken.generation, taken.acts⟩
  · exact .refl other r

theorem untouched_onSession {α : Type} (sound : Sound r) {other : String} (ne : other ≠ key)
    {step : Station σ → Except Error α × Station σ} (call : Switchboard.Call)
    (same : ∀ c, (step c).2 = (c.perform call).2) :
    Untouched other r (r.onSession key step).2 := by
  cases found : KeyMap.find? key r.sessions with
  | none =>
    rw [onSession_of_unknown found]
    exact .refl other r
  | some s =>
    rw [onSession_of_known found, same]
    exact (shelved sound (.found found) call).2.2 other ne

/-! ## Successions -/

/-- What becomes of the session under a key in an operation, and what it does meanwhile. -/
inductive Succession (cause : Operation) (r : Registry σ) (key : String) (r' : Registry σ) :
    List Act → Prop
  | kept (session : KeyMap.find? key r'.sessions = KeyMap.find? key r.sessions)
      (generation : r'.generationOf key = r.generationOf key) : Succession cause r key r' []
  | called {s : Session} (found : KeyMap.find? key r.sessions = some s) {call : Switchboard.Call}
      (asks : cause.Asks key call) (world : σ)
      (after : KeyMap.find? key r'.sessions =
        some (Moment.mk ⟨s, world⟩ call).after.session.drained) :
      Succession cause r key r' (Moment.mk ⟨s, world⟩ call).acts
  | removed {s : Session} (found : KeyMap.find? key r.sessions = some s)
      (removes : cause.Removes key) (world : σ) (after : KeyMap.find? key r'.sessions = none)
      (generation : r'.generationOf key =
        (Moment.mk ⟨s, world⟩ .close).after.session.generation) :
      Succession cause r key r' (Moment.mk ⟨s, world⟩ .close).acts
  | begun (vacant : KeyMap.find? key r.sessions = none) {target : Target}
      {config : Option SessionConfig} {now : Instant}
      (connects : cause = .connect key target config now) (world : σ)
      (after : KeyMap.find? key r'.sessions = some (Moment.mk
        ⟨r.newSession key target (config.getD r.defaults) (r.generationOf key), world⟩
        (.connect now)).after.session.drained) :
      Succession cause r key r' (Moment.mk
        ⟨r.newSession key target (config.getD r.defaults) (r.generationOf key), world⟩
        (.connect now)).acts
  | replaced {s : Session} (found : KeyMap.find? key r.sessions = some s) {target : Target}
      {config : Option SessionConfig} {now : Instant}
      (connects : cause = .connect key target config now) (spent : r.reuses key target = false)
      {generation : Nat} (world worldToo : σ)
      (last : generation = (Moment.mk ⟨s, world⟩ .close).after.session.generation)
      (after : KeyMap.find? key r'.sessions = some (Moment.mk
        ⟨r.newSession key target (config.getD r.defaults) generation, worldToo⟩
        (.connect now)).after.session.drained) :
      Succession cause r key r' ((Moment.mk ⟨s, world⟩ .close).acts ++
        (Moment.mk ⟨r.newSession key target (config.getD r.defaults) generation, worldToo⟩
          (.connect now)).acts)

variable {cause : Operation}

/-- The session under a key goes on in some way, and publishes what it did. -/
def Succeeds (cause : Operation) (r : Registry σ) (key : String) (r' : Registry σ) : Prop :=
  ∃ acts, Publishes key r acts r' ∧ Succession cause r key r' acts

theorem Untouched.succeeds (h : Untouched key r r') : Succeeds cause r key r' :=
  ⟨[], h.acts, .kept h.session h.generation⟩

theorem succeeds_onSession {α : Type} (sound : Sound r) {other : String}
    {step : Station σ → Except Error α × Station σ} {call : Switchboard.Call}
    (asks : cause.Asks other call) (same : ∀ c, (step c).2 = (c.perform call).2) :
    Succeeds cause r key (r.onSession other step).2 := by
  by_cases here : key = other
  · subst here
    cases found : KeyMap.find? key r.sessions with
    | none =>
      rw [onSession_of_unknown found]
      exact (Untouched.refl key r).succeeds
    | some s =>
      obtain ⟨after, acts, -⟩ := shelved sound (.found found) call
      rw [onSession_of_known found, same]
      exact ⟨_, acts, .called found asks r.world after⟩
  · exact (untouched_onSession sound here call same).succeeds

theorem succeeds_remove (sound : Sound r) {other : String} (removes : cause.Removes other) :
    Succeeds cause r key (r.remove other).2 := by
  by_cases here : key = other
  · subst here
    unfold remove
    split
    · next present =>
      obtain ⟨s, found⟩ := Option.isSome_iff_exists.mp present
      have listens : Touch .shutdown r []
          { r with dataListeners := KeyMap.erase key r.dataListeners } := .listen _ _ _
      obtain ⟨generation, acts⟩ := takenOut (listens.sound sound) found
      exact ⟨_, acts, .removed found removes r.world (find?_takeOut _ key) generation⟩
    · exact (Untouched.refl key r).succeeds
  · exact (untouched_remove sound here).succeeds

/-- What happens before and after to other keys only makes no difference. -/
theorem Succeeds.between {b b' : Registry σ} (early : Untouched key r b)
    (h : Succeeds cause b key b') (late : Untouched key b' r')
    (quiet : ∀ target config now, cause ≠ .connect key target config now) :
    Succeeds cause r key r' := by
  obtain ⟨acts, published, succession⟩ := h
  have published : Publishes key r acts r' := by
    have all := (early.acts.trans published).trans late.acts
    rwa [List.nil_append, List.append_nil] at all
  refine ⟨acts, published, ?_⟩
  cases succession with
  | kept session generation =>
    exact .kept (late.session.trans (session.trans early.session))
      (late.generation.trans (generation.trans early.generation))
  | called found asks world after =>
    exact .called (early.session.symm.trans found) asks world (late.session.trans after)
  | removed found removes world after generation =>
    exact .removed (early.session.symm.trans found) removes world (late.session.trans after)
      (late.generation.trans generation)
  | begun _ connects => exact absurd connects (quiet _ _ _)
  | replaced _ connects => exact absurd connects (quiet _ _ _)

theorem succeeds_shutdown (sound : Sound r) : Succeeds .shutdown r key r.shutdown := by
  rcases foldl_alone (Untouched.refl key) .trans (fun sound => sound.remove _)
    (fun sound ne => untouched_remove sound ne) (KeyMap.nodup_keys sound.sorted) sound with
    ⟨-, same⟩ | ⟨-, b, soundToo, early, late⟩
  · exact same.succeeds
  · exact .between early (succeeds_remove soundToo trivial) late nofun

theorem nodup_dueKeys (sound : Sound r) (now : Instant) : (r.dueKeys now).Nodup :=
  (List.filter_sublist.map Prod.fst).nodup (KeyMap.nodup_keys sound.sorted)

theorem succeeds_pollTimers (sound : Sound r) (now : Instant) :
    Succeeds (.pollTimers now) r key (r.pollTimers now) := by
  have others {b : Registry σ} {other : String} (sound : Sound b) (ne : key ≠ other) :
      Untouched key b (b.pollKey now other) :=
    untouched_onSession sound ne (.pollTimers now) fun _ => rfl
  rcases foldl_alone (Untouched.refl key) .trans (fun sound => sound.pollKey now _) others
    (nodup_dueKeys sound now) sound with ⟨-, same⟩ | ⟨-, b, soundToo, early, late⟩
  · exact same.succeeds
  · have polled : Succeeds (.pollTimers now) b key (b.pollKey now key) :=
      succeeds_onSession soundToo (.poll key now) fun _ => rfl
    exact .between early polled late nofun

theorem nextSerial_takeOut (r : Registry σ) (key : String) :
    (r.takeOut key).2.nextSerial = r.nextSerial := by
  cases found : KeyMap.find? key r.sessions with
  | none => unfold takeOut; rw [found]
  | some s => rw [takeOut_eq found]; rfl

theorem newSession_takeOut (r : Registry σ) (key other : String) (target : Target)
    (config : SessionConfig) (generation : Nat) :
    (r.takeOut key).2.newSession other target config generation =
      r.newSession other target config generation := by
  cases found : KeyMap.find? key r.sessions with
  | none => unfold takeOut; rw [found]
  | some s => rw [takeOut_eq found]; rfl

theorem connectWith_of_reuses {target : Target} (content : r.reuses key target = true)
    (config : SessionConfig) (now : Instant) : (r.connectWith key target config now).2 = r := by
  obtain ⟨s, found⟩ := Option.isSome_iff_exists.mp content
  unfold connectWith
  rw [found]

theorem connectWith_of_spent {target : Target} (spent : r.reuses key target = false)
    (config : SessionConfig) (now : Instant) : (r.connectWith key target config now).2 =
      ({ (r.takeOut key).2 with nextSerial := (r.takeOut key).2.nextSerial + 1 } :
        Registry σ).shelve (Moment.mk
          ⟨(r.takeOut key).2.newSession key target config ((r.takeOut key).2.generationOf key),
            (r.takeOut key).2.world⟩ (.connect now)).after := by
  have none : ((KeyMap.find? key r.sessions).filter
      fun s => s.target = target ∧ s.state.isActive) = none :=
    Option.not_isSome_iff_eq_none.mp fun some => Bool.false_ne_true (spent.symm.trans some)
  unfold connectWith
  rw [none]
  rfl

theorem succeeds_connect (sound : Sound r) (other : String) (target : Target)
    (config : Option SessionConfig) (now : Instant) :
    Succeeds (.connect other target config now) r key
      (r.connectWith other target (config.getD r.defaults) now).2 := by
  cases spent : r.reuses other target with
  | true =>
    rw [connectWith_of_reuses spent]
    exact (Untouched.refl key r).succeeds
  | false =>
    have soundToo := sound.takeOut other
    obtain ⟨after, acts, others⟩ := shelved soundToo
      (.fresh (find?_takeOut r other) target (config.getD r.defaults)) (.connect now)
    rw [connectWith_of_spent spent]
    by_cases here : key = other
    · subst here
      cases found : KeyMap.find? key r.sessions with
      | none =>
        have same : (r.takeOut key).2 = r := by
          unfold takeOut
          rw [found]
        rw [same] at after acts ⊢
        exact ⟨_, acts, .begun found rfl r.world after⟩
      | some s =>
        obtain ⟨generation, closing⟩ := takenOut sound found
        rw [nextSerial_takeOut, newSession_takeOut] at after acts ⊢
        exact ⟨_, closing.trans acts, .replaced found rfl spent _ _ generation after⟩
    · exact ((untouched_takeOut sound here).trans (others key here)).succeeds

/-- What an operation may do to the session under a key, whatever the operation. -/
theorem succession (sound : Sound r) (cause : Operation) (key : String) :
    Succeeds cause r key (r.operate cause) := by
  cases cause with
  | connect other target config now => exact succeeds_connect sound other target config now
  | disconnect other => exact succeeds_onSession sound (.disconnect other) fun _ => rfl
  | remove other => exact succeeds_remove sound rfl
  | shutdown => exact succeeds_shutdown sound
  | authenticate other credentials =>
    exact succeeds_onSession sound (.authenticate other credentials) fun _ => rfl
  | send other code header payload =>
    exact succeeds_onSession sound (.send other code header payload) fun _ => rfl
  | sendMessage other message payload =>
    exact succeeds_onSession sound (.sendMessage other message payload) fun _ => rfl
  | request other code header payload now =>
    exact succeeds_onSession sound (.request other code header payload now) fun _ => rfl
  | handleTransportEvent id event now =>
    exact succeeds_onSession sound (.event id event now) fun _ => rfl
  | pollTimers now => exact succeeds_pollTimers sound now
  | subscribe other filter => exact Untouched.succeeds ⟨rfl, rfl, .nothing rfl⟩
  | subscribeStatus => exact Untouched.succeeds ⟨rfl, rfl, .nothing rfl⟩
  | unsubscribe handle => exact Untouched.succeeds ⟨rfl, rfl, .nothing rfl⟩

theorem Turn.succession {t : Turn σ} (sound : Sound t.before) (key : String) :
    Succession t.operation t.before key t.after (under key t.acts) := by
  obtain ⟨acts, ⟨published, all, rfl⟩, succession⟩ := Registry.succession sound t.operation key
  have same : t.acts = published := by
    unfold Turn.acts Turn.after
    rw [all, List.drop_left]
  rw [same]
  exact succession

end Registry

end Switchboard
