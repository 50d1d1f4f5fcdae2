import Switchboard.Proofs.Session.Accounts
import Switchboard.Registry.Subscriptions
/-!
# Histories of a registry

A history starts with an empty registry and goes on with operations in any order and with any
arguments; between them the owner may take what was published, and the world may change by itself.

Every operation is a row of `Touch`es: it changes the subscriptions, or runs one call of one session
that is or gets registered, or takes one session out (`touches_operate`). What a touch keeps, every
history keeps. Events reach a session only if the operation brings them.
-/

namespace Switchboard

/-- The call asks for an answer under an id. -/
def Call.isRequest : Call → Bool
  | .request .. => true
  | _ => false

namespace Registry

/-- An operation on a registry, with all that its owner passes in. -/
inductive Operation where
  /-- Connect, with the default settings if none are given. -/
  | connect (key : String) (target : Target) (config : Option SessionConfig) (now : Instant)
  | disconnect (key : String)
  | remove (key : String)
  | shutdown
  | authenticate (key : String) (credentials : Json)
  | send (key : String) (code : UInt8) (header : Except String Json) (payload : Option Bytes)
  | sendMessage (key : String) (message : Message) (payload : Option Bytes)
  | request (key : String) (code : UInt8) (header : Header) (payload : Option Bytes)
      (now : Instant)
  | handleTransportEvent (id : ConnectionId) (event : TransportEvent) (now : Instant)
  | pollTimers (now : Instant)
  | subscribe (key : String) (filter : MessageFilter)
  | subscribeStatus
  | unsubscribe (handle : SubscriptionHandle)

variable {σ : Type}

theorem onSession_of_unknown {α : Type} {r : Registry σ} {key : String}
    (h : KeyMap.find? key r.sessions = none)
    (step : Station σ → Except Error α × Station σ) :
    r.onSession key step = (.error (.sessionNotFound key), r) := by
  unfold onSession
  rw [h]

theorem onSession_of_known {α : Type} {r : Registry σ} {key : String} {s : Session}
    (h : KeyMap.find? key r.sessions = some s)
    (step : Station σ → Except Error α × Station σ) :
    r.onSession key step = ((step ⟨s, r.world⟩).1, r.shelve (step ⟨s, r.world⟩).2) := by
  unfold onSession
  rw [h]

variable [Environment σ]

/-- The registry after an operation. -/
def operate (r : Registry σ) : Operation → Registry σ
  | .connect key target config now => (r.connectWith key target (config.getD r.defaults) now).2
  | .disconnect key => (r.disconnect key).2
  | .remove key => (r.remove key).2
  | .shutdown => r.shutdown
  | .authenticate key credentials => (r.authenticate key credentials).2
  | .send key code header payload => (r.send key code header payload).2
  | .sendMessage key message payload => (r.sendMessage key message payload).2
  | .request key code header payload now => (r.request key code header payload now).2
  | .handleTransportEvent id event now => r.handleTransportEvent id event now
  | .pollTimers now => r.pollTimers now
  | .subscribe key filter => (r.subscribe key filter).2
  | .subscribeStatus => r.subscribeStatus.2
  | .unsubscribe handle => (r.unsubscribe handle).2

/-- The id that an operation gives out, with its key. -/
def issuedBy (r : Registry σ) : Operation → List (String × String)
  | .request key code header payload now =>
    match (r.request key code header payload now).1 with
    | .ok id => [(key, id)]
    | .error _ => []
  | _ => []

/-- One operation of a history. -/
structure Turn (σ : Type) where
  /-- The registry that the operation found. -/
  before : Registry σ
  operation : Operation

namespace Turn

def after (t : Turn σ) : Registry σ := t.before.operate t.operation

/-- What sessions did during the operation. -/
def acts (t : Turn σ) : List (String × Act) := t.after.acts.drop t.before.acts.length

/-- The id that the operation gave out, if it did. -/
def issued (t : Turn σ) : List (String × String) := t.before.issuedBy t.operation

end Turn

/-- The histories of a registry: their operations and where they have got to. -/
inductive History : List (Turn σ) → Registry σ → Prop where
  | begin (world : σ) (defaults : SessionConfig) (marks : Nat → String) :
      History [] (.create world defaults marks)
  | turn {ts : List (Turn σ)} {r : Registry σ} (h : History ts r) (operation : Operation) :
      History (ts ++ [⟨r, operation⟩]) (r.operate operation)
  /-- The owner takes the acts. -/
  | drainActs {ts : List (Turn σ)} {r : Registry σ} (h : History ts r) :
      History ts r.drainActs.2
  /-- The owner takes the notices. -/
  | drainNotices {ts : List (Turn σ)} {r : Registry σ} (h : History ts r) :
      History ts r.drainNotices.2
  /-- The world changes by itself. -/
  | world {ts : List (Turn σ)} {r : Registry σ} (h : History ts r) (world : σ) :
      History ts { r with world }

/-! ## Touches -/

/-- The generation that a new session under a key starts from: the last one of the sessions that
were retired there. -/
def generationOf (r : Registry σ) (key : String) : Nat := (KeyMap.find? key r.retired).getD 0

/-- The session that a call finds under a key, and the serial number after it: the registered
session, or a new one where there is none. -/
inductive Entry (r : Registry σ) (key : String) : Session → Nat → Prop where
  | found {s : Session} (h : KeyMap.find? key r.sessions = some s) : Entry r key s r.nextSerial
  | fresh (free : KeyMap.find? key r.sessions = none) (target : Target) (config : SessionConfig) :
      Entry r key (r.newSession key target config (r.generationOf key)) (r.nextSerial + 1)

/-- The operation brings the event that the call hands on, if the call hands one on. -/
def Operation.Brings (cause : Operation) (call : Switchboard.Call) : Prop :=
  ∀ id event now, call = .handleEvent id event now → cause = .handleTransportEvent id event now

/-- The elementary changes of a registry in an operation, each with the ids that it gives out. -/
inductive Touch (cause : Operation) (r : Registry σ) :
    List (String × String) → Registry σ → Prop where
  /-- Subscriptions come and go. -/
  | listen (dataListeners : KeyMap (List DataListener)) (statusListeners : List SubscriptionHandle)
      (nextHandle : Nat) : Touch cause r [] { r with dataListeners, statusListeners, nextHandle }
  /-- One call of one session. -/
  | call {key : String} {s : Session} {nextSerial : Nat} (entry : Entry r key s nextSerial)
      (call : Switchboard.Call) (brings : cause.Brings call) :
      Touch cause r ((Moment.mk ⟨s, r.world⟩ call).issued?.toList.map (key, ·))
        ({ r with nextSerial }.shelve (Moment.mk ⟨s, r.world⟩ call).after)
  /-- One session is taken out and closed. -/
  | retire {key : String} {s : Session} (found : KeyMap.find? key r.sessions = some s) :
      Touch cause r [] (r.takeOut key).2

/-- Some touches of an operation, in a row. -/
inductive Touches (cause : Operation) (r : Registry σ) :
    List (String × String) → Registry σ → Prop where
  | refl : Touches cause r [] r
  | tail {ids more : List (String × String)} {r' r'' : Registry σ} (h : Touches cause r ids r')
      (touch : Touch cause r' more r'') : Touches cause r (ids ++ more) r''

variable {cause : Operation}

namespace Touches

variable {r r' r'' : Registry σ} {ids more : List (String × String)}

theorem single (h : Touch cause r ids r') : Touches cause r ids r' := .tail .refl h

theorem trans (h : Touches cause r ids r') (k : Touches cause r' more r'') :
    Touches cause r (ids ++ more) r'' := by
  induction k with
  | refl => rw [List.append_nil]; exact h
  | tail _ touch ih => rw [← List.append_assoc]; exact .tail ih touch

/-- Steps that give out no ids add up over the keys that they are for. -/
theorem foldl {step : Registry σ → String → Registry σ}
    (h : ∀ r key, Touches cause r [] (step r key)) (keys : List String) (r : Registry σ) :
    Touches cause r [] (keys.foldl step r) := by
  induction keys generalizing r with
  | nil => exact .refl
  | cons key keys ih => exact (h r key).trans (ih _)

end Touches

/-! ## Operations are touches -/

theorem issued?_of_not_request {c : Station σ} {call : Switchboard.Call}
    (h : call.isRequest = false) : (Moment.mk c call).issued? = none := by
  cases issued : (Moment.mk c call).issued? with
  | none => rfl
  | some id =>
    obtain ⟨code, header, payload, now, rfl, -⟩ :=
      Station.perform_issued (Moment.answer_of_issued issued)
    cases h

/-- A step that carries out a call is a touch, or nothing if the key is unknown. -/
theorem touches_onSession {α : Type} (r : Registry σ) (key : String)
    {step : Station σ → Except Error α × Station σ} (call : Switchboard.Call)
    (brings : cause.Brings call) (quiet : call.isRequest = false)
    (same : ∀ c, (step c).2 = (c.perform call).2) :
    Touches cause r [] (r.onSession key step).2 := by
  cases found : KeyMap.find? key r.sessions with
  | none =>
    rw [onSession_of_unknown found]
    exact .refl
  | some s =>
    have touch := Touch.call (.found found) call brings
    rw [issued?_of_not_request quiet] at touch
    rw [onSession_of_known found, same]
    exact .single touch

theorem issuedBy_request_of_unknown {r : Registry σ} {key : String}
    (h : KeyMap.find? key r.sessions = none) (code : UInt8) (header : Header)
    (payload : Option Bytes) (now : Instant) :
    r.issuedBy (.request key code header payload now) = [] := by
  unfold issuedBy request
  simp only [onSession_of_unknown h]

/-- The registry gives out what the session gives out. -/
theorem issuedBy_request_of_known {r : Registry σ} {key : String} {s : Session}
    (h : KeyMap.find? key r.sessions = some s) (code : UInt8) (header : Header)
    (payload : Option Bytes) (now : Instant) :
    r.issuedBy (.request key code header payload now) =
      (Moment.mk ⟨s, r.world⟩ (.request code header payload now)).issued?.toList.map
        (key, ·) := by
  unfold issuedBy request Moment.issued? Moment.answer Station.perform
  simp only [onSession_of_known h]
  cases (Station.request ⟨s, r.world⟩ code header payload now).1 <;> rfl

theorem touches_request (r : Registry σ) (key : String) (code : UInt8) (header : Header)
    (payload : Option Bytes) (now : Instant) :
    Touches (.request key code header payload now) r
      (r.issuedBy (.request key code header payload now))
      (r.request key code header payload now).2 := by
  cases found : KeyMap.find? key r.sessions with
  | none =>
    rw [issuedBy_request_of_unknown found, request, onSession_of_unknown found]
    exact .refl
  | some s =>
    rw [issuedBy_request_of_known found, request, onSession_of_known found]
    exact .single (.call (.found found) (.request code header payload now) nofun)

theorem touches_takeOut (r : Registry σ) (key : String) : Touches cause r [] (r.takeOut key).2 := by
  cases found : KeyMap.find? key r.sessions with
  | none =>
    unfold takeOut
    rw [found]
    exact .refl
  | some s => exact .single (.retire found)

theorem touches_remove (r : Registry σ) (key : String) : Touches cause r [] (r.remove key).2 := by
  unfold remove
  split
  · exact (Touches.single (.listen _ _ _)).trans (touches_takeOut _ key)
  · exact .refl

theorem touches_pollKey (r : Registry σ) (now : Instant) (key : String) :
    Touches cause r [] (r.pollKey now key) :=
  touches_onSession r key (.pollTimers now) nofun rfl fun _ => rfl

theorem find?_takeOut (r : Registry σ) (key : String) :
    KeyMap.find? key (r.takeOut key).2.sessions = none := by
  unfold takeOut
  cases found : KeyMap.find? key r.sessions with
  | none => exact found
  | some s => exact KeyMap.find?_erase_self key r.sessions

theorem find?_takeOut_of_ne (r : Registry σ) {key other : String} (h : other ≠ key) :
    KeyMap.find? other (r.takeOut key).2.sessions = KeyMap.find? other r.sessions := by
  unfold takeOut
  cases found : KeyMap.find? key r.sessions with
  | none => rfl
  | some s => exact KeyMap.find?_erase_of_ne h r.sessions

theorem touches_connectWith (r : Registry σ) (key : String) (target : Target)
    (config : SessionConfig) (now : Instant) :
    Touches cause r [] (r.connectWith key target config now).2 := by
  unfold connectWith
  split
  · exact .refl
  · refine (touches_takeOut r key).trans (.single ?_)
    exact .call (.fresh (find?_takeOut r key) target config) (.connect now) nofun

theorem touches_operate (r : Registry σ) (operation : Operation) :
    Touches operation r (r.issuedBy operation) (r.operate operation) := by
  cases operation with
  | connect key target config now => exact touches_connectWith r key target _ now
  | disconnect key => exact touches_onSession r key .disconnect nofun rfl fun _ => rfl
  | remove key => exact touches_remove r key
  | shutdown => exact .foldl touches_remove _ r
  | authenticate key credentials =>
    exact touches_onSession r key (.authenticate credentials) nofun rfl fun _ => rfl
  | send key code header payload =>
    exact touches_onSession r key (.send code header payload) nofun rfl fun _ => rfl
  | sendMessage key message payload =>
    exact touches_onSession r key (.sendMessage message payload) nofun rfl fun _ => rfl
  | request key code header payload now => exact touches_request r key code header payload now
  | handleTransportEvent id event now =>
    refine touches_onSession r id.key (.handleEvent id event now) ?_ rfl fun _ => rfl
    rintro id event now ⟨⟩
    rfl
  | pollTimers now => exact .foldl (fun r key => touches_pollKey r now key) _ r
  | subscribe key filter => exact .single (.listen _ _ _)
  | subscribeStatus => exact .single (.listen _ _ _)
  | unsubscribe handle => exact .single (.listen _ _ _)

end Registry

end Switchboard
