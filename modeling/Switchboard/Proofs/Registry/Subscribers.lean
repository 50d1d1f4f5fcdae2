import Switchboard.Proofs.Registry.Notices
/-!
# Who is subscribed

Operations on a registry differ, as far as subscriptions are concerned, only in whom they drop,
under which key they sweep all subscriptions away, and who joins (`listeners_operate`,
`statusListeners_operate`). A session that is taken out by `remove` or `shutdown` takes the data
subscriptions under its key along; one that is replaced leaves them.
-/

namespace Switchboard

namespace Registry

/-- What a subscription is about. -/
inductive Subscription where
  /-- The frames under a key that the filter wants. -/
  | data (key : String) (filter : MessageFilter)
  /-- The states that any session enters. -/
  | status
  deriving DecidableEq

/-- The operation drops the subscription with a handle. -/
def Operation.drops (handle : SubscriptionHandle) : Operation → Bool
  | .unsubscribe dropped => dropped = handle
  | _ => false

variable {σ : Type} {r : Registry σ} {key : String}

/-- The operation takes out a session under a key, and all data subscriptions to the key with it. -/
def sweeps (r : Registry σ) (key : String) : Operation → Bool
  | .remove k => k = key && r.contains key
  | .shutdown => r.contains key
  | _ => false

/-- The data subscription under a key that an operation makes. -/
def joins (r : Registry σ) (key : String) : Operation → List DataListener
  | .subscribe k filter => if k = key then [⟨⟨r.nextHandle⟩, filter⟩] else []
  | _ => []

/-- The status subscription that an operation makes. -/
def enlists (r : Registry σ) : Operation → List SubscriptionHandle
  | .subscribeStatus => [⟨r.nextHandle⟩]
  | _ => []

/-- The subscription that an operation makes, with the handle that it gives out. -/
def made (r : Registry σ) : Operation → Option (Subscription × SubscriptionHandle)
  | .subscribe key filter => some (.data key filter, (r.subscribe key filter).1)
  | .subscribeStatus => some (.status, r.subscribeStatus.1)
  | _ => none

/-- The operation ends a subscription. -/
def ends (r : Registry σ) (subscription : Subscription) (handle : SubscriptionHandle)
    (operation : Operation) : Bool :=
  operation.drops handle ||
    match subscription with
    | .data key _ => r.sweeps key operation
    | .status => false

/-! ## Lists of subscriptions -/

/-- All that a registry knows of subscriptions. -/
def subscribers (r : Registry σ) : KeyMap (List DataListener) × List SubscriptionHandle × Nat :=
  (r.dataListeners, r.statusListeners, r.nextHandle)

theorem subscribers_foldl {step : Registry σ → String → Registry σ}
    (keeps : ∀ r other, (step r other).subscribers = r.subscribers) (keys : List String)
    (r : Registry σ) : (keys.foldl step r).subscribers = r.subscribers := by
  induction keys generalizing r with
  | nil => rfl
  | cons first rest ih => exact (ih _).trans (keeps r first)

theorem subscribers_onSession {α : Type} (r : Registry σ) (key : String)
    (step : Station σ → Except Error α × Station σ) :
    (r.onSession key step).2.subscribers = r.subscribers := by
  unfold onSession
  split <;> rfl

theorem listeners_congr {r' : Registry σ} (same : r'.subscribers = r.subscribers) (key : String) :
    r'.listeners key = r.listeners key := by
  have data : r'.dataListeners = r.dataListeners := congrArg Prod.fst same
  unfold listeners
  rw [data]

theorem listeners_subscribe (r : Registry σ) (k : String) (filter : MessageFilter) :
    (r.subscribe k filter).2.listeners key =
      r.listeners key ++ if k = key then [⟨⟨r.nextHandle⟩, filter⟩] else [] := by
  unfold subscribe allocateHandle listeners
  by_cases here : k = key
  · subst here
    simp [KeyMap.find?_insert_self]
  · simp [KeyMap.find?_insert_of_ne (Ne.symm here), here]

theorem listeners_unsubscribe (r : Registry σ) (handle : SubscriptionHandle) :
    (r.unsubscribe handle).2.listeners key =
      (r.listeners key).filter fun listener => listener.handle ≠ handle := by
  unfold unsubscribe listeners
  dsimp only
  rw [KeyMap.find?_map]
  cases KeyMap.find? key r.dataListeners <;> rfl

variable [Environment σ]

theorem subscribers_takeOut (r : Registry σ) (key : String) :
    (r.takeOut key).2.subscribers = r.subscribers := by
  unfold takeOut
  split <;> rfl

theorem subscribers_connectWith (r : Registry σ) (key : String) (target : Target)
    (config : SessionConfig) (now : Instant) :
    (r.connectWith key target config now).2.subscribers = r.subscribers := by
  unfold connectWith
  split
  · rfl
  · exact subscribers_takeOut r key

theorem subscribers_remove (r : Registry σ) (key : String) : (r.remove key).2.subscribers =
    (if r.contains key then KeyMap.erase key r.dataListeners else r.dataListeners,
      r.statusListeners, r.nextHandle) := by
  unfold remove Registry.contains
  by_cases present : KeyMap.contains key r.sessions = true
  · rw [if_pos present, if_pos present, subscribers_takeOut]
    rfl
  · rw [if_neg present, if_neg present]
    rfl

theorem listeners_remove (r : Registry σ) (k : String) :
    (r.remove k).2.listeners key =
      if (k = key && r.contains key) then [] else r.listeners key := by
  have data : (r.remove k).2.dataListeners = _ := congrArg Prod.fst (subscribers_remove r k)
  unfold listeners
  rw [data]
  by_cases here : k = key
  · subst here
    by_cases present : r.contains k <;> simp [present]
  · by_cases present : r.contains k <;> simp [present, here, KeyMap.find?_erase_of_ne (Ne.symm here)]

theorem contains_remove (r : Registry σ) (k : String) :
    (r.remove k).2.contains key = (r.contains key && k ≠ key) := by
  unfold remove Registry.contains KeyMap.contains
  split
  · by_cases here : k = key
    · subst here
      simp [find?_takeOut]
    · simp [find?_takeOut_of_ne _ (Ne.symm here), here]
  · next absent =>
    by_cases here : k = key
    · subst here
      simp [absent]
    · simp [here]

/-- Keys that are removed one after the other lose their subscriptions if they had a session. -/
theorem listeners_removes (keys : List String) (r : Registry σ) :
    (keys.foldl (fun r key => (r.remove key).2) r).listeners key =
      if (r.contains key && keys.contains key) then [] else r.listeners key := by
  induction keys generalizing r with
  | nil => simp
  | cons first rest ih =>
    rw [List.foldl_cons, ih, listeners_remove, contains_remove]
    by_cases here : first = key
    · subst here
      simp
    · simp [here, Ne.symm here]

theorem listeners_shutdown (r : Registry σ) :
    r.shutdown.listeners key = if r.contains key then [] else r.listeners key := by
  have present : (r.contains key && (KeyMap.keys r.sessions).contains key) = r.contains key := by
    by_cases h : r.contains key = true
    · have mem : key ∈ KeyMap.keys r.sessions := KeyMap.contains_iff.mp h
      simp [h, mem]
    · simp [h]
  unfold shutdown
  rw [listeners_removes, present]

/-- Operations that are not about subscriptions and take no session out leave them alone. -/
theorem subscribers_operate {operation : Operation} (subscribing : operation.isSubscribing = false)
    (keeps : ∀ key, ¬ operation.Removes key) :
    (r.operate operation).subscribers = r.subscribers := by
  cases operation with
  | connect key target config now => exact subscribers_connectWith r key target _ now
  | remove key => exact absurd rfl (keeps key)
  | shutdown => exact absurd trivial (keeps "")
  | pollTimers now => exact subscribers_foldl (fun r key => subscribers_onSession r key _) _ r
  | subscribe => cases subscribing
  | subscribeStatus => cases subscribing
  | unsubscribe => cases subscribing
  | _ => exact subscribers_onSession r _ _

theorem listeners_operate (r : Registry σ) (operation : Operation) (key : String) :
    (r.operate operation).listeners key =
      (if r.sweeps key operation then [] else r.listeners key).filter
          (fun listener => !operation.drops listener.handle) ++ r.joins key operation := by
  have keeps (plain : ∀ handle, operation.drops handle = false)
      (listeners : List DataListener) :
      listeners.filter (fun listener => !operation.drops listener.handle) = listeners := by
    simp [plain]
  cases operation with
  | subscribe k filter =>
    rw [keeps fun _ => rfl]
    exact listeners_subscribe r k filter
  | unsubscribe handle =>
    refine (listeners_unsubscribe r handle).trans ?_
    simp [sweeps, joins, Operation.drops, eq_comm]
  | remove k =>
    rw [keeps fun _ => rfl]
    exact (listeners_remove r k).trans (List.append_nil _).symm
  | shutdown =>
    rw [keeps fun _ => rfl]
    exact (listeners_shutdown r).trans (List.append_nil _).symm
  | subscribeStatus =>
    rw [keeps fun _ => rfl]
    exact (List.append_nil _).symm
  | _ =>
    rw [keeps fun _ => rfl]
    exact (listeners_congr (subscribers_operate rfl fun _ => id) key).trans
      (List.append_nil _).symm

theorem statusListeners_shutdown (r : Registry σ) :
    r.shutdown.statusListeners = r.statusListeners ∧ r.shutdown.nextHandle = r.nextHandle := by
  unfold shutdown
  generalize KeyMap.keys r.sessions = keys
  induction keys generalizing r with
  | nil => exact ⟨rfl, rfl⟩
  | cons first rest ih =>
    have first := congrArg Prod.snd (subscribers_remove r first)
    obtain ⟨status, next⟩ := ih (r.remove _).2
    exact ⟨status.trans (congrArg Prod.fst first), next.trans (congrArg Prod.snd first)⟩

theorem statusListeners_operate (r : Registry σ) (operation : Operation) :
    (r.operate operation).statusListeners =
      r.statusListeners.filter (fun handle => !operation.drops handle) ++
        r.enlists operation := by
  have keeps (plain : ∀ handle, operation.drops handle = false) :
      r.statusListeners.filter (fun handle => !operation.drops handle) = r.statusListeners := by
    simp [plain]
  cases operation with
  | subscribeStatus =>
    rw [keeps fun _ => rfl]
    rfl
  | unsubscribe handle => simp [operate, unsubscribe, enlists, Operation.drops, eq_comm]
  | remove k =>
    rw [keeps fun _ => rfl]
    exact (congrArg (Prod.fst ∘ Prod.snd) (subscribers_remove r k)).trans
      (List.append_nil _).symm
  | shutdown =>
    rw [keeps fun _ => rfl]
    exact (statusListeners_shutdown r).1.trans (List.append_nil _).symm
  | subscribe =>
    rw [keeps fun _ => rfl]
    exact (List.append_nil _).symm
  | _ =>
    rw [keeps fun _ => rfl]
    exact (congrArg (Prod.fst ∘ Prod.snd) (subscribers_operate rfl fun _ => id)).trans
      (List.append_nil _).symm

theorem nextHandle_operate (r : Registry σ) (operation : Operation) :
    (r.operate operation).nextHandle = r.nextHandle + (r.made operation).toList.length := by
  cases operation with
  | subscribe => rfl
  | subscribeStatus => rfl
  | unsubscribe => rfl
  | remove k => exact congrArg (Prod.snd ∘ Prod.snd) (subscribers_remove r k)
  | shutdown => exact (statusListeners_shutdown r).2
  | _ => exact congrArg (Prod.snd ∘ Prod.snd) (subscribers_operate rfl fun _ => id)

/-! ## Order of keys -/

theorem sorted_remove (sorted : KeyMap.Sorted r.dataListeners) (key : String) :
    KeyMap.Sorted (r.remove key).2.dataListeners := by
  have data : (r.remove key).2.dataListeners = _ := congrArg Prod.fst (subscribers_remove r key)
  rw [data]
  split
  · exact KeyMap.sorted_erase key sorted
  · exact sorted

theorem sorted_shutdown (sorted : KeyMap.Sorted r.dataListeners) :
    KeyMap.Sorted r.shutdown.dataListeners := by
  unfold shutdown
  generalize KeyMap.keys r.sessions = keys
  induction keys generalizing r with
  | nil => exact sorted
  | cons first rest ih => exact ih (sorted_remove sorted first)

theorem sorted_operate (sorted : KeyMap.Sorted r.dataListeners) (operation : Operation) :
    KeyMap.Sorted (r.operate operation).dataListeners := by
  have keeps {operation : Operation} (subscribing : operation.isSubscribing = false)
      (takesNone : ∀ key, ¬ operation.Removes key) :
      KeyMap.Sorted (r.operate operation).dataListeners := by
    have data : (r.operate operation).dataListeners = r.dataListeners :=
      congrArg Prod.fst (subscribers_operate subscribing takesNone)
    rw [data]
    exact sorted
  cases operation with
  | subscribe key filter => exact KeyMap.sorted_insert _ _ sorted
  | subscribeStatus => exact sorted
  | unsubscribe handle => exact List.Pairwise.map _ (fun _ _ => id) sorted
  | remove key => exact sorted_remove sorted key
  | shutdown => exact sorted_shutdown sorted
  | _ => exact keeps rfl fun _ => id

end Registry

end Switchboard
