import Switchboard.Proofs.Registry.Subscribers
import Switchboard.Proofs.Session.Path
import Switchboard.Scripted.Network
/-!
# What a subscription is told

A subscription stands from the operation that makes it to the first one that ends it: that drops its
handle, or, for a subscription to the frames under a key, that takes out a session under the key. A
registry lists exactly the subscriptions that stand (`History.filed`). Handles are numbered in the
order in which they are given out, so that a subscription is listed once, and nothing was told to
its handle before (`History.dataTold_early`).

So the frames that a subscription is told of are the frames that arrived under its key while it
stood, those of them that it wants, each once and in order (`History.dataTold_eq`); and the states
are all those that were entered while it stood (`History.statusTold_eq`).
-/

namespace Switchboard

/-! ## What is told to one handle -/

/-- The frame that a notice tells the subscription with a handle of. -/
def Notice.dataFor (handle : SubscriptionHandle) : Notice → Option DataEvent
  | .data told event => if told = handle then some event else none
  | .status .. => none

/-- The state that a notice tells the subscription with a handle of. -/
def Notice.statusFor (handle : SubscriptionHandle) : Notice → Option StatusEvent
  | .status told event => if told = handle then some event else none
  | .data .. => none

/-- The frames that the subscription with a handle is told of. -/
def dataTold (handle : SubscriptionHandle) (notices : List Notice) : List DataEvent :=
  notices.filterMap (Notice.dataFor handle)

/-- The states that the subscription with a handle is told of. -/
def statusTold (handle : SubscriptionHandle) (notices : List Notice) : List StatusEvent :=
  notices.filterMap (Notice.statusFor handle)

theorem dataTold_append (handle : SubscriptionHandle) (notices more : List Notice) :
    dataTold handle (notices ++ more) = dataTold handle notices ++ dataTold handle more :=
  List.filterMap_append

theorem statusTold_append (handle : SubscriptionHandle) (notices more : List Notice) :
    statusTold handle (notices ++ more) = statusTold handle notices ++ statusTold handle more :=
  List.filterMap_append

/-- If each element of a list is answered as long as none before it was last, and what is last has
no answer, the answers are those of the elements before the first that is last. -/
theorem flatMap_eq_takeWhile {α β : Type} {given wanted : α → List β} {last : α → Bool}
    (silent : ∀ x, last x = true → wanted x = []) {xs : List α}
    (each : ∀ early x late, xs = early ++ x :: late →
      given x = if early.all (fun y => !last y) then wanted x else []) :
    xs.flatMap given = (xs.takeWhile fun x => !last x).flatMap wanted := by
  induction xs with
  | nil => rfl
  | cons x xs ih =>
    have first : given x = wanted x := each [] x xs rfl
    rw [List.flatMap_cons, first]
    cases ends : last x with
    | false =>
      have rest := ih fun early y late split => by
        have later := each (x :: early) y late (by rw [split]; rfl)
        rwa [List.all_cons, ends] at later
      rw [rest, List.takeWhile_cons, ends]
      rfl
    | true =>
      have nothing : ∀ y ∈ xs, given y = [] := by
        intro y mem
        obtain ⟨early, late, split⟩ := List.append_of_mem mem
        have later := each (x :: early) y late (by rw [split]; rfl)
        rwa [List.all_cons, ends] at later
      rw [silent x ends, List.nil_append, List.flatMap_eq_nil_iff.mpr nothing,
        List.takeWhile_cons, ends]
      rfl

namespace Registry

variable {σ : Type} {r : Registry σ} {handle : SubscriptionHandle}

theorem dataTold_announcements (r : Registry σ) (handle : SubscriptionHandle) (acts : List Act) :
    dataTold handle (r.announcements acts) = [] := by
  rw [dataTold, List.filterMap_eq_nil_iff]
  intro notice mem
  obtain ⟨act, -, mem⟩ := List.mem_flatMap.mp mem
  unfold statusNotices at mem
  split at mem
  · obtain ⟨told, -, rfl⟩ := List.mem_map.mp mem
    rfl
  · cases mem

theorem statusTold_deliveries (r : Registry σ) (handle : SubscriptionHandle) (event : DataEvent) :
    statusTold handle (r.deliveries event) = [] := by
  rw [statusTold, List.filterMap_eq_nil_iff]
  intro notice mem
  obtain ⟨listener, -, told⟩ := List.mem_filterMap.mp mem
  split at told
  · cases told
    rfl
  · cases told

/-- The subscription under a key with a handle. -/
def holders (r : Registry σ) (key : String) (handle : SubscriptionHandle) : List DataListener :=
  (r.listeners key).filter fun listener => listener.handle = handle

theorem holders_subscribe (r : Registry σ) (key : String) (filter : MessageFilter) (k : String) :
    (r.subscribe key filter).2.holders k ⟨r.nextHandle⟩ =
      r.holders k ⟨r.nextHandle⟩ ++ if key = k then [⟨⟨r.nextHandle⟩, filter⟩] else [] := by
  unfold holders
  rw [listeners_subscribe, List.filter_append]
  by_cases here : key = k <;> simp [here]

/-- A frame is told to a handle as often as it is listed with a filter that wants the frame. -/
theorem dataTold_deliveries (r : Registry σ) (handle : SubscriptionHandle) (event : DataEvent) :
    dataTold handle (r.deliveries event) =
      ((r.holders event.key handle).filter fun listener =>
        listener.filter.wants event.code).map fun _ => event := by
  unfold deliveries holders
  induction r.listeners event.key with
  | nil => rfl
  | cons listener rest ih =>
    unfold dataTold at ih ⊢
    by_cases wants : listener.filter.wants event.code = true <;>
      by_cases own : listener.handle = handle <;> simp [wants, own, Notice.dataFor, ih]

/-- The status subscription with a handle. -/
def enlisted (r : Registry σ) (handle : SubscriptionHandle) : List SubscriptionHandle :=
  r.statusListeners.filter fun listed => listed = handle

theorem statusTold_announcements (r : Registry σ) (handle : SubscriptionHandle)
    (acts : List Act) : statusTold handle (r.announcements acts) =
      (statuses acts).flatMap fun event =>
        (r.enlisted handle).map fun _ => event := by
  have one (event : StatusEvent) (handles : List SubscriptionHandle) :
      statusTold handle (handles.map (.status · event)) =
        (handles.filter fun told => told = handle).map fun _ => event := by
    induction handles with
    | nil => rfl
    | cons told rest ih =>
      unfold statusTold at ih ⊢
      by_cases own : told = handle <;> simp [own, Notice.statusFor, ih]
  induction acts with
  | nil => rfl
  | cons act acts ih =>
    unfold announcements at ih ⊢
    rw [List.flatMap_cons, statusTold_append, ih]
    cases act with
    | entered event => exact congrArg (· ++ _) (one event r.statusListeners)
    | _ => rfl

/-! ## Queries -/

/-- A registry answers for the handles that it lists. -/
theorem isSubscribed_iff (sorted : KeyMap.Sorted r.dataListeners) :
    r.isSubscribed handle = true ↔
      handle ∈ r.statusListeners ∨ ∃ key filter, ⟨handle, filter⟩ ∈ r.listeners key := by
  have listed : (∃ entry ∈ r.dataListeners, ∃ listener ∈ entry.2, listener.handle = handle) ↔
      ∃ key filter, ⟨handle, filter⟩ ∈ r.listeners key := by
    constructor
    · rintro ⟨⟨key, listeners⟩, mem, ⟨_, filter⟩, listed, rfl⟩
      refine ⟨key, filter, ?_⟩
      unfold Registry.listeners
      rw [(KeyMap.find?_eq_some_iff sorted).mpr mem]
      exact listed
    · rintro ⟨key, filter, mem⟩
      unfold Registry.listeners at mem
      cases found : KeyMap.find? key r.dataListeners with
      | none => rw [found] at mem; cases mem
      | some listeners =>
        rw [found] at mem
        exact ⟨_, KeyMap.mem_of_find? found, _, mem, rfl⟩
  unfold isSubscribed
  rw [← listed]
  simp

theorem isSubscribed_unsubscribe (r : Registry σ) (handle other : SubscriptionHandle) :
    (r.unsubscribe handle).2.isSubscribed other = (r.isSubscribed other && other ≠ handle) := by
  rw [Bool.eq_iff_iff]
  unfold unsubscribe isSubscribed
  by_cases same : other = handle
  · subst same
    simp
  · have kept (listener : DataListener) :
        (¬ listener.handle = handle ∧ listener.handle = other) ↔ listener.handle = other :=
      and_iff_right_of_imp fun own => own ▸ same
    simp [same, kept]

/-! ## Subscriptions of a history -/

/-- The subscription that the operation made. -/
def Turn.made (t : Turn σ) : Option (Subscription × SubscriptionHandle) :=
  t.before.made t.operation

/-- The operation ended a subscription. -/
def Turn.ends (subscription : Subscription) (handle : SubscriptionHandle) (t : Turn σ) : Bool :=
  t.before.ends subscription handle t.operation

theorem Turn.ends_data (t : Turn σ) (key : String) (filter : MessageFilter)
    (handle : SubscriptionHandle) : t.ends (.data key filter) handle =
      (t.operation.drops handle || t.before.sweeps key t.operation) := rfl

theorem Turn.ends_status (t : Turn σ) (handle : SubscriptionHandle) :
    t.ends .status handle = t.operation.drops handle := Bool.or_false _

theorem Turn.isSubscribing_of_made {t : Turn σ} {subscription : Subscription}
    (made : t.made = some (subscription, handle)) : t.operation.isSubscribing = true := by
  unfold Turn.made at made
  cases operation : t.operation <;> rw [operation] at made <;> first | rfl | cases made

theorem Turn.arrival_of_subscribing {t : Turn σ} (subscribing : t.operation.isSubscribing = true) :
    t.arrival = none := by
  unfold Turn.arrival
  cases operation : t.operation with
  | handleTransportEvent => rw [operation] at subscribing; cases subscribing
  | _ => rfl

theorem Operation.isSubscribing_of_drops {operation : Operation}
    (drops : operation.drops handle = true) : operation.isSubscribing = true := by
  cases operation <;> first | rfl | cases drops

/-- A subscription was made, and nothing has ended it since. -/
def Standing (ts : List (Turn σ)) (subscription : Subscription) (handle : SubscriptionHandle) :
    Prop :=
  ∃ early t late, ts = early ++ t :: late ∧ t.made = some (subscription, handle) ∧
    late.all (fun u => !u.ends subscription handle) = true

/-- The handles that were given out, in order. -/
def handles (ts : List (Turn σ)) : List SubscriptionHandle :=
  ts.filterMap fun t => t.made.map Prod.snd

theorem standing_concat {ts : List (Turn σ)} {u : Turn σ} {subscription : Subscription} :
    Standing (ts ++ [u]) subscription handle ↔
      (Standing ts subscription handle ∧ u.ends subscription handle = false) ∨
        u.made = some (subscription, handle) := by
  constructor
  · rintro ⟨early, t, late, split, made, stands⟩
    rcases split_of_concat split with ⟨-, rfl, -⟩ | ⟨rest, rfl, earlier⟩
    · exact .inr made
    · rw [List.all_append, Bool.and_eq_true] at stands
      exact .inl ⟨⟨early, t, rest, earlier, made, stands.1⟩, by simpa using stands.2⟩
  · rintro (⟨⟨early, t, late, rfl, made, stands⟩, lasts⟩ | made)
    · refine ⟨early, t, late ++ [u], by simp, made, ?_⟩
      rw [List.all_append, stands]
      simp [lasts]
    · exact ⟨ts, u, [], rfl, made, rfl⟩

theorem mem_handles_of_made {ts early late : List (Turn σ)} {t : Turn σ}
    {subscription : Subscription} (split : ts = early ++ t :: late)
    (made : t.made = some (subscription, handle)) : handle ∈ handles ts := by
  rw [split]
  exact List.mem_filterMap.mpr ⟨t, by simp, by rw [made]; rfl⟩

theorem fresh_early {ts early late : List (Turn σ)} {t : Turn σ} (split : ts = early ++ t :: late)
    (fresh : handle ∉ handles ts) : handle ∉ handles early := by
  intro mem
  rw [split, handles, List.filterMap_append] at fresh
  exact fresh (List.mem_append_left _ mem)

theorem mem_handles_of_standing {ts : List (Turn σ)} {subscription : Subscription}
    (stands : Standing ts subscription handle) : handle ∈ handles ts := by
  obtain ⟨early, t, late, split, made, -⟩ := stands
  exact mem_handles_of_made split made

theorem made_number {operation : Operation} {subscription : Subscription}
    (made : r.made operation = some (subscription, handle)) : handle = ⟨r.nextHandle⟩ := by
  cases operation <;> cases made <;> rfl

/-- A registry lists the subscriptions that stand, and has numbers left for new ones. -/
structure Filed (ts : List (Turn σ)) (r : Registry σ) : Prop where
  sorted : KeyMap.Sorted r.dataListeners
  data : ∀ key filter handle,
    ⟨handle, filter⟩ ∈ r.listeners key ↔ Standing ts (.data key filter) handle
  status : ∀ handle, handle ∈ r.statusListeners ↔ Standing ts .status handle
  used : ∀ handle ∈ handles ts, handle.number < r.nextHandle
  distinct : (handles ts).Nodup

theorem Filed.fresh {ts : List (Turn σ)} (h : Filed ts r) : ⟨r.nextHandle⟩ ∉ handles ts :=
  fun mem => Nat.lt_irrefl _ (h.used _ mem)

variable [Environment σ]

theorem Turn.acts_of_subscribing {t : Turn σ} (subscribing : t.operation.isSubscribing = true) :
    t.acts = [] := by
  have same : t.after.acts = t.before.acts := by
    unfold Turn.after
    cases operation : t.operation with
    | subscribe | subscribeStatus | unsubscribe => rfl
    | _ => rw [operation] at subscribing; cases subscribing
  unfold Turn.acts
  rw [same, List.drop_length]

theorem Filed.turn {ts : List (Turn σ)} (h : Filed ts r) (operation : Operation) :
    Filed (ts ++ [⟨r, operation⟩]) (r.operate operation) := by
  have issued : handles (ts ++ [⟨r, operation⟩]) =
      handles ts ++ ((r.made operation).map Prod.snd).toList := by
    unfold handles
    rw [List.filterMap_append]
    cases made : r.made operation <;> simp [Turn.made, made]
  refine ⟨sorted_operate h.sorted operation, fun key filter handle => ?_, fun handle => ?_, ?_, ?_⟩
  · rw [standing_concat, ← h.data, listeners_operate, List.mem_append, List.mem_filter]
    refine or_congr ?_ ?_
    · rw [Turn.ends_data]
      cases r.sweeps key operation <;> simp
    · unfold Turn.made
      cases operation with
      | subscribe k wanted =>
        unfold joins made
        by_cases here : k = key
        · simp [here, subscribe, allocateHandle, eq_comm, and_comm]
        · simp [here]
      | _ => simp [joins, made]
  · rw [standing_concat, ← h.status, statusListeners_operate, List.mem_append, List.mem_filter]
    refine or_congr ?_ ?_
    · rw [Turn.ends_status]
      simp
    · unfold Turn.made
      cases operation with
      | subscribeStatus => simp [enlists, made, subscribeStatus, allocateHandle, eq_comm]
      | _ => simp [enlists, made]
  · rw [issued, nextHandle_operate]
    intro handle mem
    rcases List.mem_append.mp mem with old | new
    · exact Nat.lt_of_lt_of_le (h.used handle old) (Nat.le_add_right _ _)
    · cases made : r.made operation with
      | none => rw [made] at new; cases new
      | some entry =>
        rw [made] at new
        obtain ⟨subscription, given⟩ := entry
        cases List.mem_singleton.mp new
        rw [made_number made]
        exact Nat.lt_succ_self _
  · rw [issued, List.nodup_append]
    refine ⟨h.distinct, ?_, fun old mem new memNew same => ?_⟩
    · cases r.made operation <;> simp
    · cases made : r.made operation with
      | none => rw [made] at memNew; cases memNew
      | some entry =>
        rw [made] at memNew
        obtain ⟨subscription, given⟩ := entry
        cases List.mem_singleton.mp memNew
        have lt := h.used old mem
        rw [same, made_number made] at lt
        exact Nat.lt_irrefl _ lt

namespace History

variable {ts : List (Turn σ)}

theorem filed (h : History ts r) : Filed ts r := by
  induction h with
  | begin world defaults marks =>
    have none (subscription : Subscription) (handle : SubscriptionHandle) :
        ¬ Standing ([] : List (Turn σ)) subscription handle := by
      rintro ⟨early, t, late, split, -⟩
      simp at split
    exact ⟨.nil, fun key filter handle => ⟨nofun, fun stands => absurd stands (none _ _)⟩,
      fun handle => ⟨nofun, fun stands => absurd stands (none _ _)⟩, nofun, .nil⟩
  | turn _ operation ih => exact ih.turn operation
  | drainActs _ ih => exact ⟨ih.sorted, ih.data, ih.status, ih.used, ih.distinct⟩
  | drainNotices _ ih => exact ⟨ih.sorted, ih.data, ih.status, ih.used, ih.distinct⟩
  | world _ _ ih => exact ⟨ih.sorted, ih.data, ih.status, ih.used, ih.distinct⟩

/-- The operations before an operation lead to the registry that it found. -/
theorem before (h : History ts r) {early late : List (Turn σ)} {t : Turn σ}
    (split : ts = early ++ t :: late) : History early t.before := by
  induction h generalizing late with
  | begin => simp at split
  | turn h operation ih =>
    rcases split_of_concat split with ⟨rfl, rfl, -⟩ | ⟨rest, -, split⟩
    · exact h
    · exact ih split
  | drainActs _ ih => exact ih split
  | drainNotices _ ih => exact ih split
  | world _ _ ih => exact ih split

theorem before_late (h : History ts r) {early late rest after : List (Turn σ)} {t u : Turn σ}
    (split : ts = early ++ t :: late) (between : late = rest ++ u :: after) :
    History (early ++ t :: rest) u.before := by
  have longer : ts = early ++ t :: rest ++ u :: after := by
    rw [split, between, List.append_assoc, List.cons_append]
  exact h.before longer

/-- What all subscriptions were told in a history. -/
def notices (ts : List (Turn σ)) : List Notice := ts.flatMap Turn.notices

theorem notices_split {ts early late : List (Turn σ)} {t : Turn σ}
    (split : ts = early ++ t :: late) :
    notices ts = notices early ++ (t.notices ++ notices late) := by
  rw [split]
  exact List.flatMap_append

end History

/-! ## Subscriptions to frames -/

/-- What an operation makes of the listing of a handle that it does not give out. -/
theorem holders_operate (old : handle ≠ ⟨r.nextHandle⟩) (operation : Operation) (key : String) :
    (r.operate operation).holders key handle =
      if operation.drops handle || r.sweeps key operation then [] else r.holders key handle := by
  have joined : (r.joins key operation).filter (fun listener => listener.handle = handle) = [] := by
    cases operation with
    | subscribe k filter =>
      unfold joins
      by_cases here : k = key <;> simp [here, Ne.symm old]
    | _ => rfl
  unfold holders
  rw [listeners_operate, List.filter_append, joined, List.append_nil]
  have dropped (listener : DataListener) :
      (decide (listener.handle = handle) && !operation.drops listener.handle) =
        (decide (listener.handle = handle) && !operation.drops handle) := by
    by_cases own : listener.handle = handle <;> simp [own]
  simp only [List.filter_filter, dropped]
  cases operation.drops handle <;> cases r.sweeps key operation <;> simp

theorem Turn.dataTold_eq {t : Turn σ} (sound : Sound t.before) (handle : SubscriptionHandle) :
    dataTold handle t.notices =
      t.arrival.toList.flatMap fun event => dataTold handle (t.before.deliveries event) := by
  rw [Turn.notices_eq sound, dataTold_append, dataTold_announcements, List.nil_append]
  cases t.arrival with
  | none => rfl
  | some event => simp

/-- A frame that stands under a key and is wanted there. -/
def wanted (key : String) (filter : MessageFilter) (event : DataEvent) : Bool :=
  event.key = key && filter.wants event.code

/-- What a turn tells a handle that is listed under one key at most. -/
theorem Turn.dataTold_of_holders {t : Turn σ} (sound : Sound t.before) {key : String}
    {filter : MessageFilter} {stands : Bool}
    (listed : ∀ k, t.before.holders k handle =
      if k = key ∧ stands = true then [⟨handle, filter⟩] else []) :
    dataTold handle t.notices =
      if stands then t.arrival.toList.filter (wanted key filter) else [] := by
  rw [Turn.dataTold_eq sound]
  cases t.arrival with
  | none => simp
  | some event =>
    simp only [Option.toList_some, List.flatMap_singleton, dataTold_deliveries, listed]
    by_cases here : event.key = key <;> by_cases wants : filter.wants event.code = true <;>
      cases stands <;> simp [wanted, here, wants]

namespace History

variable {ts early late : List (Turn σ)} {t : Turn σ}

theorem handle_fresh (h : History ts r) (split : ts = early ++ t :: late)
    {subscription : Subscription} (made : t.made = some (subscription, handle)) :
    handle ∉ handles early := by
  intro mem
  have lt := (h.before split).filed.used handle mem
  rw [made_number made] at lt
  exact Nat.lt_irrefl _ lt

theorem holders_of_fresh (h : History ts r) (fresh : handle ∉ handles ts) (key : String) :
    r.holders key handle = [] := by
  unfold holders
  rw [List.filter_eq_nil_iff]
  intro listener listed own
  have stands := (h.filed.data key listener.filter listener.handle).mp listed
  rw [of_decide_eq_true own] at stands
  exact fresh (mem_handles_of_standing stands)

/-- A subscription is listed under its key, once, as long as it stands, and nowhere else. -/
theorem holders_eq (h : History ts r) (split : ts = early ++ t :: late) {key : String}
    {filter : MessageFilter} (made : t.made = some (.data key filter, handle)) (k : String) :
    r.holders k handle =
      if k = key ∧ late.all (fun u => !u.ends (.data key filter) handle) = true then
        [⟨handle, filter⟩]
      else [] := by
  induction h generalizing late with
  | begin => simp at split
  | @turn ts r h operation ih =>
    rcases split_of_concat split with ⟨rfl, rfl, rfl⟩ | ⟨rest, rfl, earlier⟩
    · obtain rfl := made_number made
      cases operation <;> cases made
      exact (holders_subscribe ..).trans (by rw [h.holders_of_fresh h.filed.fresh]; simp [eq_comm])
    · have old : handle ≠ ⟨r.nextHandle⟩ := by
        rintro rfl
        exact h.filed.fresh (mem_handles_of_made earlier made)
      rw [holders_operate old, ih earlier]
      by_cases here : k = key
      · subst here
        rw [List.all_append, List.all_cons, Turn.ends_data]
        cases operation.drops handle <;> cases r.sweeps k operation <;> simp
      · simp [here]
  | drainActs _ ih => exact ih split
  | drainNotices _ ih => exact ih split
  | world _ _ ih => exact ih split

/-- A handle is told nothing before it is given out. -/
theorem dataTold_early (h : History ts r) (fresh : handle ∉ handles ts) :
    dataTold handle (notices ts) = [] := by
  unfold dataTold notices
  rw [List.filterMap_flatMap, List.flatMap_eq_nil_iff]
  intro u mem
  obtain ⟨before, after, split⟩ := List.append_of_mem mem
  have history := h.before split
  have none (k : String) : u.before.holders k handle =
      if k = "" ∧ false = true then [⟨handle, .all⟩] else [] := by
    rw [history.holders_of_fresh (fresh_early split fresh)]
    simp
  exact Turn.dataTold_of_holders history.sound none

/-- A subscription to frames is told of those that arrived while it stood. -/
theorem dataTold_eq (h : History ts r) (split : ts = early ++ t :: late) {key : String}
    {filter : MessageFilter} (made : t.made = some (.data key filter, handle)) :
    dataTold handle (notices ts) =
      ((late.takeWhile fun u => !u.ends (.data key filter) handle).filterMap Turn.arrival).filter
        (wanted key filter) := by
  have start := h.before split
  have first : dataTold handle t.notices = [] := by
    rw [Turn.dataTold_eq start.sound,
      Turn.arrival_of_subscribing (Turn.isSubscribing_of_made made)]
    rfl
  have rest : dataTold handle (notices late) =
      (late.takeWhile fun u => !u.ends (.data key filter) handle).flatMap
        fun u => u.arrival.toList.filter (wanted key filter) := by
    unfold dataTold notices
    rw [List.filterMap_flatMap]
    refine flatMap_eq_takeWhile (fun u ends => ?_) fun before u after between => ?_
    · have absent : u.arrival = none := by
        rw [Turn.ends_data] at ends
        unfold Turn.arrival
        cases operation : u.operation <;> rw [operation] at ends <;>
          first | rfl | cases ends
      rw [absent]
      rfl
    · have history := h.before_late split between
      exact Turn.dataTold_of_holders history.sound (history.holders_eq rfl made)
  rw [notices_split split, dataTold_append, dataTold_append,
    start.dataTold_early (h.handle_fresh split made), first, rest,
    List.filterMap_eq_flatMap_toList, List.filter_flatMap]
  rfl

end History

/-! ## Subscriptions to states -/

theorem Turn.statusTold_eq {t : Turn σ} (sound : Sound t.before) (handle : SubscriptionHandle) :
    statusTold handle t.notices = (statuses (t.acts.map Prod.snd)).flatMap fun event =>
      (t.before.enlisted handle).map fun _ => event := by
  have nothing : statusTold handle (t.arrival.toList.flatMap t.before.deliveries) = [] := by
    unfold statusTold
    rw [List.filterMap_flatMap, List.flatMap_eq_nil_iff]
    exact fun event _ => statusTold_deliveries t.before handle event
  rw [Turn.notices_eq sound, statusTold_append, nothing, List.append_nil,
    statusTold_announcements]

theorem enlisted_operate (old : handle ≠ ⟨r.nextHandle⟩) (operation : Operation) :
    (r.operate operation).enlisted handle =
      if operation.drops handle then [] else r.enlisted handle := by
  have joined : (r.enlists operation).filter (fun listed => listed = handle) = [] := by
    cases operation with
    | subscribeStatus => simp [enlists, Ne.symm old]
    | _ => rfl
  have dropped (listed : SubscriptionHandle) :
      (decide (listed = handle) && !operation.drops listed) =
        (decide (listed = handle) && !operation.drops handle) := by
    by_cases own : listed = handle <;> simp [own]
  unfold enlisted
  rw [statusListeners_operate, List.filter_append, joined, List.append_nil]
  simp only [List.filter_filter, dropped]
  cases operation.drops handle <;> simp

namespace History

variable {ts early late : List (Turn σ)} {t : Turn σ}

theorem enlisted_of_fresh (h : History ts r) (fresh : handle ∉ handles ts) :
    r.enlisted handle = [] := by
  unfold enlisted
  rw [List.filter_eq_nil_iff]
  intro listed mem own
  rw [of_decide_eq_true own] at mem
  exact fresh (mem_handles_of_standing ((h.filed.status handle).mp mem))

/-- A subscription is listed, once, as long as it stands. -/
theorem enlisted_eq (h : History ts r) (split : ts = early ++ t :: late)
    (made : t.made = some (.status, handle)) :
    r.enlisted handle = if late.all (fun u => !u.ends .status handle) then [handle] else [] := by
  induction h generalizing late with
  | begin => simp at split
  | @turn ts r h operation ih =>
    rcases split_of_concat split with ⟨rfl, rfl, rfl⟩ | ⟨rest, rfl, earlier⟩
    · obtain rfl := made_number made
      cases operation <;> cases made
      have before : r.statusListeners.filter (fun listed => listed = ⟨r.nextHandle⟩) = [] :=
        h.enlisted_of_fresh h.filed.fresh
      unfold enlisted
      rw [statusListeners_operate, List.filter_append]
      simp [Operation.drops, enlists, before]
    · have old : handle ≠ ⟨r.nextHandle⟩ := by
        rintro rfl
        exact h.filed.fresh (mem_handles_of_made earlier made)
      rw [enlisted_operate old, ih earlier, List.all_append, List.all_cons, Turn.ends_status]
      cases operation.drops handle <;> simp
  | drainActs _ ih => exact ih split
  | drainNotices _ ih => exact ih split
  | world _ _ ih => exact ih split

theorem statusTold_early (h : History ts r) (fresh : handle ∉ handles ts) :
    statusTold handle (notices ts) = [] := by
  unfold statusTold notices
  rw [List.filterMap_flatMap, List.flatMap_eq_nil_iff]
  intro u mem
  obtain ⟨before, after, split⟩ := List.append_of_mem mem
  have history := h.before split
  refine (Turn.statusTold_eq history.sound handle).trans ?_
  rw [history.enlisted_of_fresh (fresh_early split fresh)]
  simp

/-- A subscription to states is told of all those that were entered while it stood. -/
theorem statusTold_eq (h : History ts r) (split : ts = early ++ t :: late)
    (made : t.made = some (.status, handle)) : statusTold handle (notices ts) =
      (late.takeWhile fun u => !u.ends .status handle).flatMap
        fun u => statuses (u.acts.map Prod.snd) := by
  have start := h.before split
  have first : statusTold handle t.notices = [] := by
    rw [Turn.statusTold_eq start.sound, Turn.acts_of_subscribing (Turn.isSubscribing_of_made made)]
    rfl
  have rest : statusTold handle (notices late) =
      (late.takeWhile fun u => !u.ends .status handle).flatMap
        fun u => statuses (u.acts.map Prod.snd) := by
    unfold statusTold notices
    rw [List.filterMap_flatMap]
    refine flatMap_eq_takeWhile (fun u ends => ?_) fun before u after between => ?_
    · rw [Turn.ends_status] at ends
      rw [Turn.acts_of_subscribing (Operation.isSubscribing_of_drops ends)]
      rfl
    · have history := h.before_late split between
      refine (Turn.statusTold_eq history.sound handle).trans ?_
      rw [history.enlisted_eq rfl made]
      cases before.all fun u => !u.ends .status handle <;> simp
  rw [notices_split split, statusTold_append, statusTold_append,
    start.statusTold_early (h.handle_fresh split made), first, rest]
  rfl

end History

/-! ## The law of subscriptions -/

/-- What subscriptions get of a history. -/
structure Attended (ts : List (Turn σ)) (r : Registry σ) : Prop where
  /-- A data subscription is told of the frames that arrive until it ends, each once, in order. -/
  delivered : ∀ early t late key filter, ts = early ++ t :: late →
    t.operation = .subscribe key filter →
      dataTold (t.before.subscribe key filter).1 (History.notices ts) =
        ((late.takeWhile fun u => !u.ends (.data key filter) (t.before.subscribe key filter).1)
          |>.filterMap Turn.arrival).filter (wanted key filter)
  /-- No handle is given out twice. -/
  distinct : (handles ts).Nodup
  /-- A subscription can be dropped exactly as long as it stands. -/
  dropped : ∀ handle, (r.unsubscribe handle).1 = true ↔
    ∃ subscription, Standing ts subscription handle
  /-- Then it is gone, and all others are still there. -/
  others : ∀ handle other,
    (r.unsubscribe handle).2.isSubscribed other = (r.isSubscribed other && other ≠ handle)

/-- In every history, a data subscription is told of exactly the frames that sessions under its key
heard from their transports while it stood and that its filter wants, whatever else happened to
these sessions; and a handle stands for one subscription. -/
theorem attended {ts : List (Turn σ)} (h : History ts r) : Attended ts r where
  delivered early t late key filter split subscribes := by
    have made : t.made = some (.data key filter, (t.before.subscribe key filter).1) := by
      unfold Turn.made
      rw [subscribes]
      rfl
    exact h.dataTold_eq split made
  distinct := h.filed.distinct
  dropped handle := by
    have answer : (r.unsubscribe handle).1 = r.isSubscribed handle := rfl
    rw [answer, isSubscribed_iff h.filed.sorted, h.filed.status]
    constructor
    · rintro (stands | ⟨key, filter, listed⟩)
      · exact ⟨.status, stands⟩
      · exact ⟨.data key filter, (h.filed.data key filter handle).mp listed⟩
    · rintro ⟨key | _, stands⟩
      · exact .inr ⟨_, _, (h.filed.data _ _ handle).mpr stands⟩
      · exact .inl stands
  others := r.isSubscribed_unsubscribe

/-- A subscription hears a challenge and the rejection that ends the session, but not what comes
after it. It hears the next session under the key, until that is removed. -/
theorem attended_rejected : ∃ (ts : List (Turn ScriptedNetwork)) (r : Registry ScriptedNetwork),
    History ts r ∧ (dataTold ⟨1⟩ (History.notices ts)).map DataEvent.code = [6, 6, 6] ∧
      r.isSubscribed ⟨1⟩ = false ∧ r.isSubscribed ⟨3⟩ = true ∧ Attended ts r :=
  have begun : History [] _ := .begin ({} : ScriptedNetwork)
    { credentials := some (.str "secret") } scriptedMark
  have hearing {ts : List (Turn ScriptedNetwork)} {r : Registry ScriptedNetwork}
      (h : History ts r) (generation : Nat) (phase : AuthPhase) :=
    h.turn (.handleTransportEvent ⟨"k", generation⟩
      (.frame (((Message.authenticate ⟨none, phase⟩).encode none).toOption.getD [])) ⟨0⟩)
  have subscribed := (begun.turn (.subscribe "k" .all)).turn (.subscribe "k" (.only 16))
  have opened := (subscribed.turn (.connect "k" default none ⟨0⟩)).turn
    (.handleTransportEvent ⟨"k", 1⟩ .opened ⟨0⟩)
  have rejected := hearing (hearing opened 1 (.required [])) 1 (.failure none)
  have again := ((hearing rejected 1 .success).turn (.connect "k" default none ⟨0⟩)).turn
    (.handleTransportEvent ⟨"k", 4⟩ .opened ⟨0⟩)
  have removed := (hearing again 4 (.required [])).turn (.remove "k")
  have history := removed.turn (.subscribe "k" .all)
  ⟨_, _, history, by decide +kernel, by decide +kernel, by decide +kernel, attended history⟩

end Registry

end Switchboard
