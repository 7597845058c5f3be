import MagicRouter.Pubsub.Dispatch

/-! What the dispatcher makes of the announced upstream states: which URLs it has
connections for once its attempts have completed, and what becomes of the requests
it takes meanwhile. -/

namespace MagicRouter.SubscriptionDispatcher

open Library

/-- An attempt for the URL has not completed. -/
def Pending (s : SubscriptionDispatcher) (url : Url) : Prop :=
  ∃ target, (url, target) ∈ s.connections

/-- The destination has a pool with a live connection. -/
def Connected (s : SubscriptionDispatcher) (url : Url) : Prop :=
  ∃ id, s.upstreams.lookup url = some id ∧ 0 < (s.pools id).live

/-- The URLs without a pending attempt are those announced online last. -/
def Follows (s : SubscriptionDispatcher) : Prop :=
  ∀ url, ¬ s.Pending url → (url ∈ s.upstreams ↔ s.lastState url = some true)

/-- Every attempt establishes a connection, and no connection task ends. -/
def Healthy : Action → Prop
  | .completed _ established => true ∈ established
  | .disconnect _ => False
  | _ => True

/-- An attempt that is the last one pending for its URL completes while the URL is
announced online. -/
def Timely (s : SubscriptionDispatcher) : Action → Prop
  | .completed attempt _ => ∀ url target, s.connections[attempt]? = some (url, target) →
      (∀ target', (url, target') ∉ s.connections.eraseIdx attempt) → s.lastState url = some true
  | _ => True

/-- The request was put into the channel of a pool of the URL that had a connection. -/
def Delivered (s : SubscriptionDispatcher) (request : Nat) (url : Url) : Prop :=
  ∃ delivery ∈ s.delivered, delivery.request = request ∧ delivery.url = url ∧ 0 < delivery.live

/-- What has become of a request that was taken. -/
inductive Fate where
  /-- it is in the channel of a pool, behind so many others -/
  | queued (pool : PoolId) (ahead : Nat)
  /-- a connection of the pool has taken it out of the channel -/
  | received (pool : PoolId)
  | discarded
  deriving DecidableEq

/-- What taking a request makes of it. -/
def fateOf (s : SubscriptionDispatcher) (request : Subscription) : Fate :=
  match s.upstreams.lookup request.destination with
  | none => .discarded
  | some pool =>
    if (s.pools pool).live = 0 then .discarded else .queued pool (s.pools pool).queue.length

namespace Fate

/-- What a later step makes of it. The channel goes with the last connection of its pool. -/
def next (s : SubscriptionDispatcher) : Fate → Action → Fate
  | .queued pool ahead, .receive other =>
    if other = pool then
      match ahead with
      | 0 => .received pool
      | ahead + 1 => .queued pool ahead
    else .queued pool ahead
  | .queued pool ahead, .disconnect other =>
    if other = pool ∧ (s.pools pool).live = 1 then .discarded else .queued pool ahead
  | fate, _ => fate

/-- What the steps of a run make of it. -/
def after (fate : Fate) : SubscriptionDispatcher → List Action → Fate
  | _, [] => fate
  | s, action :: rest =>
    match step s action with
    | none => fate
    | some t => (fate.next s action).after t rest

end Fate

/-- The request is in the channel of a pool of its destination that has a connection to
take it, or was taken by a connection of such a pool. -/
def Placed (s : SubscriptionDispatcher) (request : Subscription) : Fate → Prop
  | .queued pool ahead => (s.pools pool).url = request.destination ∧ 0 < (s.pools pool).live ∧
      (s.pools pool).queue[ahead]? = some request
  | .received pool => (s.pools pool).url = request.destination
  | .discarded => False

/-- How many requests the connections of a pool take. -/
def received (pool : PoolId) (actions : List Action) : Nat :=
  actions.countP fun
    | .receive other => other = pool
    | _ => false

/-- When the last connection of the pool ends, its connections have taken more than
`ahead` requests. -/
def Outlasts (pool : PoolId) (ahead : Nat) (s : SubscriptionDispatcher) (actions : List Action) :
    Prop :=
  ∀ before t after, actions = before ++ .disconnect pool :: after → Run (Fires step) s before t →
    (t.pools pool).live = 1 → ahead < received pool before

variable {s t w : SubscriptionDispatcher} {action : Action} {url : Url} {request : Subscription}
variable {pool : PoolId} {actions : List Action}

/-- Every pool a request can be sent to has a live connection. -/
structure Alive (s : SubscriptionDispatcher) : Prop where
  pooled : WellPooled s
  live : ∀ url pool, s.upstreams.lookup url = some pool → 0 < (s.pools pool).live

theorem Alive.initial (count : Nat) : Alive (new count) where
  pooled := .initial count
  live url pool found := by simp [SubscriptionDispatcher.new] at found

theorem Alive.step (alive : Alive s) (healthy : Healthy action) (step : Step s action t) :
    Alive t := by
  refine ⟨alive.pooled.step step, ?_⟩
  intro url pool found
  -- the connections of a pool change only where a task ends
  have kept {other : PoolId} {changed : ConnectionPool}
      (same : changed.live = (s.pools other).live) (found : s.upstreams.lookup url = some pool) :
      0 < (Function.update s.pools other changed pool).live := by
    by_cases here : pool = other
    · subst here
      simpa [same] using alive.live _ _ found
    · simpa [here] using alive.live _ _ found
  cases step with
  | offline | dead =>
    rw [Store.lookup_erase_if] at found
    split at found
    · cases found
    · exact alive.live _ _ found
  | known | attempt | unknown | terminate => exact alive.live _ _ found
  | deliver => exact kept rfl found
  | receive => exact kept rfl found
  | disconnect => exact healthy.elim
  | completed =>
    rw [Store.lookup_insert_if] at found
    split at found
    · cases found
      have connected := List.count_pos_iff.mpr healthy
      simpa [trySpawnConnections_live] using connected
    · have created := (alive.pooled _ _ found).1
      simpa [Nat.ne_of_lt created] using alive.live _ _ found

/-- A state message for one URL leaves what holds of the others. -/
private theorem Follows.of_state (follows : Follows s) {message : WsUpstreamState} {said : Bool}
    (other : url ≠ message.url) (unpending : ¬ s.Pending url) :
    url ∈ s.upstreams ↔ Function.update s.lastState message.url (some said) url = some true := by
  rw [Function.update_of_ne other]
  exact follows url unpending

/-- The completion of one attempt leaves the pending attempts of other URLs. -/
theorem pending_of_erase {attempt : Nat} {first : Url} {target : PubSubUpstreamKind}
    (found : s.connections[attempt]? = some (first, target)) (other : url ≠ first)
    (pending : s.Pending url) : ∃ target', (url, target') ∈ s.connections.eraseIdx attempt := by
  obtain ⟨target', member⟩ := pending
  obtain ⟨position, there⟩ := List.mem_iff_getElem?.mp member
  refine ⟨target', List.mem_eraseIdx_iff_getElem?.mpr ⟨position, ?_, there⟩⟩
  rintro rfl
  cases found.symm.trans there
  exact other rfl

/-- From a state that follows the announcements, the steps that lead to another one
are the timely ones. -/
theorem Follows.step_iff (follows : Follows s) (alive : Alive s) (healthy : Healthy action)
    (step : Step s action t) : Follows t ↔ Timely s action := by
  cases step with
  | @offline message gone =>
    refine ⟨fun _ => trivial, fun _ url unpending => ?_⟩
    by_cases here : url = message.url
    · subst here
      simp [AList.mem_erase]
    · rw [AList.mem_erase, and_iff_right here]
      exact follows.of_state here unpending
  | @known message online present =>
    refine ⟨fun _ => trivial, fun _ url unpending => ?_⟩
    by_cases here : url = message.url
    · subst here
      simpa using present
    · exact follows.of_state here unpending
  | @attempt message online absent =>
    refine ⟨fun _ => trivial, fun _ url unpending => ?_⟩
    by_cases here : url = message.url
    · subst here
      exact absurd ⟨message.target, by simp⟩ unpending
    · apply follows.of_state here
      rintro ⟨target, member⟩
      exact unpending ⟨target, List.mem_append_left _ member⟩
  | unknown | deliver | terminate | receive => exact ⟨fun _ => trivial, fun _ => follows⟩
  | dead found ended =>
    have live := alive.live _ _ found
    omega
  | disconnect => exact healthy.elim
  | @completed attempt first target established found =>
    constructor
    · intro after url target' found' unpending
      cases found.symm.trans found'
      have present : first ∈ s.upstreams.insert first s.nextPool := (AList.mem_insert _).mpr (.inl rfl)
      exact (after first (by rintro ⟨target', member⟩; exact unpending target' member)).mp present
    · intro timely url unpending
      by_cases here : url = first
      · subst here
        have said := timely url target found fun target' member => unpending ⟨target', member⟩
        simpa using said
      · have before : ¬ s.Pending url := by
          intro pending
          exact unpending (pending_of_erase found here pending)
        rw [AList.mem_insert, or_iff_right here]
        exact follows url before

theorem Follows.initial (count : Nat) : Follows (new count) := by
  intro url _
  simp [new]

/-- The dispatcher follows the announced states all along a run exactly if every
attempt completes in time: the last one pending for a URL not after the URL was
announced offline. -/
theorem follows_announcements_iff {count : Nat} (run : Run (Fires step) (new count) actions s)
    (healthy : ∀ action ∈ actions, Healthy action) :
    Throughout step Follows (new count) actions ↔
      Run (Guarded Timely (Fires step)) (new count) actions s := by
  apply throughout_iff_guarded (Alive.initial count) (Follows.initial count) _ _ run healthy
  · intro s action t healthy alive fired
    exact alive.step healthy (step_sound fired)
  · intro s action t healthy alive follows fired
    exact follows.step_iff alive healthy (step_sound fired)

/-- An ER upstream and what is said about it in the runs below. -/
def sampleUrl : Url := { scheme := "wss", rest := "//node.er/" }

def sampleState (isOnline : Bool) : WsUpstreamState where
  isOnline
  url := sampleUrl
  target := .ephem

def sampleRequest : Subscription where
  requestId := ⟨1⟩
  subscriberId := ⟨1⟩
  payload := accountSubscriptionJson ⟨1⟩ .default none
  tx := ⟨0⟩
  destination := sampleUrl
  upstream := .ephem

/-- The attempt completes before the URL goes offline. -/
def connectsInTime : List Action :=
  [.state (sampleState true), .completed 0 [true], .state (sampleState false)]

theorem follows_announcements_in_time : Throughout step Follows (new 1) connectsInTime := by
  let timely (s : SubscriptionDispatcher) (action : Action) : Bool := match action with
    | .completed attempt _ => (s.connections[attempt]?).all fun pending =>
        s.lastState pending.1 == some true
    | _ => true
  obtain ⟨s, checkedRun, _⟩ := exists_run_of_exec
    (show (exec (checkedStep timely step) (new 1) connectsInTime).map
      (fun s => s.connections.isEmpty) = some true by decide +kernel)
  have guarded : Run (Guarded Timely (Fires step)) (new 1) connectsInTime s := by
    apply checkedRun.guarded_of_checked
    intro s action allowed
    cases action with
    | completed attempt established =>
      intro url target found _
      simpa [timely, found] using allowed
    | _ => trivial
  refine (follows_announcements_iff guarded.unguarded ?_).mpr guarded
  simp [connectsInTime, Healthy]

/-- The URL goes offline while the attempt for it is pending, and is a key again once
the attempt completes. -/
theorem offline_during_attempt_forgotten :
    ¬ ∀ count actions s, Run (Fires step) (new count) actions s →
      (∀ action ∈ actions, Healthy action) → s.connections = [] →
      ∀ url, url ∈ s.upstreams ↔ s.lastState url = some true := by
  intro claimed
  obtain ⟨s, run, checked⟩ := exists_run_of_exec
    (show (exec step (new 1)
        [.state (sampleState true), .state (sampleState false), .completed 0 [true]]).map (fun s =>
      s.connections.isEmpty && decide (sampleUrl ∈ s.upstreams) &&
        s.lastState sampleUrl == some false) = some true by decide +kernel)
  simp only [Bool.and_eq_true, decide_eq_true_eq, beq_iff_eq, List.isEmpty_iff] at checked
  obtain ⟨⟨quiet, known⟩, offline⟩ := checked
  have online := (claimed 1 _ s run (by simp [Healthy]) quiet sampleUrl).mp known
  cases offline.symm.trans online

/-- Deliveries stay. -/
theorem delivered_later (later : Run (Fires step) s actions t) : s.delivered ⊆ t.delivered := by
  induction later with
  | nil => exact List.Subset.refl _
  | snoc _ last ih =>
    refine List.Subset.trans ih ?_
    cases step_sound last with
    | deliver => exact List.subset_append_left _ _
    | _ => exact List.Subset.refl _

theorem Fate.after_snoc (fate : Fate) (run : Run (Fires step) s actions t)
    (last : step t action = some w) :
    fate.after s (actions ++ [action]) = (fate.after s actions).next t action := by
  induction actions generalizing s fate with
  | nil =>
    cases run.of_nil
    simp [Fate.after, last]
  | cons first rest ih =>
    obtain ⟨middle, fired, later⟩ := run.of_cons
    simp only [List.cons_append, Fate.after, show step s first = some middle from fired]
    exact ih (fate.next s first) later

theorem Fate.after_discarded (s : SubscriptionDispatcher) (actions : List Action) :
    Fate.discarded.after s actions = .discarded := by
  induction actions generalizing s with
  | nil => rfl
  | cons action rest ih =>
    simp only [Fate.after]
    split
    · rfl
    · exact ih _

theorem received_snoc (pool : PoolId) (actions : List Action) (action : Action) :
    received pool (actions ++ [action]) = received pool actions + received pool [action] :=
  List.countP_append

theorem Outlasts.snoc_iff {ahead : Nat} (run : Run (Fires step) s actions t)
    (last : step t action = some w) :
    Outlasts pool ahead s (actions ++ [action]) ↔ Outlasts pool ahead s actions ∧
      (action = .disconnect pool → (t.pools pool).live = 1 → ahead < received pool actions) := by
  constructor
  · intro outlasts
    refine ⟨?_, ?_⟩
    · rintro before middle after rfl
      exact outlasts before middle (after ++ [action]) (by simp)
    · rintro rfl
      exact outlasts actions t [] rfl run
  · rintro ⟨outlasts, final⟩ before middle after parts earlier ending
    rcases List.eq_nil_or_concat after with rfl | ⟨rest, other, rfl⟩
    · obtain ⟨rfl, same⟩ := List.append_inj' parts rfl
      cases same
      cases run.fires_unique earlier
      exact final rfl ending
    · rw [List.concat_eq_append, ← List.cons_append, ← List.append_assoc] at parts
      obtain ⟨parts, _⟩ := List.append_inj' parts rfl
      exact outlasts before middle rest parts earlier ending

@[simp] theorem Fate.next_discarded (s : SubscriptionDispatcher) (action : Action) :
    Fate.discarded.next s action = .discarded := by
  cases action with
  | _ => rfl

@[simp] theorem Fate.next_received (s : SubscriptionDispatcher) (pool : PoolId) (action : Action) :
    (Fate.received pool).next s action = .received pool := by
  cases action with
  | _ => rfl

/-- What happens at other pools is nothing to a request that waits. -/
theorem queued_next_apart (s : SubscriptionDispatcher) {left : Nat}
    (apart : received pool [action] = 0) (elsewhere : action ≠ .disconnect pool) :
    (Fate.queued pool left).next s action = .queued pool left := by
  cases action with
  | receive other =>
    have different : other ≠ pool := by simpa [received] using apart
    simp [Fate.next, different]
  | disconnect other =>
    have different : other ≠ pool := fun same => elsewhere (same ▸ rfl)
    simp [Fate.next, different]
  | _ => rfl

/-- What a step makes of a pool that exists. -/
inductive Passes (pool : PoolId) (s t : SubscriptionDispatcher) : Action → Prop where
  | same (apart : received pool [other] = 0) (elsewhere : other ≠ .disconnect pool)
      (kept : t.pools pool = s.pools pool) : Passes pool s t other
  | sent (added : t.pools pool = { s.pools pool with queue := (s.pools pool).queue ++ [sub] }) :
      Passes pool s t (.request sub)
  | taken (queued : (s.pools pool).queue = sub :: rest)
      (left : t.pools pool = { s.pools pool with queue := rest }) : Passes pool s t (.receive pool)
  | ended (connected : (s.pools pool).live = live + 1) (left : t.pools pool =
      { s.pools pool with live, queue := if live = 0 then [] else (s.pools pool).queue }) :
      Passes pool s t (.disconnect pool)

theorem Step.passes (step : Step s action t) (created : pool < s.nextPool) :
    Passes pool s t action := by
  cases step with
  | offline | known | attempt | unknown | dead | terminate => exact .same rfl nofun rfl
  | @deliver other sub found live =>
    by_cases here : pool = other
    · subst here
      exact .sent (by simp)
    · exact .same rfl nofun (by simp [here])
  | completed => exact .same rfl nofun (by simp [Nat.ne_of_lt created])
  | @receive other request rest queued =>
    by_cases here : pool = other
    · subst here
      exact .taken queued (by simp)
    · exact .same (by simp [received, Ne.symm here]) nofun (by simp [here])
  | @disconnect other live connected =>
    by_cases here : pool = other
    · subst here
      exact .ended connected (by simp)
    · refine .same rfl ?_ (by simp [here])
      rintro same
      cases same
      exact here rfl

theorem Step.nextPool_le (step : Step s action t) : s.nextPool ≤ t.nextPool := by
  cases step with
  | completed => exact Nat.le_succ _
  | _ => exact Nat.le_refl _

/-- A request that was put into the channel of a pool behind `ahead` others: it waits
behind those that are left, was taken, or went with the channel. -/
inductive Course (pool : PoolId) (ahead : Nat) (request : Subscription)
    (s : SubscriptionDispatcher) (actions : List Action) (t : SubscriptionDispatcher) :
    Fate → Prop where
  | waiting (left : Nat) (behind : left + received pool actions = ahead)
      (live : 0 < (t.pools pool).live) (queued : (t.pools pool).queue[left]? = some request)
      (outlasts : Outlasts pool ahead s actions) : Course pool ahead request s actions t (.queued pool left)
  | taken (passed : ahead < received pool actions) (outlasts : Outlasts pool ahead s actions) :
      Course pool ahead request s actions t (.received pool)
  | lost (ended : ¬ Outlasts pool ahead s actions) : Course pool ahead request s actions t .discarded

theorem Course.snoc {ahead : Nat} {fate : Fate} (course : Course pool ahead request s actions t fate)
    (run : Run (Fires SubscriptionDispatcher.step) s actions t)
    (last : t.step action = some w) (passes : Passes pool t w action) :
    Course pool ahead request s (actions ++ [action]) w (fate.next t action) := by
  have outlasts_iff : Outlasts pool ahead s (actions ++ [action]) ↔ Outlasts pool ahead s actions ∧
      (action = .disconnect pool → (t.pools pool).live = 1 → ahead < received pool actions) :=
    Outlasts.snoc_iff run last
  have counted := received_snoc pool actions action
  cases course with
  | lost ended =>
    rw [Fate.next_discarded]
    exact .lost fun outlasts => ended (outlasts_iff.mp outlasts).1
  | taken passed outlasts =>
    rw [Fate.next_received]
    exact .taken (by omega) (outlasts_iff.mpr ⟨outlasts, fun _ _ => passed⟩)
  | waiting left behind live queued outlasts =>
    cases passes with
    | same apart elsewhere kept =>
      rw [queued_next_apart t apart elsewhere]
      exact .waiting left (by omega) (kept ▸ live) (kept ▸ queued)
        (outlasts_iff.mpr ⟨outlasts, fun same => absurd same elsewhere⟩)
    | sent added =>
      have longer : (w.pools pool).queue[left]? = some request := by
        obtain ⟨short, _⟩ := List.getElem?_eq_some_iff.mp queued
        simpa [added, List.getElem?_append_left short] using queued
      exact .waiting left (counted ▸ behind) (added ▸ live) longer
        (outlasts_iff.mpr ⟨outlasts, nofun⟩)
    | taken first remain =>
      have one : received pool [.receive pool] = 1 := by simp [received]
      have still := outlasts_iff.mpr ⟨outlasts, nofun⟩
      rw [first] at queued
      cases left with
      | zero =>
        simp only [Fate.next, if_pos]
        exact .taken (by omega) still
      | succ left =>
        simp only [Fate.next, if_pos]
        exact .waiting left (by omega) (remain ▸ live) (by simpa [remain] using queued) still
    | @ended live' connected remain =>
      have none' : received pool [.disconnect pool] = 0 := rfl
      by_cases final : (t.pools pool).live = 1
      · simp only [Fate.next, final, and_self, if_pos]
        refine .lost fun outlasts' => ?_
        have before := (outlasts_iff.mp outlasts').2 rfl final
        omega
      · have running : live' ≠ 0 := by omega
        simp only [Fate.next, final, and_false, if_false]
        refine .waiting left (by omega) ?_ ?_ (outlasts_iff.mpr ⟨outlasts, fun _ one => absurd one final⟩)
        · simpa [remain] using Nat.pos_of_ne_zero running
        · simpa [remain, running] using queued

theorem Course.reached {later : List Action} (created : pool < s.nextPool)
    (live : 0 < (s.pools pool).live) {ahead : Nat}
    (queued : (s.pools pool).queue[ahead]? = some request)
    (run : Run (Fires SubscriptionDispatcher.step) s later t) :
    Course pool ahead request s later t ((Fate.queued pool ahead).after s later) ∧
      pool < t.nextPool ∧ (t.pools pool).url = (s.pools pool).url := by
  induction run with
  | nil =>
    refine ⟨.waiting ahead rfl live queued ?_, created, rfl⟩
    intro before middle after empty
    simp at empty
  | snoc earlier last ih =>
    obtain ⟨course, existed, same⟩ := ih
    have passes := (step_sound last).passes existed
    rw [Fate.after_snoc _ earlier last]
    refine ⟨course.snoc earlier last passes, ?_, ?_⟩
    · exact Nat.lt_of_lt_of_le existed (step_sound last).nextPool_le
    · rw [← same]
      cases passes with
      | same _ _ kept => rw [kept]
      | sent added => rw [added]
      | taken _ left | ended _ left => rw [left]

/-- What becomes of a request in the channel of a pool, as far as a run goes. -/
theorem Course.placed_iff {later : List Action} (pooled : WellPooled s)
    (found : s.upstreams.lookup request.destination = some pool)
    (live : 0 < (s.pools pool).live) (ahead : Nat)
    (queued : (s.pools pool).queue[ahead]? = some request)
    (run : Run (Fires SubscriptionDispatcher.step) s later t) :
    Placed t request ((Fate.queued pool ahead).after s later) ↔ Outlasts pool ahead s later := by
  obtain ⟨created, own⟩ := pooled _ _ found
  obtain ⟨course, _, same⟩ := Course.reached created live queued run
  generalize (Fate.queued pool ahead).after s later = fate at course
  have url : (t.pools pool).url = request.destination := same.trans own
  cases course with
  | waiting left _ live queued outlasts => exact ⟨fun _ => outlasts, fun _ => ⟨url, live, queued⟩⟩
  | taken _ outlasts => exact ⟨fun _ => outlasts, fun _ => url⟩
  | lost ended => exact ⟨False.elim, ended⟩

/-- A request enters the channel of a pool of its destination and is from then on there,
in its turn, or taken by a connection, exactly if the destination has a pool with a live
connection when it is taken, and the connections of that pool get to it before the last
of them ends. -/
theorem request_delivered_iff {count : Nat} {w : SubscriptionDispatcher} {rest : List Action}
    (earlier : Run (Fires step) (new count) actions s)
    (fired : step s (.request request) = some t) (later : Run (Fires step) t rest w) :
    (Delivered w s.taken request.destination ∧
        Placed w request ((s.fateOf request).after t rest)) ↔
      ∃ pool, s.upstreams.lookup request.destination = some pool ∧ 0 < (s.pools pool).live ∧
        Outlasts pool (s.pools pool).queue.length t rest := by
  have pooled := WellPooled.reached earlier
  have pooled' := pooled.step (step_sound fired)
  cases step_sound fired with
  | unknown absent =>
    have lost : s.fateOf request = .discarded := by simp [fateOf, absent]
    rw [lost, Fate.after_discarded]
    simp [Placed, absent]
  | dead found ended =>
    have lost : s.fateOf request = .discarded := by simp [fateOf, found, ended]
    rw [lost, Fate.after_discarded]
    simp [Placed, found, ended]
  | @deliver pool _ found live =>
    have delivered : Delivered w s.taken request.destination :=
      ⟨_, delivered_later later (List.mem_append_right _ (List.mem_singleton_self _)), rfl,
        (pooled _ _ found).2, live⟩
    have entered : s.fateOf request = .queued pool (s.pools pool).queue.length := by
      simp [fateOf, found, Nat.ne_of_gt live]
    have placed_iff := Course.placed_iff pooled' found (by simpa using live)
      (s.pools pool).queue.length (by simp) later
    rw [entered, and_iff_right delivered, placed_iff]
    simp [found, live]

/-- A connection takes the request and ends. -/
theorem request_delivered_connected :
    ∃ s t w, Run (Fires step) (new 1) [.state (sampleState true), .completed 0 [true]] s ∧
      step s (.request sampleRequest) = some t ∧
      Run (Fires step) t [.receive 0, .disconnect 0] w ∧ Delivered w s.taken sampleUrl ∧
      Placed w sampleRequest ((s.fateOf sampleRequest).after t [.receive 0, .disconnect 0]) := by
  obtain ⟨s, run, checked⟩ := exists_run_of_exec
    (show (exec step (new 1) [.state (sampleState true), .completed 0 [true]]).map (fun s =>
      (s.upstreams.lookup sampleUrl == some 0) && decide (0 < (s.pools 0).live) &&
        (s.pools 0).queue.isEmpty && ((step s (.request sampleRequest)).bind fun t =>
          exec step t [.receive 0, .disconnect 0]).isSome) = some true by decide +kernel)
  simp only [Bool.and_eq_true, decide_eq_true_eq, beq_iff_eq, List.isEmpty_iff] at checked
  obtain ⟨⟨⟨found, live⟩, empty⟩, enabled⟩ := checked
  obtain ⟨w, executed⟩ := Option.isSome_iff_exists.mp enabled
  obtain ⟨t, fired, executed⟩ := Option.bind_eq_some_iff.mp executed
  have later := Run.of_exec executed
  refine ⟨s, t, w, run, fired, later, (request_delivered_iff run fired later).mpr ⟨0, found, live, ?_⟩⟩
  intro before middle after parts _ _
  -- the connection has taken the one request of the channel by then
  rcases before with _ | ⟨first, _ | ⟨second, more⟩⟩
  · simp at parts
  · simp only [List.cons_append, List.cons.injEq] at parts
    simp [← parts.1, received, empty]
  · simp at parts

/-- The last connection ends before it gets to the request. -/
example : ((exec step (new 1) [.state (sampleState true), .completed 0 [true]]).bind fun s =>
    (step s (.request sampleRequest)).map fun t =>
      (s.fateOf sampleRequest).after t [.disconnect 0]) = some .discarded := by decide +kernel

/-- A request taken while the attempt for its announced destination is pending is not
delivered when the attempt completes. -/
theorem request_during_attempt_lost :
    ¬ ∀ count actions s request t rest w, Run (Fires step) (new count) actions s →
      s.lastState request.destination = some true → step s (.request request) = some t →
      Run (Fires step) t rest w → w.connections = [] →
      Delivered w s.taken request.destination := by
  intro claimed
  obtain ⟨s, run, checked⟩ := exists_run_of_exec
    (show (exec step (new 1) [.state (sampleState true)]).map (fun s =>
      (s.lastState sampleUrl == some true) &&
        ((step s (.request sampleRequest)).bind fun t =>
          (step t (.completed 0 [true])).map fun w => (w.connections, w.delivered)) ==
            some ([], [])) = some true by decide +kernel)
  simp only [Bool.and_eq_true, beq_iff_eq] at checked
  obtain ⟨announced, executed⟩ := checked
  obtain ⟨t, fired, executed⟩ := Option.bind_eq_some_iff.mp executed
  obtain ⟨w, completed, outcome⟩ := Option.map_eq_some_iff.mp executed
  obtain ⟨quiet, nothing⟩ := Prod.mk.inj outcome
  obtain ⟨delivery, member, _⟩ :=
    claimed 1 _ s sampleRequest t _ w run announced fired (.single completed) quiet
  simp [nothing] at member

end MagicRouter.SubscriptionDispatcher
