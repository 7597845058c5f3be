import MagicRouter.Library.Sharing
import MagicRouter.Pubsub.Dispatch
import MagicRouter.Pubsub.Origins

/-! The dispatcher together with the connections of its pools (`pubsub/dispatch.rs`,
`pubsub/connection.rs`). Every connection runs its own loop; those of one pool take
their requests from one channel, whichever comes first. -/

namespace MagicRouter

open Library Connection

namespace Connection

/-- The request a deed takes from the channel. -/
def Deed.request : Deed → Option Subscription
  | .take sub => some sub
  | _ => none

/-- The request an iteration takes from the channel. -/
def Input.asked : Input → Option Subscription
  | .request sub => some sub
  | _ => none

/-- The requests a connection has taken, in order. -/
def requests (log : List Emission) : List Subscription :=
  log.filterMap (·.deed.request)

theorem requests_append (first second : List Emission) :
    requests (first ++ second) = requests first ++ requests second :=
  List.filterMap_append

theorem requests_eq_nil {log : List Emission}
    (none : ∀ emission ∈ log, emission.deed.request = none) : requests log = [] := by
  exact List.filterMap_eq_nil_iff.mpr none

theorem mem_requests {log : List Emission} {sub : Subscription} :
    sub ∈ requests log ↔ .take sub ∈ log.map Emission.deed := by
  unfold requests
  rw [List.mem_filterMap, List.mem_map]
  constructor
  · rintro ⟨emission, member, asked⟩
    refine ⟨emission, member, ?_⟩
    cases deed : emission.deed with
    | take taken =>
      rw [deed] at asked
      cases asked
      rfl
    | _ => simp [deed, Deed.request] at asked
  · rintro ⟨emission, member, deed⟩
    exact ⟨emission, member, by rw [deed]; rfl⟩

theorem afterSend_requests {c : WebsocketConnection} {event : Event} :
    requests (c.afterSend event).2 = [] := by
  apply requests_eq_nil
  intro emission member
  unfold WebsocketConnection.afterSend at member
  split at member
  · cases member
  · rcases reestablish_does member with ⟨_, _, _, told⟩ | reconnected
    · rw [told]
      rfl
    · rw [reconnected]
      rfl

/-- An iteration takes the request of its input and no other. -/
theorem handle_requests {c : WebsocketConnection} {event : Event} :
    requests (c.handle event).2 = event.input.asked.toList := by
  unfold WebsocketConnection.handle
  split
  · rename_i input
    rw [input]
    rfl
  · rename_i frame input
    rw [input]
    apply requests_eq_nil
    intro emission member
    rcases List.mem_cons.mp member with rfl | later
    · rfl
    · obtain ⟨_, _, _, _, delivered⟩ := receive_delivers later
      rw [delivered]
      rfl
  · rename_i u id input
    rw [input]
    unfold WebsocketConnection.unsubscribe
    split
    · rfl
    · rename_i subid _
      split
      · rfl
      · rename_i subscribers _
        have released : requests ((subscribers.lookup u.subscriberId).toList.map fun handle =>
            { moment := c, deed := .release subid u.subscriberId handle }) = [] := by
          apply requests_eq_nil
          intro emission member
          obtain ⟨handle, _, rfl⟩ := List.mem_map.mp member
          rfl
        rw [requests_append, released]
        exact afterSend_requests
  · rename_i sub input
    rw [input]
    exact congrArg (sub :: ·) afterSend_requests
  · rename_i input
    rw [input]
    exact afterSend_requests

end Connection

/-- The dispatcher with the connections it has spawned. -/
structure Network where
  dispatcher : SubscriptionDispatcher
  /-- the connections of a pool as they were spawned; those that have ended stay listed -/
  members : PoolId → List Session
  /-- connections spawned so far, which number them -/
  spawned : Nat
  /-- the requests that were put into the channel of a pool -/
  entered : PoolId → List Subscription

namespace Network

def new (connectionsPerUpstream : Nat) : Network where
  dispatcher := .new connectionsPerUpstream
  members _ := []
  spawned := 0
  entered _ := []

/-- The requests put into channels, should this one be handled next. -/
def enqueue (n : Network) (request : Subscription) : PoolId → List Subscription :=
  match n.dispatcher.upstreams.lookup request.destination with
  | none => n.entered
  | some pool =>
    if (n.dispatcher.pools pool).live = 0 then n.entered
    else Function.update n.entered pool (n.entered pool ++ [request])

/-- The connections an attempt has established. -/
def spawn (n : Network) (url : Url) (established : List Bool) : List Session :=
  (List.range (established.count true)).map fun number => .start (n.spawned + number) url

inductive Action where
  | state (message : WsUpstreamState)
  | request (request : Subscription)
  | completed (attempt : Nat) (established : List Bool)
  | terminate
  /-- an iteration of the loop of one connection -/
  | iterate (pool : PoolId) (member : Nat) (event : Event)

/-- The dispatcher side of an iteration: a request is the oldest of the channel. -/
def supply (n : Network) (pool : PoolId) : Input → Option SubscriptionDispatcher
  | .request sub =>
    if (n.dispatcher.pools pool).queue.head? = some sub then n.dispatcher.step (.receive pool)
    else none
  | .received _ | .unsubscription _ _ | .ping => some n.dispatcher

/-- A connection whose loop has ended drops its end of the channel. -/
def depart (dispatcher : SubscriptionDispatcher) (pool : PoolId) (session : Session) :
    Option SubscriptionDispatcher :=
  if session.connection.running then some dispatcher else dispatcher.step (.disconnect pool)

def step (n : Network) : Action → Option Network
  | .state message =>
    (n.dispatcher.step (.state message)).map fun dispatcher => { n with dispatcher }
  | .request request =>
    (n.dispatcher.step (.request request)).map fun dispatcher =>
      { n with dispatcher, entered := n.enqueue request }
  | .completed attempt established =>
    match n.dispatcher.connections[attempt]? with
    | none => none
    | some (url, _) =>
      (n.dispatcher.step (.completed attempt established)).map fun dispatcher =>
        { n with
          dispatcher
          members := Function.update n.members n.dispatcher.nextPool (n.spawn url established)
          spawned := n.spawned + established.count true }
  | .terminate => (n.dispatcher.step .terminate).map fun dispatcher => { n with dispatcher }
  | .iterate pool member event =>
    match (n.members pool)[member]? with
    | none => none
    | some session =>
      (Connection.step session event).bind fun next =>
        (n.supply pool event.input).bind fun dispatcher =>
          (depart dispatcher pool next).map fun dispatcher =>
            { n with
              dispatcher
              members := Function.update n.members pool ((n.members pool).set member next) }

/-- Every transition, by what it does to the dispatcher and to the connections. -/
inductive Step (n : Network) : Action → Network → Prop where
  | state (fired : n.dispatcher.step (.state message) = some after) :
      Step n (.state message) { n with dispatcher := after }
  | request (fired : n.dispatcher.step (.request request) = some after) :
      Step n (.request request) { n with dispatcher := after, entered := n.enqueue request }
  | completed (found : n.dispatcher.connections[attempt]? = some (url, target))
      (fired : n.dispatcher.step (.completed attempt established) = some after) :
      Step n (.completed attempt established) { n with
        dispatcher := after
        members := Function.update n.members n.dispatcher.nextPool (n.spawn url established)
        spawned := n.spawned + established.count true }
  | terminate (fired : n.dispatcher.step .terminate = some after) :
      Step n .terminate { n with dispatcher := after }
  | iterate (found : (n.members pool)[member]? = some session)
      (ran : Connection.step session event = some next)
      (supplies : n.supply pool event.input = some between)
      (departs : depart between pool next = some after) :
      Step n (.iterate pool member event) { n with
        dispatcher := after
        members := Function.update n.members pool ((n.members pool).set member next) }

variable {n n' : Network} {action : Action} {actions : List Action} {pool : PoolId}

theorem step_sound (fired : step n action = some n') : Step n action n' := by
  cases action with
  | state message =>
    obtain ⟨after, moved, rfl⟩ := Option.map_eq_some_iff.mp fired
    exact .state moved
  | request request =>
    obtain ⟨after, moved, rfl⟩ := Option.map_eq_some_iff.mp fired
    exact .request moved
  | completed attempt established =>
    simp only [step] at fired
    split at fired
    · cases fired
    · obtain ⟨after, moved, rfl⟩ := Option.map_eq_some_iff.mp fired
      exact .completed ‹_› moved
  | terminate =>
    obtain ⟨after, moved, rfl⟩ := Option.map_eq_some_iff.mp fired
    exact .terminate moved
  | iterate pool member event =>
    simp only [step] at fired
    split at fired
    · cases fired
    · obtain ⟨next, ran, fired⟩ := Option.bind_eq_some_iff.mp fired
      obtain ⟨supplied, took, fired⟩ := Option.bind_eq_some_iff.mp fired
      obtain ⟨after, departs, rfl⟩ := Option.map_eq_some_iff.mp fired
      exact .iterate ‹_› ran took departs

/-- A pool as the dispatcher keeps it, its connections, and the requests put into its
channel: as many connections are counted as are running, and they share the requests,
all of which are for the URL of the pool. -/
structure Staffed (pool : ConnectionPool) (members : List Session) (entered : List Subscription) :
    Prop where
  live : pool.live = members.countP (·.connection.running)
  addressed : ∀ request ∈ entered, request.destination = pool.url
  shared : ∃ turns, Shared entered pool.queue (decide (0 < pool.live))
    (members.map fun session => requests session.log) turns

namespace Staffed

variable {pool : ConnectionPool} {members : List Session} {entered : List Subscription}
variable {session next : Session} {member : Nat} {event : Event}

theorem empty (url : Url) : Staffed { url, live := 0, queue := [] } [] [] where
  live := rfl
  addressed := nofun
  shared := ⟨[], .start [] nofun⟩

theorem enqueue (staffed : Staffed pool members entered) {request : Subscription}
    (addressed : request.destination = pool.url) :
    Staffed { pool with queue := pool.queue ++ [request] } members (entered ++ [request]) where
  live := staffed.live
  addressed other member := by
    rcases List.mem_append.mp member with earlier | now
    · exact staffed.addressed other earlier
    · rw [List.mem_singleton.mp now]
      exact addressed
  shared := by
    obtain ⟨turns, shared⟩ := staffed.shared
    exact ⟨turns, shared.enter request⟩

theorem spawn (n : Network) (url : Url) (established : List Bool) :
    Staffed (SubscriptionDispatcher.trySpawnConnections url established) (n.spawn url established)
      [] where
  live := by
    rw [SubscriptionDispatcher.trySpawnConnections_live]
    have all : ∀ session ∈ n.spawn url established, session.connection.running = true := by
      intro session member
      obtain ⟨number, _, rfl⟩ := List.mem_map.mp member
      rfl
    rw [List.countP_eq_length.mpr all, Network.spawn, List.length_map, List.length_range]
  addressed := nofun
  shared := by
    refine ⟨[], .start _ ?_⟩
    intro taken member
    obtain ⟨session, spawned, rfl⟩ := List.mem_map.mp member
    obtain ⟨number, _, rfl⟩ := List.mem_map.mp spawned
    rfl

/-- A pool is open as long as one of its connections is running. -/
theorem opened (staffed : Staffed pool members entered) (found : members[member]? = some session)
    (running : session.connection.running = true) : 0 < pool.live := by
  rw [staffed.live]
  exact List.countP_pos_iff.mpr ⟨session, List.mem_of_getElem? found, running⟩

/-- An iteration takes at most the oldest request. -/
theorem taken (staffed : Staffed pool members entered) (found : members[member]? = some session)
    (ran : Connection.step session event = some next) {rest : List Subscription}
    (supplied : pool.queue = event.input.asked.toList ++ rest) :
    ∃ turns, Shared entered rest (decide (0 < pool.live))
      ((members.set member next).map fun session => requests session.log) turns := by
  obtain ⟨running, _, log⟩ := step_eq_some ran
  have opened : decide (0 < pool.live) = true := decide_eq_true (staffed.opened found running)
  obtain ⟨turns, shared⟩ := staffed.shared
  rw [opened] at shared ⊢
  have had : (members.map fun session => requests session.log)[member]? =
      some (requests session.log) := by rw [List.getElem?_map, found, Option.map_some]
  have grown : requests next.log = requests session.log ++ event.input.asked.toList := by
    rw [log, requests_append, handle_requests]
  rw [List.map_set, grown]
  cases asked : event.input.asked with
  | none =>
    have same : pool.queue = rest := by simpa [asked] using supplied
    obtain ⟨inside, here⟩ := List.getElem?_eq_some_iff.mp had
    refine ⟨turns, ?_⟩
    rw [Option.toList_none, List.append_nil, ← here, List.set_getElem_self, ← same]
    exact shared
  | some sub =>
    rw [asked] at supplied
    exact ⟨_, Shared.take (supplied ▸ shared) had⟩

/-- One connection is counted as it was, or as one fewer. -/
theorem counted (staffed : Staffed pool members entered) (found : members[member]? = some session)
    (running : session.connection.running = true) (next : Session) :
    (members.set member next).countP (·.connection.running) + 1 =
      pool.live + next.connection.running.toNat := by
  obtain ⟨inside, here⟩ := List.getElem?_eq_some_iff.mp found
  have some := staffed.opened found running
  rw [List.countP_set inside, here, running, if_pos rfl, ← staffed.live]
  cases next.connection.running with
  | false =>
    simp
    omega
  | true =>
    simp
    omega

/-- One of the connections runs through an iteration, taking a request or not. -/
theorem iterate (staffed : Staffed pool members entered) (found : members[member]? = some session)
    (ran : Connection.step session event = some next) {rest : List Subscription}
    (supplied : pool.queue = event.input.asked.toList ++ rest) :
    (next.connection.running = true →
      Staffed { pool with queue := rest } (members.set member next) entered) ∧
    (next.connection.running = false → ∀ left, pool.live = left + 1 →
      Staffed { pool with live := left, queue := if left = 0 then [] else rest }
        (members.set member next) entered) := by
  have counted := staffed.counted found (step_eq_some ran).1 next
  obtain ⟨turns, shared⟩ := staffed.taken found ran supplied
  constructor
  · intro running
    rw [running, Bool.toNat_true] at counted
    exact ⟨(Nat.add_right_cancel counted).symm, staffed.addressed, turns, shared⟩
  · intro ended left before
    rw [ended, Bool.toNat_false, before] at counted
    refine ⟨(Nat.add_right_cancel counted).symm, staffed.addressed, turns, ?_⟩
    apply shared.close
    intro still
    have more : left ≠ 0 := Nat.ne_of_gt (of_decide_eq_true still)
    exact ⟨decide_eq_true (before ▸ Nat.succ_pos left), if_neg more⟩

end Staffed

/-- What holds between the dispatcher and the connections of all its pools. -/
structure Coupled (n : Network) : Prop where
  pooled : n.dispatcher.WellPooled
  staffed : ∀ pool, Staffed (n.dispatcher.pools pool) (n.members pool) (n.entered pool)
  unborn : ∀ pool, n.dispatcher.nextPool ≤ pool → n.members pool = [] ∧ n.entered pool = []

namespace Coupled

theorem initial (count : Nat) : Coupled (new count) where
  pooled := .initial count
  staffed _ := .empty _
  unborn _ _ := ⟨rfl, rfl⟩

/-- A step of the dispatcher that leaves its pools as they are. -/
theorem of_pools {after : SubscriptionDispatcher} (coupled : Coupled n) (pooled : after.WellPooled)
    (pools : after.pools = n.dispatcher.pools) (next : after.nextPool = n.dispatcher.nextPool) :
    Coupled { n with dispatcher := after } where
  pooled
  staffed pool := by
    rw [pools]
    exact coupled.staffed pool
  unborn pool late := coupled.unborn pool (next ▸ late)

theorem request {request : Subscription} {after : SubscriptionDispatcher} (coupled : Coupled n)
    (pooled : after.WellPooled)
    (step : SubscriptionDispatcher.Step n.dispatcher (.request request) after) :
    Coupled { n with dispatcher := after, entered := n.enqueue request } := by
  cases step with
  | unknown absent =>
    have same : n.enqueue request = n.entered := by rw [enqueue, absent]
    rw [same]
    exact coupled.of_pools pooled rfl rfl
  | dead found ended =>
    have same : n.enqueue request = n.entered := by
      rw [enqueue, found]
      exact if_pos ended
    rw [same]
    exact coupled.of_pools pooled rfl rfl
  | deliver found live =>
    rename_i entry
    have same : n.enqueue request =
        Function.update n.entered entry (n.entered entry ++ [request]) := by
      rw [enqueue, found]
      exact if_neg (Nat.ne_of_gt live)
    obtain ⟨born, address⟩ := coupled.pooled _ _ found
    rw [same]
    refine ⟨pooled, ?_, ?_⟩
    · intro pool
      by_cases here : pool = entry
      · subst here
        simpa using (coupled.staffed pool).enqueue address.symm
      · simpa [here] using coupled.staffed pool
    · intro pool late
      have elsewhere : pool ≠ entry := by
        rintro rfl
        exact Nat.not_le_of_lt born late
      simpa [elsewhere] using coupled.unborn pool late

theorem completed {attempt : Nat} {established : List Bool} {after : SubscriptionDispatcher}
    {url : Url} {target : PubSubUpstreamKind} (coupled : Coupled n) (pooled : after.WellPooled)
    (found : n.dispatcher.connections[attempt]? = some (url, target))
    (step : SubscriptionDispatcher.Step n.dispatcher (.completed attempt established) after) :
    Coupled { n with
      dispatcher := after
      members := Function.update n.members n.dispatcher.nextPool (n.spawn url established)
      spawned := n.spawned + established.count true } := by
  cases step with
  | completed found' =>
    obtain ⟨rfl, rfl⟩ : _ = url ∧ _ = target := by simpa using found'.symm.trans found
    refine ⟨pooled, ?_, ?_⟩
    · intro pool
      by_cases here : pool = n.dispatcher.nextPool
      · subst here
        simpa [(coupled.unborn _ le_rfl).2] using Staffed.spawn n _ established
      · simpa [here] using coupled.staffed pool
    · intro pool late
      have elsewhere : pool ≠ n.dispatcher.nextPool := Nat.ne_of_gt late
      simpa [elsewhere] using coupled.unborn pool (Nat.le_of_succ_le late)

/-- The request an iteration takes is the oldest of the channel. -/
theorem supplied {input : Input} {between : SubscriptionDispatcher}
    (supplies : n.supply pool input = some between) :
    ∃ rest, (n.dispatcher.pools pool).queue = input.asked.toList ++ rest ∧
      between = { n.dispatcher with
        pools := Function.update n.dispatcher.pools pool
          { n.dispatcher.pools pool with queue := rest } } := by
  cases input with
  | request sub =>
    simp only [supply] at supplies
    split at supplies
    · rename_i oldest
      cases SubscriptionDispatcher.step_sound supplies with
      | receive queued =>
        rw [queued, List.head?_cons, Option.some.injEq] at oldest
        subst oldest
        exact ⟨_, queued, rfl⟩
    · cases supplies
  | received _ | unsubscription _ _ | ping =>
    cases supplies
    exact ⟨_, rfl, by simp⟩

/-- One pool changes, its connections with it. -/
theorem change {changed : ConnectionPool} {sessions : List Session} (coupled : Coupled n)
    (born : pool < n.dispatcher.nextPool) (staffed : Staffed changed sessions (n.entered pool))
    (same : changed.url = (n.dispatcher.pools pool).url) :
    Coupled { n with
      dispatcher := { n.dispatcher with pools := Function.update n.dispatcher.pools pool changed }
      members := Function.update n.members pool sessions } where
  pooled url other found := by
    obtain ⟨born, address⟩ := coupled.pooled url other found
    refine ⟨born, ?_⟩
    by_cases here : other = pool
    · subst here
      simpa [same] using address
    · simpa [here] using address
  staffed other := by
    by_cases here : other = pool
    · subst here
      simpa using staffed
    · simpa [here] using coupled.staffed other
  unborn other late := by
    have elsewhere : other ≠ pool := Nat.ne_of_gt (Nat.lt_of_lt_of_le born late)
    simpa [elsewhere] using coupled.unborn other late

/-- A pool with connections has been created. -/
theorem born {member : Nat} {session : Session} (coupled : Coupled n)
    (found : (n.members pool)[member]? = some session) : pool < n.dispatcher.nextPool := by
  by_contra late
  rw [(coupled.unborn pool (Nat.le_of_not_lt late)).1] at found
  cases found

theorem iterate {member : Nat} {event : Event} {session next : Session}
    {between after : SubscriptionDispatcher} (coupled : Coupled n)
    (found : (n.members pool)[member]? = some session)
    (ran : Connection.step session event = some next)
    (supplies : n.supply pool event.input = some between)
    (departs : depart between pool next = some after) :
    Coupled { n with
      dispatcher := after
      members := Function.update n.members pool ((n.members pool).set member next) } := by
  obtain ⟨rest, queued, rfl⟩ := supplied supplies
  obtain ⟨stays, leaves⟩ := (coupled.staffed pool).iterate found ran queued
  cases running : next.connection.running with
  | true =>
    rw [depart, if_pos running] at departs
    cases departs
    exact coupled.change (coupled.born found) (stays running) rfl
  | false =>
    rw [depart, running, if_neg Bool.false_ne_true] at departs
    cases SubscriptionDispatcher.step_sound departs with
    | disconnect connected =>
      rename_i left
      simp only [Function.update_self] at connected
      have ended := coupled.change (coupled.born found) (leaves running left connected) rfl
      simpa using ended

theorem step (coupled : Coupled n) (step : Step n action n') : Coupled n' := by
  cases step with
  | state fired =>
    have moved := SubscriptionDispatcher.step_sound fired
    refine coupled.of_pools (coupled.pooled.step moved) ?_ ?_
    · cases moved <;> rfl
    · cases moved <;> rfl
  | request fired =>
    have moved := SubscriptionDispatcher.step_sound fired
    exact coupled.request (coupled.pooled.step moved) moved
  | completed found fired =>
    have moved := SubscriptionDispatcher.step_sound fired
    exact coupled.completed (coupled.pooled.step moved) found moved
  | terminate fired =>
    have moved := SubscriptionDispatcher.step_sound fired
    refine coupled.of_pools (coupled.pooled.step moved) ?_ ?_
    · cases moved
      rfl
    · cases moved
      rfl
  | iterate found ran supplies departs => exact coupled.iterate found ran supplies departs

theorem reached {count : Nat} (run : Run (Fires Network.step) (new count) actions n) :
    Coupled n :=
  run.invariant (.initial count) fun _ _ _ coupled fired => coupled.step (step_sound fired)

end Coupled

end Network

end MagicRouter
