import MagicRouter.Library.Run
import MagicRouter.Library.Store
import MagicRouter.Pubsub.Subscription

/-! The subscription dispatcher (`pubsub/dispatch.rs`): a map from upstream URLs to
pools of websocket connections, kept by the state messages it handles and the
connection attempts they start. State messages, requests and the ends of attempts
and connections come in any order. -/

namespace MagicRouter

open Library

/-- Identity of one request channel and the connections reading from it. -/
abbrev PoolId := Nat

/-- A pool of connections and the requests in their shared channel. -/
structure ConnectionPool where
  url : Url
  live : Nat
  queue : List Subscription

/-- Capacity of a pool's request channel. -/
def REQUEST_CHANNEL_CAPACITY : Nat := 1024

/-- A request that entered the channel of a pool, counted by the requests taken
before it, with the connections the pool had then. -/
structure Delivery where
  request : Nat
  url : Url
  live : Nat
  deriving DecidableEq

structure SubscriptionDispatcher where
  upstreams : Store Url PoolId
  connectionsPerUpstream : Nat
  /-- the `try_spawn_connections` attempts that have not completed -/
  connections : List (Url × PubSubUpstreamKind)
  /-- whether the `ready` handle is still to be notified -/
  ready : Bool
  running : Bool
  pools : PoolId → ConnectionPool
  nextPool : PoolId
  /-- what the last state message handled for a URL said -/
  lastState : Url → Option Bool
  /-- how many requests were taken, and which of them were passed on -/
  taken : Nat
  delivered : List Delivery

namespace SubscriptionDispatcher

def new (connectionsPerUpstream : Nat) : SubscriptionDispatcher where
  upstreams := ∅
  connectionsPerUpstream
  connections := []
  ready := true
  running := true
  pools _ := { url := { scheme := "", rest := "" }, live := 0, queue := [] }
  nextPool := 0
  lastState _ := none
  taken := 0
  delivered := []

/-- The pool an attempt leaves behind, given which of its connections were
established. The attempt succeeds even if none was. -/
def trySpawnConnections (url : Url) (established : List Bool) : ConnectionPool where
  url
  live := established.foldl (fun spawned connected => if connected then spawned + 1 else spawned) 0
  queue := []

def handleState (s : SubscriptionDispatcher) (state : WsUpstreamState) : SubscriptionDispatcher :=
  let s := { s with lastState := Function.update s.lastState state.url (some state.isOnline) }
  if !state.isOnline then { s with upstreams := s.upstreams.erase state.url }
  else if state.url ∈ s.upstreams then s
  else { s with connections := s.connections ++ [(state.url, state.target)] }

/-- A request taken from the channel. The send fails when no connection of the pool
is left and blocks while the channel is full. -/
def handleRequest (s : SubscriptionDispatcher) (request : Subscription) :
    Option SubscriptionDispatcher :=
  let next := { s with taken := s.taken + 1 }
  match s.upstreams.lookup request.destination with
  | none => some next
  | some id =>
    let pool := s.pools id
    if pool.live = 0 then some { next with upstreams := s.upstreams.erase request.destination }
    else if pool.queue.length < REQUEST_CHANNEL_CAPACITY then
      some { next with
        pools := Function.update s.pools id { pool with queue := pool.queue ++ [request] }
        delivered := s.delivered ++ [{ request := s.taken, url := pool.url, live := pool.live }] }
    else none

/-- The attempt at the given position completes; its pool takes the place of any the
URL had. -/
def handleCompleted (s : SubscriptionDispatcher) (attempt : Nat) (established : List Bool) :
    Option SubscriptionDispatcher :=
  match s.connections[attempt]? with
  | none => none
  | some (url, _) =>
    if established.length = s.connectionsPerUpstream then
      let connections := s.connections.eraseIdx attempt
      some { s with
        upstreams := s.upstreams.insert url s.nextPool
        pools := Function.update s.pools s.nextPool (trySpawnConnections url established)
        nextPool := s.nextPool + 1
        connections
        ready := s.ready && !connections.isEmpty }
    else none

/-- A branch of the dispatcher's loop, or a step of one of the connections. -/
inductive Action where
  | state (message : WsUpstreamState)
  | request (request : Subscription)
  | completed (attempt : Nat) (established : List Bool)
  /-- both channels are closed and no attempt is pending -/
  | terminate
  /-- a connection takes the oldest request of its pool's channel -/
  | receive (pool : PoolId)
  /-- a connection task ends; with the last one the channel goes too -/
  | disconnect (pool : PoolId)

def step (s : SubscriptionDispatcher) : Action → Option SubscriptionDispatcher
  | .state message => if s.running then some (s.handleState message) else none
  | .request request => if s.running then s.handleRequest request else none
  | .completed attempt established =>
    if s.running then s.handleCompleted attempt established else none
  | .terminate =>
    if s.running && s.connections.isEmpty then some { s with running := false } else none
  | .receive id =>
    match (s.pools id).queue with
    | [] => none
    | _ :: rest =>
      if (s.pools id).live = 0 then none
      else some { s with pools := Function.update s.pools id { s.pools id with queue := rest } }
  | .disconnect id =>
    match (s.pools id).live with
    | 0 => none
    | live + 1 =>
      some { s with pools := Function.update s.pools id { s.pools id with
        live, queue := if live = 0 then [] else (s.pools id).queue } }

/-- Every transition, with its guard and its full effect. -/
inductive Step (s : SubscriptionDispatcher) : Action → SubscriptionDispatcher → Prop where
  | offline (gone : message.isOnline = false) :
      Step s (.state message) { s with
        lastState := Function.update s.lastState message.url (some false)
        upstreams := s.upstreams.erase message.url }
  | known (online : message.isOnline = true) (present : message.url ∈ s.upstreams) :
      Step s (.state message) { s with
        lastState := Function.update s.lastState message.url (some true) }
  | attempt (online : message.isOnline = true) (absent : message.url ∉ s.upstreams) :
      Step s (.state message) { s with
        lastState := Function.update s.lastState message.url (some true)
        connections := s.connections ++ [(message.url, message.target)] }
  | unknown (absent : s.upstreams.lookup request.destination = none) :
      Step s (.request request) { s with taken := s.taken + 1 }
  | dead (found : s.upstreams.lookup request.destination = some pool) (ended : (s.pools pool).live = 0) :
      Step s (.request request) { s with
        taken := s.taken + 1
        upstreams := s.upstreams.erase request.destination }
  | deliver (found : s.upstreams.lookup request.destination = some pool)
      (live : 0 < (s.pools pool).live) :
      Step s (.request request) { s with
        taken := s.taken + 1
        pools := Function.update s.pools pool
          { s.pools pool with queue := (s.pools pool).queue ++ [request] }
        delivered := s.delivered ++
          [{ request := s.taken, url := (s.pools pool).url, live := (s.pools pool).live }] }
  | completed (found : s.connections[attempt]? = some (url, target)) :
      Step s (.completed attempt established) { s with
        upstreams := s.upstreams.insert url s.nextPool
        pools := Function.update s.pools s.nextPool (trySpawnConnections url established)
        nextPool := s.nextPool + 1
        connections := s.connections.eraseIdx attempt
        ready := s.ready && !(s.connections.eraseIdx attempt).isEmpty }
  | terminate : Step s .terminate { s with running := false }
  | receive (queued : (s.pools pool).queue = request :: rest) :
      Step s (.receive pool)
        { s with pools := Function.update s.pools pool { s.pools pool with queue := rest } }
  | disconnect (connected : (s.pools pool).live = live + 1) :
      Step s (.disconnect pool) { s with pools := Function.update s.pools pool { s.pools pool with
        live, queue := if live = 0 then [] else (s.pools pool).queue } }

variable {s t : SubscriptionDispatcher} {action : Action} {url : Url} {pool : PoolId}
variable {request : Subscription} {actions : List Action}

private theorem handleState_sound (message : WsUpstreamState) :
    Step s (.state message) (s.handleState message) := by
  unfold handleState
  cases online : message.isOnline with
  | false => exact .offline online
  | true =>
    by_cases present : message.url ∈ s.upstreams
    · simpa [present] using Step.known online present
    · simpa [present] using Step.attempt online present

private theorem handleRequest_sound (handled : s.handleRequest request = some t) :
    Step s (.request request) t := by
  unfold handleRequest at handled
  cases found : s.upstreams.lookup request.destination with
  | none =>
    simp only [found, Option.some.injEq] at handled
    subst handled
    exact .unknown found
  | some id =>
    simp only [found] at handled
    split at handled
    · rename_i ended
      cases handled
      exact .dead found ended
    · rename_i live
      split at handled
      · cases handled
        exact .deliver found (Nat.pos_of_ne_zero live)
      · cases handled

private theorem handleCompleted_sound {attempt : Nat} {established : List Bool}
    (handled : s.handleCompleted attempt established = some t) :
    Step s (.completed attempt established) t := by
  unfold handleCompleted at handled
  split at handled
  · cases handled
  · split at handled
    · cases handled
      exact .completed ‹_›
    · cases handled

theorem step_sound (fired : step s action = some t) : Step s action t := by
  cases action with
  | state message =>
    simp only [step] at fired
    split at fired <;> cases fired
    exact handleState_sound message
  | request request =>
    simp only [step] at fired
    split at fired
    · exact handleRequest_sound fired
    · cases fired
  | completed attempt established =>
    simp only [step] at fired
    split at fired
    · exact handleCompleted_sound fired
    · cases fired
  | terminate =>
    simp only [step] at fired
    split at fired <;> cases fired
    exact .terminate
  | receive id =>
    simp only [step] at fired
    split at fired
    · cases fired
    · split at fired <;> cases fired
      exact .receive ‹_›
  | disconnect id =>
    simp only [step] at fired
    split at fired <;> cases fired
    exact .disconnect ‹_›

theorem trySpawnConnections_live (url : Url) (established : List Bool) :
    (trySpawnConnections url established).live = established.count true := by
  have spawns : ∀ spawned, established.foldl
      (fun spawned connected => if connected then spawned + 1 else spawned) spawned =
        spawned + established.count true := by
    induction established with
    | nil => simp
    | cons connected rest ih =>
      intro spawned
      rw [List.foldl_cons, ih]
      cases connected with
      | false => simp
      | true =>
        simp
        omega
  exact (spawns 0).trans (Nat.zero_add _)

/-- Every URL's sender belongs to a pool of that URL which has been created. -/
def WellPooled (s : SubscriptionDispatcher) : Prop :=
  ∀ url pool, s.upstreams.lookup url = some pool → pool < s.nextPool ∧ (s.pools pool).url = url

theorem WellPooled.initial (count : Nat) : WellPooled (new count) := by
  intro url pool found
  simp [SubscriptionDispatcher.new] at found

/-- A step that only changes the requests or connections of one pool. -/
private theorem WellPooled.of_update (pooled : WellPooled s) {changed : ConnectionPool}
    (same : changed.url = (s.pools pool).url) (found : s.upstreams.lookup url = some other) :
    other < s.nextPool ∧ (Function.update s.pools pool changed other).url = url := by
  obtain ⟨created, address⟩ := pooled _ _ found
  refine ⟨created, ?_⟩
  by_cases here : other = pool
  · subst here
    simpa [same] using address
  · simpa [here] using address

theorem WellPooled.step (pooled : WellPooled s) (step : Step s action t) : WellPooled t := by
  intro url pool found
  cases step with
  | offline | dead =>
    rw [Store.lookup_erase_if] at found
    split at found
    · cases found
    · exact pooled _ _ found
  | known | attempt | unknown | terminate => exact pooled _ _ found
  | deliver => exact pooled.of_update rfl found
  | receive => exact pooled.of_update rfl found
  | disconnect => exact pooled.of_update rfl found
  | completed =>
    rw [Store.lookup_insert_if] at found
    split at found
    · cases found
      subst url
      exact ⟨Nat.lt_succ_self _, by simp [trySpawnConnections]⟩
    · obtain ⟨created, address⟩ := pooled _ _ found
      refine ⟨Nat.lt_succ_of_lt created, ?_⟩
      simpa [Nat.ne_of_lt created] using address

theorem WellPooled.reached {count : Nat}
    (run : Run (Fires SubscriptionDispatcher.step) (new count) actions s) : WellPooled s :=
  run.invariant (.initial count) fun _ _ _ pooled fired => pooled.step (step_sound fired)

end SubscriptionDispatcher

end MagicRouter
