import MagicRouter.Pubsub.Network
import MagicRouter.Pubsub.Upstreams

/-! A network is the composition of its parts: in any interleaving the dispatcher goes
through a run of its own and so does every connection, and the requests given to a pool
are shared out among its connections. -/

namespace MagicRouter.Network

open Library Connection

variable {n n' : Network} {action : Action} {actions : List Action} {pool : PoolId}

/-- The iteration an action is for one connection. -/
def Action.iteration (pool : PoolId) (member : Nat) : Action → Option Event
  | .iterate pool' member' event => if pool' = pool ∧ member' = member then some event else none
  | _ => none

/-- What one connection has gone through. -/
def iterations (pool : PoolId) (member : Nat) (actions : List Action) : List Event :=
  actions.filterMap (Action.iteration pool member)

theorem iterations_snoc (pool : PoolId) (member : Nat) (actions : List Action) (action : Action) :
    iterations pool member (actions ++ [action]) =
      iterations pool member actions ++ (action.iteration pool member).toList := by
  unfold iterations
  rw [List.filterMap_append, List.filterMap_cons, List.filterMap_nil]
  cases action.iteration pool member with
  | none => rfl
  | some event => rfl

/-- A connection has gone through its iterations on its own, from its start at the URL
of its pool; where there is no connection there was no iteration. -/
structure Lived (n : Network) (actions : List Action) (pool : PoolId) (member : Nat) : Prop where
  absent : (n.members pool)[member]? = none → iterations pool member actions = []
  ran : ∀ session, (n.members pool)[member]? = some session → ∃ id, Run (Fires Connection.step)
    (.start id (n.dispatcher.pools pool).url) (iterations pool member actions) session

theorem update_url {pools : PoolId → ConnectionPool} {changed : ConnectionPool} (at' : PoolId)
    (same : changed.url = (pools at').url) (pool : PoolId) :
    (Function.update pools at' changed pool).url = (pools pool).url := by
  by_cases here : pool = at'
  · subst here
    rw [Function.update_self, same]
  · rw [Function.update_of_ne here]

/-- Only the completion of an attempt gives a pool another URL. -/
theorem pools_url {s t : SubscriptionDispatcher} {action : SubscriptionDispatcher.Action}
    (step : SubscriptionDispatcher.Step s action t)
    (other : pool = s.nextPool → ∀ attempt established, action ≠ .completed attempt established) :
    (t.pools pool).url = (s.pools pool).url := by
  cases step with
  | deliver =>
    apply update_url
    rfl
  | receive =>
    apply update_url
    rfl
  | disconnect =>
    apply update_url
    rfl
  | completed =>
    have elsewhere : pool ≠ s.nextPool := fun same => other same _ _ rfl
    exact congrArg ConnectionPool.url (Function.update_of_ne elsewhere _ _)
  | offline | known | attempt | unknown | dead | terminate => rfl

namespace Lived

variable {member : Nat}

/-- Another part of the network moves. -/
theorem elsewhere (lived : Lived n actions pool member)
    (members : (n'.members pool)[member]? = (n.members pool)[member]?)
    (url : (n'.dispatcher.pools pool).url = (n.dispatcher.pools pool).url)
    (idle : action.iteration pool member = none) :
    Lived n' (actions ++ [action]) pool member := by
  obtain ⟨absent, ran⟩ := lived
  have same : iterations pool member (actions ++ [action]) = iterations pool member actions := by
    rw [iterations_snoc, idle, Option.toList_none, List.append_nil]
  constructor
  · rw [members, same]
    exact absent
  · rw [members, same, url]
    exact ran

theorem completed {attempt : Nat} {established : List Bool} {after : SubscriptionDispatcher}
    {url : Url} {target : PubSubUpstreamKind} (lived : Lived n actions pool member)
    (coupled : Coupled n) (found : n.dispatcher.connections[attempt]? = some (url, target))
    (step : SubscriptionDispatcher.Step n.dispatcher (.completed attempt established) after) :
    Lived { n with
      dispatcher := after
      members := Function.update n.members n.dispatcher.nextPool (n.spawn url established)
      spawned := n.spawned + established.count true }
      (actions ++ [.completed attempt established]) pool member := by
  by_cases here : pool = n.dispatcher.nextPool
  · subst here
    have silent : iterations n.dispatcher.nextPool member
        (actions ++ [.completed attempt established]) = [] := by
      rw [iterations_snoc, lived.absent (by rw [(coupled.unborn _ le_rfl).1]; rfl)]
      rfl
    refine ⟨fun _ => silent, ?_⟩
    intro session found'
    simp only [Function.update_self] at found'
    obtain ⟨number, _, rfl⟩ := List.mem_map.mp (List.mem_of_getElem? found')
    rw [silent]
    cases step with
    | completed attempted =>
      obtain ⟨rfl, rfl⟩ : _ = url ∧ _ = target := by simpa using attempted.symm.trans found
      refine ⟨n.spawned + number, ?_⟩
      simp only [Function.update_self]
      exact .nil
  · refine lived.elsewhere ?_ (pools_url step fun same => absurd same here) rfl
    simp [here]

theorem iterate {pool' : PoolId} {member' : Nat} {event : Event} {session next : Session}
    {between after : SubscriptionDispatcher} (lived : Lived n actions pool member)
    (found : (n.members pool')[member']? = some session)
    (ran : Connection.step session event = some next)
    (supplies : n.supply pool' event.input = some between)
    (departs : depart between pool' next = some after) :
    Lived { n with
      dispatcher := after
      members := Function.update n.members pool' ((n.members pool').set member' next) }
      (actions ++ [.iterate pool' member' event]) pool member := by
  have url : (after.pools pool).url = (n.dispatcher.pools pool).url := by
    obtain ⟨rest, _, rfl⟩ := Coupled.supplied supplies
    have before : (Function.update n.dispatcher.pools pool'
        { n.dispatcher.pools pool' with queue := rest } pool).url =
          (n.dispatcher.pools pool).url := by
      apply update_url
      rfl
    unfold depart at departs
    split at departs
    · cases departs
      exact before
    · have left : (after.pools pool).url = _ :=
        pools_url (SubscriptionDispatcher.step_sound departs) nofun
      exact left.trans before
  by_cases here : pool' = pool ∧ member' = member
  · obtain ⟨rfl, rfl⟩ := here
    have more : iterations pool' member' (actions ++ [.iterate pool' member' event]) =
        iterations pool' member' actions ++ [event] := by
      rw [iterations_snoc]
      simp [Action.iteration]
    obtain ⟨inside, _⟩ := List.getElem?_eq_some_iff.mp found
    have now : ((n.members pool').set member' next)[member']? = some next := by
      rw [List.getElem?_set_self inside]
    constructor
    · intro absent
      simp [now] at absent
    · intro session found'
      simp only [Function.update_self, now, Option.some.injEq] at found'
      subst found'
      obtain ⟨id, run⟩ := lived.ran _ found
      rw [more, url]
      exact ⟨id, .snoc run ran⟩
  · refine lived.elsewhere ?_ url (if_neg here)
    by_cases same : pool = pool'
    · subst same
      have other : member' ≠ member := fun same => here ⟨rfl, same⟩
      simp [List.getElem?_set_ne other]
    · simp [same]

theorem step (lived : Lived n actions pool member) (coupled : Coupled n)
    (step : Step n action n') : Lived n' (actions ++ [action]) pool member := by
  cases step with
  | state fired =>
    have moved := SubscriptionDispatcher.step_sound fired
    exact lived.elsewhere rfl (pools_url moved nofun) rfl
  | request fired =>
    have moved := SubscriptionDispatcher.step_sound fired
    exact lived.elsewhere rfl (pools_url moved nofun) rfl
  | completed found fired =>
    exact lived.completed coupled found (SubscriptionDispatcher.step_sound fired)
  | terminate fired =>
    have moved := SubscriptionDispatcher.step_sound fired
    exact lived.elsewhere rfl (pools_url moved nofun) rfl
  | iterate found ran supplies departs => exact lived.iterate found ran supplies departs

theorem reached {count : Nat} (run : Run (Fires Network.step) (new count) actions n)
    (pool : PoolId) (member : Nat) : Lived n actions pool member := by
  induction run with
  | nil => exact ⟨fun _ => rfl, nofun⟩
  | snoc earlier last ih => exact ih.step (.reached earlier) (step_sound last)

end Lived

/-- What the dispatcher itself handles. -/
def Action.own : Action → List SubscriptionDispatcher.Action
  | .state message => [.state message]
  | .request sub => [.request sub]
  | .completed attempt established => [.completed attempt established]
  | .terminate => [.terminate]
  | .iterate .. => []

/-- The steps of the dispatcher that are not those of a connection. -/
def handles : SubscriptionDispatcher.Action → List SubscriptionDispatcher.Action
  | .receive _ | .disconnect _ => []
  | action => [action]

theorem supply_run {input : Input} {between : SubscriptionDispatcher}
    (supplies : n.supply pool input = some between) :
    ∃ labels, Run (Fires SubscriptionDispatcher.step) n.dispatcher labels between ∧
      labels.flatMap handles = [] := by
  cases input with
  | request sub =>
    simp only [supply] at supplies
    split at supplies
    · exact ⟨[.receive pool], .single supplies, rfl⟩
    · cases supplies
  | received _ | unsubscription _ _ | ping =>
    cases supplies
    exact ⟨[], .nil, rfl⟩

theorem depart_run {before after : SubscriptionDispatcher} {session : Session}
    (departs : depart before pool session = some after) :
    ∃ labels, Run (Fires SubscriptionDispatcher.step) before labels after ∧
      labels.flatMap handles = [] := by
  unfold depart at departs
  split at departs
  · cases departs
    exact ⟨[], .nil, rfl⟩
  · exact ⟨[.disconnect pool], .single departs, rfl⟩

/-- The dispatcher of a network goes through a run of its own. -/
theorem dispatcher_run {count : Nat} (run : Run (Fires Network.step) (new count) actions n) :
    ∃ labels, Run (Fires SubscriptionDispatcher.step) (.new count) labels n.dispatcher ∧
      labels.flatMap handles = actions.flatMap Action.own := by
  refine run.project Network.dispatcher Action.own handles ?_
  intro n action n' fired
  cases step_sound fired with
  | state moved => exact ⟨[.state _], .single moved, rfl⟩
  | request moved => exact ⟨[.request _], .single moved, rfl⟩
  | completed found moved => exact ⟨[.completed _ _], .single moved, rfl⟩
  | terminate moved => exact ⟨[.terminate], .single moved, rfl⟩
  | iterate found ran supplies departs =>
    obtain ⟨first, supplied, silent⟩ := supply_run supplies
    obtain ⟨second, departed, quiet⟩ := depart_run departs
    refine ⟨first ++ second, supplied.append departed, ?_⟩
    rw [List.flatMap_append, silent, quiet]
    rfl

/-- The requests the dispatcher has taken, in order. -/
def requested (actions : List Action) : List Subscription :=
  actions.filterMap fun
    | .request request => some request
    | _ => none

theorem enqueue_cases (n : Network) (request : Subscription) (pool : PoolId) :
    n.enqueue request pool = n.entered pool ∨ n.enqueue request pool = n.entered pool ++ [request] := by
  unfold enqueue
  cases n.dispatcher.upstreams.lookup request.destination with
  | none => exact .inl rfl
  | some entry =>
    dsimp only
    by_cases ended : (n.dispatcher.pools entry).live = 0
    · rw [if_pos ended]
      exact .inl rfl
    · rw [if_neg ended]
      by_cases here : pool = entry
      · subst here
        exact .inr (Function.update_self ..)
      · exact .inl (Function.update_of_ne here _ _)

/-- A step puts at most the request it takes into a channel. -/
theorem Step.entered (step : Step n action n') (pool : PoolId) :
    n'.entered pool = n.entered pool ∨
      ∃ request, action = .request request ∧ n'.entered pool = n.entered pool ++ [request] := by
  cases step with
  | @request request =>
    rcases enqueue_cases n request pool with same | grown
    · exact .inl same
    · exact .inr ⟨request, rfl, grown⟩
  | state | completed | terminate | iterate => exact .inl rfl

/-- Channels are given nothing but requests the dispatcher has taken, in their order. -/
theorem entered_sublist {count : Nat} (run : Run (Fires Network.step) (new count) actions n)
    (pool : PoolId) : (n.entered pool).Sublist (requested actions) := by
  induction run with
  | nil => exact List.Sublist.slnil
  | snoc _ last ih =>
    rw [requested, List.filterMap_append]
    rcases (step_sound last).entered pool with same | ⟨request, rfl, grown⟩
    · rw [same]
      exact ih.trans (List.sublist_append_left _ _)
    · rw [grown]
      exact ih.append (List.Sublist.refl [request])

/-- What a connection has done goes back to requests given to its pool. -/
theorem taken_entered (coupled : Coupled n) {member : Nat} {session : Session}
    (found : (n.members pool)[member]? = some session) {sub : Subscription}
    (taken : .take sub ∈ session.log.map Emission.deed) : sub ∈ n.entered pool := by
  obtain ⟨turns, front, _, _, shares⟩ := (coupled.staffed pool).shared
  have own : requests session.log = share turns member := by
    apply shares
    rw [List.getElem?_map, found, Option.map_some]
  have turn : (member, sub) ∈ turns := mem_share.mp (own ▸ mem_requests.mpr taken)
  exact front.subset (List.mem_map_of_mem turn)

/-- Every deed of a connection has its origin in what the connection did before. -/
theorem deed_origin {count : Nat} (run : Run (Fires Network.step) (new count) actions n)
    {member : Nat} {session : Session} (found : (n.members pool)[member]? = some session)
    {before after : List Deed} {deed : Deed}
    (parts : session.log.map Emission.deed = before ++ deed :: after) :
    session.connection.url = (n.dispatcher.pools pool).url ∧
      Origin session.connection.id before deed := by
  obtain ⟨id, lived⟩ := (Lived.reached run pool member).ran session found
  obtain ⟨same, address, _, grounded⟩ := sourced_run lived
  refine ⟨address, ?_⟩
  rw [same]
  simpa using grounded before deed after parts

/-- Connections are numbered as they are spawned, no two alike. -/
structure Numbered (n : Network) : Prop where
  known : ∀ (pool : PoolId) (member : Nat) (session : Session),
    (n.members pool)[member]? = some session → session.connection.id < n.spawned
  distinct : ∀ (pool : PoolId) (member : Nat) (session : Session) (pool' : PoolId)
    (member' : Nat) (session' : Session), (n.members pool)[member]? = some session →
    (n.members pool')[member']? = some session' →
    session.connection.id = session'.connection.id → pool = pool' ∧ member = member'

namespace Numbered

theorem completed {url : Url} {established : List Bool} {after : SubscriptionDispatcher}
    (numbered : Numbered n) :
    Numbered { n with
      dispatcher := after
      members := Function.update n.members n.dispatcher.nextPool (n.spawn url established)
      spawned := n.spawned + established.count true } := by
  -- a connection was there before, or is the one of its place among the new ones
  have cases (pool : PoolId) (member : Nat) (session : Session)
      (found : (Function.update n.members n.dispatcher.nextPool (n.spawn url established)
        pool)[member]? = some session) :
      (n.members pool)[member]? = some session ∨ pool = n.dispatcher.nextPool ∧
        member < established.count true ∧ session.connection.id = n.spawned + member := by
    by_cases here : pool = n.dispatcher.nextPool
    · right
      subst here
      rw [Function.update_self, spawn, List.getElem?_map] at found
      obtain ⟨number, listed, rfl⟩ := Option.map_eq_some_iff.mp found
      obtain ⟨inside, same⟩ := List.getElem?_eq_some_iff.mp listed
      rw [List.getElem_range] at same
      subst same
      exact ⟨rfl, by simpa using inside, rfl⟩
    · rw [Function.update_of_ne here] at found
      exact .inl found
  constructor
  · intro pool member session found
    rcases cases pool member session found with old | ⟨_, inside, number⟩
    · exact Nat.lt_of_lt_of_le (numbered.known _ _ _ old) (Nat.le_add_right _ _)
    · rw [number]
      exact Nat.add_lt_add_left inside _
  · intro pool member session pool' member' session' found found' same
    rcases cases _ _ _ found with old | ⟨here, _, number⟩
    · rcases cases _ _ _ found' with old' | ⟨_, _, number'⟩
      · exact numbered.distinct _ _ _ _ _ _ old old' same
      · have small := numbered.known _ _ _ old
        omega
    · rcases cases _ _ _ found' with old' | ⟨here', _, number'⟩
      · have small := numbered.known _ _ _ old'
        omega
      · exact ⟨here.trans here'.symm, by omega⟩

theorem iterate {member : Nat} {event : Event} {session next : Session}
    {after : SubscriptionDispatcher} (numbered : Numbered n)
    (found : (n.members pool)[member]? = some session)
    (ran : Connection.step session event = some next) :
    Numbered { n with
      dispatcher := after
      members := Function.update n.members pool ((n.members pool).set member next) } := by
  -- every connection has the number of the one in its place before
  have before (pool' : PoolId) (member' : Nat) (session' : Session)
      (found' : (Function.update n.members pool ((n.members pool).set member next)
        pool')[member']? = some session') :
      ∃ earlier, (n.members pool')[member']? = some earlier ∧
        earlier.connection.id = session'.connection.id := by
    by_cases here : pool' = pool
    · subst here
      rw [Function.update_self, List.getElem?_set] at found'
      split at found'
      · rename_i same
        subst same
        split at found'
        · cases found'
          refine ⟨session, found, ?_⟩
          rw [(step_eq_some ran).2.1]
          exact handle_identity.1.symm
        · cases found'
      · exact ⟨session', found', rfl⟩
    · rw [Function.update_of_ne here] at found'
      exact ⟨session', found', rfl⟩
  constructor
  · intro pool' member' session' found'
    obtain ⟨earlier, listed, same⟩ := before _ _ _ found'
    exact same ▸ numbered.known _ _ _ listed
  · intro pool₁ member₁ session₁ pool₂ member₂ session₂ found₁ found₂ same
    obtain ⟨first, listed₁, id₁⟩ := before _ _ _ found₁
    obtain ⟨second, listed₂, id₂⟩ := before _ _ _ found₂
    exact numbered.distinct _ _ _ _ _ _ listed₁ listed₂ ((id₁.trans same).trans id₂.symm)

theorem step (numbered : Numbered n) (step : Step n action n') : Numbered n' := by
  cases step with
  | state | request | terminate => exact ⟨numbered.known, numbered.distinct⟩
  | completed => exact numbered.completed
  | iterate found ran => exact numbered.iterate found ran

theorem reached {count : Nat} (run : Run (Fires Network.step) (new count) actions n) :
    Numbered n := by
  refine run.invariant ⟨?_, ?_⟩ fun _ _ _ numbered fired =>
    numbered.step (step_sound fired)
  · intro pool member session found
    cases found
  · intro pool member session _ _ _ found
    cases found

end Numbered

/-- In every run of a network the dispatcher goes through a run of its own, with the
messages, requests and completions of the network in their order; every connection goes
through its own iterations from its start at the URL of its pool; and a pool counts as
many connections as are running. -/
theorem parts_run_on_their_own {count : Nat}
    (run : Run (Fires Network.step) (new count) actions n) :
    (∃ labels, Run (Fires SubscriptionDispatcher.step) (.new count) labels n.dispatcher ∧
      labels.flatMap handles = actions.flatMap Action.own) ∧
    (∀ pool member session, (n.members pool)[member]? = some session →
      ∃ id, Run (Fires Connection.step) (.start id (n.dispatcher.pools pool).url)
        (iterations pool member actions) session) ∧
    ∀ pool, (n.dispatcher.pools pool).live =
      (n.members pool).countP (·.connection.running) := by
  refine ⟨dispatcher_run run, ?_, ?_⟩
  · intro pool member session found
    exact (Lived.reached run pool member).ran session found
  · intro pool
    exact ((Coupled.reached run).staffed pool).live

/-- Two connections to one upstream, of which the second takes the first request and
ends when it cannot be sent, and the first takes the next one. -/
def twoConnections : List Action :=
  [.state (SubscriptionDispatcher.sampleState true), .completed 0 [true, true],
    .request SubscriptionDispatcher.sampleRequest,
    .request { SubscriptionDispatcher.sampleRequest with requestId := ⟨2⟩ },
    .iterate 0 1 { calm (.request SubscriptionDispatcher.sampleRequest) with
      sent := false, connects := fun _ => false },
    .iterate 0 0 (calm (.request
      { SubscriptionDispatcher.sampleRequest with requestId := ⟨2⟩ }))]

theorem parts_run_on_their_own_two :
    ∃ n session, Run (Fires Network.step) (new 2) twoConnections n ∧
      (n.members 0)[1]? = some session ∧ session.connection.running = false ∧
      (n.dispatcher.pools 0).live = 1 ∧
      (n.members 0).countP (·.connection.running) = 1 ∧
      ∃ id, Run (Fires Connection.step) (.start id (n.dispatcher.pools 0).url)
        (iterations 0 1 twoConnections) session := by
  obtain ⟨n, run, checked⟩ := exists_run_of_exec
    (show (exec step (new 2) twoConnections).map (fun n =>
      decide ((n.dispatcher.pools 0).live = 1) &&
        (n.members 0)[1]?.any fun session => !session.connection.running) = some true by
      decide +kernel)
  obtain ⟨live, ended⟩ := Bool.and_eq_true_iff.mp checked
  obtain ⟨session, found, stopped⟩ := (Option.any_eq_true _ _).mp ended
  obtain ⟨_, runs, counts⟩ := parts_run_on_their_own run
  refine ⟨n, session, run, found, ?_, of_decide_eq_true live, ?_, runs 0 1 session found⟩
  · simpa using stopped
  · rw [← counts 0]
    exact of_decide_eq_true live

/-- In every run, the requests given to a pool are requests for its URL, in the order
the dispatcher took them. They are taken from its channel in that order, each by one of
its connections, and what is not taken yet is still queued as long as one of the
connections is running. -/
theorem pool_shares_requests {count : Nat}
    (run : Run (Fires Network.step) (new count) actions n) (pool : PoolId) :
    (n.entered pool).Sublist (requested actions) ∧
    (∀ request ∈ n.entered pool, request.destination = (n.dispatcher.pools pool).url) ∧
    ∃ turns : List (Nat × Subscription),
      turns.map Prod.snd <+: n.entered pool ∧
      ((∃ session ∈ n.members pool, session.connection.running = true) →
        n.entered pool = turns.map Prod.snd ++ (n.dispatcher.pools pool).queue) ∧
      (∀ turn ∈ turns, turn.1 < (n.members pool).length) ∧
      ∀ member session, (n.members pool)[member]? = some session →
        requests session.log = share turns member := by
  have staffed := (Coupled.reached run).staffed pool
  obtain ⟨turns, front, rest, members, shares⟩ := staffed.shared
  refine ⟨entered_sublist run pool, staffed.addressed, turns, front, ?_, ?_, ?_⟩
  · rintro ⟨session, member, running⟩
    apply rest
    rw [decide_eq_true_iff, staffed.live]
    exact List.countP_pos_iff.mpr ⟨session, member, running⟩
  · simpa using members
  · intro member session found
    apply shares
    rw [List.getElem?_map, found, Option.map_some]

theorem pool_shares_requests_two :
    ∃ (n : Network) (turns : List (Nat × Subscription)),
      Run (Fires Network.step) (new 2) twoConnections n ∧
      n.entered 0 = turns.map Prod.snd ++ (n.dispatcher.pools 0).queue ∧
      (n.entered 0).length = 2 ∧ (n.members 0).length = 2 ∧
      ∀ member session, (n.members 0)[member]? = some session →
        requests session.log = share turns member := by
  obtain ⟨n, run, checked⟩ := exists_run_of_exec
    (show (exec step (new 2) twoConnections).map (fun n =>
      decide ((n.entered 0).length = 2 ∧ (n.members 0).length = 2) &&
        (n.members 0).any fun session => session.connection.running) = some true by
      decide +kernel)
  obtain ⟨lengths, alive⟩ := Bool.and_eq_true_iff.mp checked
  obtain ⟨session, member, running⟩ := List.any_eq_true.mp alive
  obtain ⟨_, _, turns, _, rest, _, shares⟩ := pool_shares_requests run 0
  exact ⟨n, turns, run, rest ⟨session, member, running⟩, (of_decide_eq_true lengths).1,
    (of_decide_eq_true lengths).2, shares⟩

end MagicRouter.Network
