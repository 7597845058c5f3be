import MagicRouter.Library.Run
import MagicRouter.Server.Websocket

/-! The upstreams a client's account subscription is fed from, while connections are
lost and subscriptions dispatched again. The two subscriptions a delegated account
starts with share one request id, and a lost one is sent where the account is
delegated to, whichever of the two it was. -/

namespace MagicRouter

open Library

def RoutingTable.chainUrls (routes : RoutingTable) : List Url :=
  routes.baseChainUpstreams.upstreams.map (·.wsUrl)

/-- A handler with the subscriptions it has dispatched that are not confirmed yet, and
those that are confirmed and not lost. -/
structure Sources where
  handler : AccountSubscriptionHandler
  outstanding : List Subscription
  live : List Subscription

/-- What the handler is told by the connections, and what it reads at that time. -/
inductive SourceEvent where
  | confirmed (sub : Subscription) (connection : UnsubChannel) (context : HandlerContext)
  | lost (sub : Subscription) (context : HandlerContext)

def SourceEvent.context : SourceEvent → HandlerContext
  | .confirmed _ _ context | .lost _ context => context

/-- The account's authority is the same as in `reference`, and so are the base-chain
upstreams, which are given once. Its node may leave the table and come back. -/
structure HandlerContext.Unchanged (reference context : HandlerContext) : Prop where
  authority : context.authority = reference.authority
  chain : context.routes.chainUrls = reference.routes.chainUrls

theorem HandlerContext.Unchanged.refl (context : HandlerContext) : context.Unchanged context :=
  ⟨rfl, rfl⟩

namespace Sources

variable {reference context : HandlerContext} {s t : Sources} {event : SourceEvent}
variable {events : List SourceEvent} {id : RequestId}

/-- The handle sent to the subscriber by the connection that confirms `sub`. -/
def confirmation (sub : Subscription) (connection : UnsubChannel) : SubscriptionHandle where
  requestId := sub.requestId
  unsub := connection
  upstream := sub.upstream

/-- The handler takes a message; what it dispatches is outstanding. -/
def take (s : Sources) (context : HandlerContext) (message : PubsubMessage) : Sources :=
  let outcome := s.handler.receive context message
  { s with
    handler := outcome.handler
    outstanding := s.outstanding ++ outcome.effects.filterMap HandlerEffect.dispatched }

/-- A connection confirms an outstanding subscription, or loses a live one. -/
def step (s : Sources) : SourceEvent → Option Sources
  | .confirmed sub connection context =>
    if sub ∈ s.outstanding then
      some ({ s with outstanding := s.outstanding.erase sub, live := sub :: s.live }.take context
        (.subscribed (confirmation sub connection)))
    else none
  | .lost sub context =>
    if sub ∈ s.live then
      some ({ s with live := s.live.erase sub }.take context (.disconnected sub.requestId))
    else none

/-- The state in which `account_subscribe` waits for the first confirmation. -/
def start (pending : PendingAccountSubscription) : Sources where
  handler := pending.handler
  outstanding := pending.dispatched
  live := []

/-- The first confirmation starts the handler in the state of the second step. -/
theorem startHandler_eq_take (pending : PendingAccountSubscription) (context : HandlerContext)
    (handle : SubscriptionHandle) :
    WebsocketServer.startHandler pending (some (.subscribed handle)) =
      .ok ((start pending).take context (.subscribed handle)).handler :=
  rfl

/-- The destination is where a lost subscription of the account would be sent. -/
def Aimed (reference : HandlerContext) (url : Url) : Prop :=
  match reference.authority with
  | none => url ∈ reference.routes.chainUrls
  | some validator => ∃ node, reference.routes.ephemeralHandle validator = some node ∧ url = node.ws

/-- The account is fed from the base chain and, if it is delegated, from its node. -/
def Kept (reference : HandlerContext) (s : Sources) : Prop :=
  (∃ sub ∈ s.live, sub.destination ∈ reference.routes.chainUrls) ∧
    ∀ validator node, reference.authority = some validator →
      reference.routes.ephemeralHandle validator = some node →
      ∃ sub ∈ s.live, sub.destination = node.ws

/-- What is asked of the losses of a delegated account: the lost subscription is none to
the base chain, unless its node is itself a base-chain upstream, and where the handler
acts on the loss its node is in the table, at the URL it had. -/
def Restorable (reference : HandlerContext) (s : Sources) : SourceEvent → Prop
  | .confirmed .. => True
  | .lost sub context => ∀ validator node, reference.authority = some validator →
      reference.routes.ephemeralHandle validator = some node →
      (sub.destination ∈ reference.routes.chainUrls → node.ws ∈ reference.routes.chainUrls) ∧
      (sub.requestId ∈ s.handler.handles →
        ∃ now, context.routes.ephemeralHandle validator = some now ∧ now.ws = node.ws)

/-- All that one event can do. -/
theorem step_cases (fired : step s event = some t) :
    (∃ sub connection context, event = .confirmed sub connection context ∧ sub ∈ s.outstanding ∧
      t = {
        handler := { s.handler with
          handles := s.handler.handles.insert sub.requestId (confirmation sub connection) }
        outstanding := s.outstanding.erase sub
        live := sub :: s.live }) ∨
    (∃ sub context, event = .lost sub context ∧ sub ∈ s.live ∧
      sub.requestId ∉ s.handler.handles ∧ t = { s with live := s.live.erase sub }) ∨
    ∃ sub context handle, event = .lost sub context ∧ sub ∈ s.live ∧
      s.handler.handles.lookup sub.requestId = some handle ∧
      t = {
        handler := { s.handler with handles := s.handler.handles.erase sub.requestId }
        outstanding := s.outstanding ++
          (AccountSubscriptionHandler.redestination context).1.toList.map
            (s.handler.resubscription handle)
        live := s.live.erase sub } := by
  cases event with
  | confirmed sub connection context =>
    simp only [step] at fired
    split at fired
    · rename_i member
      cases fired
      exact .inl ⟨sub, connection, context, rfl, member, by
        simp [take, AccountSubscriptionHandler.receive, confirmation]⟩
    · cases fired
  | lost sub context =>
    simp only [step] at fired
    split at fired
    · rename_i member
      cases fired
      cases found : s.handler.handles.lookup sub.requestId with
      | none =>
        refine .inr (.inl ⟨sub, context, rfl, member, AList.lookup_eq_none.mp found, ?_⟩)
        simp [take, AccountSubscriptionHandler.receive, found]
      | some handle =>
        refine .inr (.inr ⟨sub, context, handle, rfl, member, found, ?_⟩)
        cases redirected : (AccountSubscriptionHandler.redestination context).1 with
        | none => simp [take, AccountSubscriptionHandler.receive, found, redirected]
        | some url =>
          simp [take, AccountSubscriptionHandler.receive, found, redirected, HandlerEffect.dispatched]
          rfl
    · cases fired

/-- The node of a delegated account is in the table. -/
def Known (reference : HandlerContext) : Prop :=
  ∀ validator, reference.authority = some validator →
    ∃ node, reference.routes.ephemeralHandle validator = some node

theorem baseChain_mem (routes : RoutingTable) : routes.baseChain.1.wsUrl ∈ routes.chainUrls :=
  List.mem_map_of_mem (List.get_mem _ _)

theorem redestination_of_delegated {validator : Pubkey} (unchanged : reference.Unchanged context)
    (delegated : reference.authority = some validator) :
    (AccountSubscriptionHandler.redestination context).1 =
      (context.routes.ephemeralHandle validator).map (·.ws) := by
  simp [AccountSubscriptionHandler.redestination, unchanged.authority, delegated]

/-- A lost subscription is sent where the account is delegated to. -/
theorem redestination_aimed {sub : Subscription} (known : Known reference)
    (unchanged : reference.Unchanged context)
    (restorable : Restorable reference s (.lost sub context))
    (noticed : sub.requestId ∈ s.handler.handles) :
    ∃ url, (AccountSubscriptionHandler.redestination context).1 = some url ∧ Aimed reference url := by
  cases delegated : reference.authority with
  | none =>
    refine ⟨context.routes.baseChain.1.wsUrl, ?_, ?_⟩
    · simp [AccountSubscriptionHandler.redestination, unchanged.authority, delegated]
    · simp only [Aimed, delegated]
      exact unchanged.chain ▸ baseChain_mem context.routes
  | some validator =>
    obtain ⟨node, found⟩ := known validator delegated
    obtain ⟨now, present, same⟩ := (restorable validator node delegated found).2 noticed
    refine ⟨node.ws, ?_, ?_⟩
    · rw [redestination_of_delegated unchanged delegated, present, Option.map_some, same]
    · simp only [Aimed, delegated]
      exact ⟨node, found, rfl⟩

/-- A subscription where the account is delegated to is on its way, or one is live and
the handler would notice its loss. -/
structure Backed (reference : HandlerContext) (id : RequestId) (s : Sources) : Prop where
  outstanding_id : ∀ sub ∈ s.outstanding, sub.requestId = id
  live_id : ∀ sub ∈ s.live, sub.requestId = id
  handle_id : ∀ handle, s.handler.handles.lookup id = some handle → handle.requestId = id
  backed : (∃ sub ∈ s.outstanding, Aimed reference sub.destination) ∨
    ((∃ sub ∈ s.live, Aimed reference sub.destination) ∧ id ∈ s.handler.handles)

private theorem Backed.confirm {sub : Subscription} {connection : UnsubChannel}
    (backed : Backed reference id s) (member : sub ∈ s.outstanding) :
    Backed reference id {
      handler := { s.handler with
        handles := s.handler.handles.insert sub.requestId (confirmation sub connection) }
      outstanding := s.outstanding.erase sub
      live := sub :: s.live } := by
  have same := backed.outstanding_id sub member
  refine ⟨fun other kept => backed.outstanding_id other (List.mem_of_mem_erase kept), ?_, ?_, ?_⟩
  · intro other present
    rcases List.mem_cons.mp present with rfl | earlier
    · exact same
    · exact backed.live_id other earlier
  · intro handle found
    rw [same, AList.lookup_insert] at found
    cases found
    exact same
  · have noticed : id ∈ s.handler.handles.insert sub.requestId (confirmation sub connection) := by
      simp [same]
    rcases backed.backed with ⟨other, waiting, aimed⟩ | ⟨⟨other, present, aimed⟩, _⟩
    · by_cases confirmed : other = sub
      · exact .inr ⟨⟨other, by simp [confirmed], aimed⟩, noticed⟩
      · exact .inl ⟨other, (List.mem_erase_of_ne confirmed).mpr waiting, aimed⟩
    · exact .inr ⟨⟨other, List.mem_cons_of_mem _ present, aimed⟩, noticed⟩

/-- A loss under a request id without a handle is ignored; then a subscription is on
its way already. -/
private theorem Backed.ignore {sub : Subscription} (backed : Backed reference id s)
    (member : sub ∈ s.live) (missing : sub.requestId ∉ s.handler.handles) :
    Backed reference id { s with live := s.live.erase sub } := by
  rw [backed.live_id sub member] at missing
  refine ⟨backed.outstanding_id, ?_, backed.handle_id, ?_⟩
  · exact fun other kept => backed.live_id other (List.mem_of_mem_erase kept)
  · exact .inl (backed.backed.resolve_right fun live => missing live.2)

private theorem Backed.redispatch {sub : Subscription} {handle : SubscriptionHandle}
    (known : Known reference) (unchanged : reference.Unchanged context)
    (restorable : Restorable reference s (.lost sub context))
    (backed : Backed reference id s) (member : sub ∈ s.live)
    (found : s.handler.handles.lookup sub.requestId = some handle) :
    Backed reference id {
      handler := { s.handler with handles := s.handler.handles.erase sub.requestId }
      outstanding := s.outstanding ++
        (AccountSubscriptionHandler.redestination context).1.toList.map
          (s.handler.resubscription handle)
      live := s.live.erase sub } := by
  have noticed : sub.requestId ∈ s.handler.handles := AList.lookup_isSome.mp (by simp [found])
  obtain ⟨url, redirected, aimed⟩ := redestination_aimed known unchanged restorable noticed
  rw [backed.live_id sub member] at found ⊢
  have same := backed.handle_id handle found
  refine ⟨?_, fun other kept => backed.live_id other (List.mem_of_mem_erase kept), ?_, ?_⟩
  · intro other waiting
    simp only [redirected, Option.toList_some, List.map_cons, List.map_nil, List.mem_append,
      List.mem_singleton] at waiting
    rcases waiting with earlier | rfl
    · exact backed.outstanding_id other earlier
    · exact same
  · simp
  · exact .inl ⟨s.handler.resubscription handle url, by simp [redirected], aimed⟩

theorem Backed.step (known : Known reference) (unchanged : reference.Unchanged event.context)
    (restorable : Restorable reference s event) (backed : Backed reference id s)
    (fired : step s event = some t) : Backed reference id t := by
  obtain ⟨sub, connection, context, rfl, member, rfl⟩ | ⟨sub, context, rfl, member, missing, rfl⟩ |
    ⟨sub, context, handle, rfl, member, found, rfl⟩ := step_cases fired
  · exact backed.confirm member
  · exact backed.ignore member missing
  · exact backed.redispatch known unchanged restorable member found

/-- What `account_subscribe` dispatches: to the node of a delegated account, and always
to the base chain, under one request id. -/
theorem accountSubscribe_dispatched {tx : Channel} {pubkey : Pubkey}
    {params : Option RpcAccountInfoConfig} {pending : PendingAccountSubscription}
    {routes : RoutingTable}
    (subscribed : WebsocketServer.accountSubscribe reference tx pubkey params = (.ok pending, routes)) :
    pending.handler.handles = ∅ ∧
    ∃ chain : Subscription, chain.requestId = reference.requestId ∧
      chain.destination ∈ reference.routes.chainUrls ∧
      ((reference.authority = none ∧ pending.dispatched = [chain]) ∨
        ∃ validator node, reference.authority = some validator ∧
          reference.routes.ephemeralHandle validator = some node ∧
          pending.dispatched = [chain.cloneWithDestination node.ws, chain]) := by
  obtain ⟨handler, sent⟩ := WebsocketServer.accountSubscribe_ok subscribed
  refine ⟨?_, _, ?_, ?_, sent⟩
  · rw [handler]
  · rfl
  · exact baseChain_mem reference.routes

section Run

variable {tx : Channel} {pubkey : Pubkey} {params : Option RpcAccountInfoConfig}
variable {pending : PendingAccountSubscription} {routes : RoutingTable}

theorem known_of_subscribed
    (subscribed : WebsocketServer.accountSubscribe reference tx pubkey params = (.ok pending, routes)) :
    Known reference := by
  intro validator delegated
  obtain ⟨_, chain, _, _, ⟨undelegated, _⟩ | ⟨other, node, same, found, _⟩⟩ :=
    accountSubscribe_dispatched subscribed
  · simp [delegated] at undelegated
  · rw [delegated] at same
    cases same
    exact ⟨node, found⟩

theorem backed_start
    (subscribed : WebsocketServer.accountSubscribe reference tx pubkey params = (.ok pending, routes)) :
    Backed reference reference.requestId (start pending) := by
  obtain ⟨empty, chain, same, onChain, ⟨undelegated, sent⟩ | ⟨validator, node, delegated, found, sent⟩⟩ :=
    accountSubscribe_dispatched subscribed
  · refine ⟨?_, by simp [start], by simp [start, empty], .inl ⟨chain, by simp [start, sent], ?_⟩⟩
    · simp [start, sent, same]
    · simpa [Aimed, undelegated] using onChain
  · refine ⟨?_, by simp [start], by simp [start, empty],
      .inl ⟨chain.cloneWithDestination node.ws, by simp [start, sent], ?_⟩⟩
    · simp [start, sent, same, Subscription.cloneWithDestination]
    · simp [Aimed, delegated, found, Subscription.cloneWithDestination]

theorem backed_run
    (subscribed : WebsocketServer.accountSubscribe reference tx pubkey params = (.ok pending, routes))
    (run : Run (Guarded (Restorable reference) (Fires step)) (start pending) events t)
    (unchanged : ∀ event ∈ events, reference.Unchanged event.context) :
    Backed reference reference.requestId t := by
  apply run.invariant_of_allowed (backed_start subscribed) _ unchanged
  intro s event t same backed fired
  exact backed.step (known_of_subscribed subscribed) same fired.1 fired.2

/-- Once nothing is outstanding, the account is fed from where it is delegated to. -/
theorem Backed.aimed (backed : Backed reference id t) (settled : t.outstanding = []) :
    ∃ sub ∈ t.live, Aimed reference sub.destination := by
  obtain ⟨sub, waiting, _⟩ | ⟨live, _⟩ := backed.backed
  · simp [settled] at waiting
  · exact live

end Run

/-- The subscriptions of a kind, on their way or live. -/
def sourceCount (counted : Subscription → Bool) (s : Sources) : Nat :=
  s.outstanding.countP counted + s.live.countP counted

/-- The subscriptions an event takes away, and those dispatched in their place. -/
def losses : SourceEvent → List Subscription
  | .confirmed .. => []
  | .lost sub _ => [sub]

def redispatched (s : Sources) : SourceEvent → List Subscription
  | .confirmed .. => []
  | .lost sub context =>
    match s.handler.handles.lookup sub.requestId with
    | none => []
    | some handle => (AccountSubscriptionHandler.redestination context).1.toList.map
        (s.handler.resubscription handle)

private theorem countP_erase_add {sub : Subscription} {subs : List Subscription}
    (member : sub ∈ subs) (counted : Subscription → Bool) :
    (subs.erase sub).countP counted + [sub].countP counted = subs.countP counted := by
  have split := (List.perm_cons_erase member).countP_eq counted
  rw [split, Nat.add_comm]
  exact (List.countP_append : ([sub] ++ subs.erase sub).countP counted = _).symm

theorem sourceCount_step (counted : Subscription → Bool) (fired : step s event = some t) :
    sourceCount counted t + (losses event).countP counted =
      sourceCount counted s + (redispatched s event).countP counted := by
  obtain ⟨sub, connection, context, rfl, member, rfl⟩ | ⟨sub, context, rfl, member, missing, rfl⟩ |
    ⟨sub, context, handle, rfl, member, noticed, rfl⟩ := step_cases fired
  · have split := countP_erase_add member counted
    have added : (sub :: s.live).countP counted = [sub].countP counted + s.live.countP counted :=
      (List.countP_append : ([sub] ++ s.live).countP counted = _)
    simp only [sourceCount, losses, redispatched, List.countP_nil]
    omega
  · have split := countP_erase_add member counted
    simp only [sourceCount, losses, redispatched, AList.lookup_eq_none.mpr missing, List.countP_nil]
    omega
  · have split := countP_erase_add member counted
    simp only [sourceCount, losses, redispatched, noticed, List.countP_append]
    omega

def onChain (reference : HandlerContext) (sub : Subscription) : Bool :=
  sub.destination ∈ reference.routes.chainUrls

def offChain (reference : HandlerContext) (sub : Subscription) : Bool :=
  !onChain reference sub

theorem redispatched_length_le (s : Sources) (event : SourceEvent) :
    (redispatched s event).length ≤ (losses event).length := by
  cases event with
  | confirmed sub connection context => exact Nat.le_refl _
  | lost sub context =>
    simp only [redispatched, losses]
    split
    · exact Nat.zero_le _
    · cases (AccountSubscriptionHandler.redestination context).1 with
      | none => exact Nat.zero_le _
      | some url => exact Nat.le_refl _

/-- One subscription to the base chain, and one elsewhere. -/
def Paired (reference : HandlerContext) (s : Sources) : Prop :=
  sourceCount (onChain reference) s = 1 ∧ sourceCount (offChain reference) s = 1

/-- No subscription to the base chain is left, or only one. -/
def Deprived (reference : HandlerContext) (s : Sources) : Prop :=
  sourceCount (onChain reference) s = 0 ∨
    sourceCount (onChain reference) s = 1 ∧ sourceCount (offChain reference) s = 0

section Delegated

variable {validator : Pubkey} {node : RemoteHandle}
variable (delegated : reference.authority = some validator)
variable (found : reference.routes.ephemeralHandle validator = some node)
variable (apart : node.ws ∉ reference.routes.chainUrls)

include delegated in
/-- What is dispatched again goes where the node is at that time. -/
theorem redispatched_lost {sub : Subscription} (unchanged : reference.Unchanged context) :
    ∀ again ∈ redispatched s (.lost sub context), sub.requestId ∈ s.handler.handles ∧
      ∃ now, context.routes.ephemeralHandle validator = some now ∧ again.destination = now.ws := by
  intro again member
  simp only [redispatched, redestination_of_delegated unchanged delegated] at member
  split at member
  · cases member
  · rename_i handle noticed
    simp only [List.mem_map, Option.mem_toList, Option.map_eq_some_iff] at member
    obtain ⟨url, ⟨now, present, rfl⟩, rfl⟩ := member
    exact ⟨AList.lookup_isSome.mp (by simp [noticed]), now, present, rfl⟩

include delegated in
theorem redispatched_steady (unchanged : reference.Unchanged event.context)
    (steady : ∀ now, event.context.routes.ephemeralHandle validator = some now → now.ws = node.ws) :
    ∀ again ∈ redispatched s event, again.destination = node.ws := by
  intro again member
  cases event with
  | confirmed sub connection context => cases member
  | lost sub context =>
    obtain ⟨_, now, present, destination⟩ := redispatched_lost delegated unchanged again member
    exact destination.trans (steady now present)

include delegated found in
theorem redispatched_restorable (unchanged : reference.Unchanged event.context)
    (restorable : Restorable reference s event) :
    ∀ again ∈ redispatched s event, again.destination = node.ws := by
  intro again member
  cases event with
  | confirmed sub connection context => cases member
  | lost sub context =>
    obtain ⟨noticed, now, present, destination⟩ := redispatched_lost delegated unchanged again member
    obtain ⟨now', present', same⟩ := (restorable validator node delegated found).2 noticed
    obtain rfl : now = now' := Option.some.inj (present.symm.trans present')
    exact destination.trans same

include apart in
theorem countP_atNode {subs : List Subscription} (atNode : ∀ sub ∈ subs, sub.destination = node.ws) :
    subs.countP (onChain reference) = 0 ∧ subs.countP (offChain reference) = subs.length := by
  rw [List.countP_eq_zero, List.countP_eq_length]
  constructor
  · intro sub member
    simpa [onChain, atNode sub member] using apart
  · intro sub member
    simpa [offChain, onChain, atNode sub member] using apart

include delegated found apart

/-- The base-chain subscriptions stay as they are where no loss is of one of them. -/
theorem chain_kept (unchanged : reference.Unchanged event.context)
    (restorable : Restorable reference s event) (fired : step s event = some t) :
    sourceCount (onChain reference) t = sourceCount (onChain reference) s := by
  have counted := sourceCount_step (onChain reference) fired
  have elsewhere := (countP_atNode apart
    (redispatched_restorable delegated found unchanged restorable)).1
  have unlost : (losses event).countP (onChain reference) = 0 := by
    cases event with
    | confirmed sub connection context => rfl
    | lost sub context =>
      have spared := (restorable validator node delegated found).1
      simpa [losses, onChain] using fun chain => apart (spared chain)
  omega

/-- With one subscription off the base chain, the handler acts on its loss. -/
theorem noticed_of_paired {sub : Subscription} (one : sourceCount (offChain reference) s = 1)
    (backed : Backed reference id s) (live : sub ∈ s.live) (off : offChain reference sub) :
    sub.requestId ∈ s.handler.handles := by
  rcases backed.backed with ⟨other, waiting, aimed⟩ | ⟨_, noticed⟩
  · -- one on its way to the node would be a second
    simp only [Aimed, delegated] at aimed
    obtain ⟨_, same, destination⟩ := aimed
    obtain rfl : node = _ := Option.some.inj (found.symm.trans same)
    have first : 0 < s.outstanding.countP (offChain reference) :=
      List.countP_pos_iff.mpr ⟨other, waiting, by simpa [offChain, onChain, destination] using apart⟩
    have second : 0 < s.live.countP (offChain reference) :=
      List.countP_pos_iff.mpr ⟨sub, live, off⟩
    unfold sourceCount at one
    omega
  · exact backed.live_id sub live ▸ noticed

/-- From a pair of subscriptions, the losses the account recovers from lead to a pair
again, and the others to a state without a source. -/
theorem Paired.step (paired : Paired reference s) (backed : Backed reference id s)
    (unchanged : reference.Unchanged event.context)
    (steady : ∀ now, event.context.routes.ephemeralHandle validator = some now → now.ws = node.ws)
    (fired : step s event = some t) :
    (Restorable reference s event ∧ Paired reference t) ∨ Deprived reference t := by
  obtain ⟨chainOne, nodeOne⟩ := paired
  have chainCounted := sourceCount_step (onChain reference) fired
  have nodeCounted := sourceCount_step (offChain reference) fired
  obtain ⟨onNone, offAll⟩ := countP_atNode apart
    (redispatched_steady (s := s) delegated unchanged steady)
  cases event with
  | confirmed sub connection context =>
    simp only [losses, redispatched, List.countP_nil] at chainCounted nodeCounted
    exact .inl ⟨trivial, by omega, by omega⟩
  | lost sub context =>
    by_cases lostChain : sub.destination ∈ reference.routes.chainUrls
    · have one : (losses (.lost sub context)).countP (onChain reference) = 1 := by
        simp [losses, onChain, lostChain]
      exact .inr (.inl (by omega))
    · have off : offChain reference sub := by simpa [offChain, onChain] using lostChain
      have live : sub ∈ s.live := by
        by_contra missing
        simp [Sources.step, missing] at fired
      have noticed := noticed_of_paired delegated found apart nodeOne backed live off
      have none' : (losses (.lost sub context)).countP (onChain reference) = 0 := by
        simp [losses, onChain, lostChain]
      have one : (losses (.lost sub context)).countP (offChain reference) = 1 := by
        simp [losses, off]
      cases present : context.routes.ephemeralHandle validator with
      | none =>
        have nothing : redispatched s (.lost sub context) = [] := by
          rw [List.eq_nil_iff_forall_not_mem]
          intro again member
          obtain ⟨_, now, there, _⟩ := redispatched_lost delegated unchanged again member
          cases present.symm.trans there
        rw [nothing, List.countP_nil] at chainCounted nodeCounted
        exact .inr (.inr ⟨by omega, by omega⟩)
      | some now =>
        obtain ⟨handle, known⟩ := Option.isSome_iff_exists.mp (AList.lookup_isSome.mpr noticed)
        have again : (redispatched s (.lost sub context)).length = 1 := by
          simp [redispatched, known, present,
            redestination_of_delegated (show reference.Unchanged context from unchanged) delegated]
        refine .inl ⟨?_, by omega, by omega⟩
        intro validator' node' delegated' found'
        obtain rfl : validator = validator' := Option.some.inj (delegated.symm.trans delegated')
        obtain rfl : node = node' := Option.some.inj (found.symm.trans found')
        exact ⟨fun chain => absurd chain lostChain, fun _ => ⟨now, present, steady now present⟩⟩

omit found in
theorem Deprived.step (deprived : Deprived reference s)
    (unchanged : reference.Unchanged event.context)
    (steady : ∀ now, event.context.routes.ephemeralHandle validator = some now → now.ws = node.ws)
    (fired : step s event = some t) : Deprived reference t := by
  have chainCounted := sourceCount_step (onChain reference) fired
  have nodeCounted := sourceCount_step (offChain reference) fired
  obtain ⟨onNone, offAll⟩ := countP_atNode apart
    (redispatched_steady (s := s) delegated unchanged steady)
  have replaced := redispatched_length_le s event
  have kinds : (losses event).length = (losses event).countP (onChain reference) +
      (losses event).countP (offChain reference) := by
    have others : offChain reference = fun sub => !onChain reference sub := rfl
    simpa [others] using (losses event).length_eq_countP_add_countP (onChain reference)
  unfold Deprived at *
  omega

theorem Deprived.not_kept (deprived : Deprived reference t) : ¬ Kept reference t := by
  rintro ⟨⟨sub, live, chain⟩, fed⟩
  obtain ⟨other, live', destination⟩ := fed validator node delegated found
  have chains : 0 < t.live.countP (onChain reference) :=
    List.countP_pos_iff.mpr ⟨sub, live, by simpa [onChain] using chain⟩
  have others : 0 < t.live.countP (offChain reference) :=
    List.countP_pos_iff.mpr ⟨other, live', by simpa [offChain, onChain, destination] using apart⟩
  unfold Deprived sourceCount at deprived
  omega

end Delegated

section Run

variable {tx : Channel} {pubkey : Pubkey} {params : Option RpcAccountInfoConfig}
variable {pending : PendingAccountSubscription} {routes : RoutingTable}
variable {validator : Pubkey} {node : RemoteHandle}
variable (subscribed : WebsocketServer.accountSubscribe reference tx pubkey params = (.ok pending, routes))
variable (delegated : reference.authority = some validator)
variable (found : reference.routes.ephemeralHandle validator = some node)
variable (apart : node.ws ∉ reference.routes.chainUrls)
variable (unchanged : ∀ event ∈ events, reference.Unchanged event.context)
include subscribed delegated found apart unchanged

omit unchanged in
theorem paired_start : Paired reference (start pending) := by
  obtain ⟨_, chain, _, onChain, ⟨undelegated, _⟩ | ⟨other, node', same, found', sent⟩⟩ :=
    accountSubscribe_dispatched subscribed
  · simp [delegated] at undelegated
  · rw [delegated] at same
    cases same
    rw [found] at found'
    cases found'
    simp [Paired, sourceCount, start, sent, Sources.onChain, offChain,
      Subscription.cloneWithDestination, apart, onChain]

theorem chain_kept_run
    (run : Run (Guarded (Restorable reference) (Fires step)) (start pending) events t) :
    sourceCount (onChain reference) t = 1 := by
  induction run with
  | nil => exact (paired_start subscribed delegated found apart).1
  | snoc _ last ih =>
    have before := ih fun event member => unchanged event (by simp [member])
    exact (chain_kept delegated found apart (unchanged _ (by simp)) last.1 last.2).trans before

/-- Every loss was one the account recovers from, or it has lost a source for good. -/
theorem guarded_or_deprived (run : Run (Fires step) (start pending) events t)
    (steady : ∀ event ∈ events, ∀ now,
      event.context.routes.ephemeralHandle validator = some now → now.ws = node.ws) :
    (Run (Guarded (Restorable reference) (Fires step)) (start pending) events t ∧
      Paired reference t) ∨ Deprived reference t := by
  induction run with
  | nil => exact .inl ⟨.nil, paired_start subscribed delegated found apart⟩
  | @snoc events s event t _ last ih =>
    have same := unchanged event (by simp)
    have stays := steady event (by simp)
    have before := ih (fun event member => unchanged event (by simp [member]))
      fun event member => steady event (by simp [member])
    rcases before with ⟨guarded, paired⟩ | deprived
    · have backed := backed_run subscribed guarded fun event member => unchanged event (by simp [member])
      obtain ⟨restorable, paired⟩ | deprived :=
        paired.step delegated found apart backed same stays last
      · exact .inl ⟨.snoc guarded ⟨restorable, last⟩, paired⟩
      · exact .inr deprived
    · exact .inr (deprived.step delegated apart same stays last)

end Run

/-- Whenever everything dispatched is confirmed, the account is fed from the upstreams
it started with, if no base-chain subscription was lost (the node of a delegated account
being none of the base-chain upstreams) and its node was in the table whenever the handler
noticed a loss. For a node that is no base-chain upstream and does not move, nothing less
will do. -/
theorem sources_kept (reference : HandlerContext) (tx : Channel) (pubkey : Pubkey)
    (params : Option RpcAccountInfoConfig) (pending : PendingAccountSubscription)
    (routes : RoutingTable) (events : List SourceEvent) (t : Sources)
    (subscribed : WebsocketServer.accountSubscribe reference tx pubkey params = (.ok pending, routes))
    (run : Run (Fires step) (start pending) events t)
    (unchanged : ∀ event ∈ events, reference.Unchanged event.context)
    (settled : t.outstanding = []) :
    (Run (Guarded (Restorable reference) (Fires step)) (start pending) events t →
      Kept reference t) ∧
    ∀ validator node, reference.authority = some validator →
      reference.routes.ephemeralHandle validator = some node →
      node.ws ∉ reference.routes.chainUrls →
      (∀ event ∈ events, ∀ now,
        event.context.routes.ephemeralHandle validator = some now → now.ws = node.ws) →
      Kept reference t →
      Run (Guarded (Restorable reference) (Fires step)) (start pending) events t := by
  constructor
  · intro guarded
    obtain ⟨sub, live, aimed⟩ := (backed_run subscribed guarded unchanged).aimed settled
    cases delegated : reference.authority with
    | none =>
      simp only [Aimed, delegated] at aimed
      simpa [Kept, delegated] using ⟨sub, live, aimed⟩
    | some validator =>
      obtain ⟨node, found⟩ := known_of_subscribed subscribed validator delegated
      simp only [Aimed, delegated] at aimed
      obtain ⟨_, same, destination⟩ := aimed
      obtain rfl : node = _ := Option.some.inj (found.symm.trans same)
      refine ⟨?_, fun other node' delegated' found' => ?_⟩
      · by_cases shared : node.ws ∈ reference.routes.chainUrls
        · exact ⟨sub, live, destination ▸ shared⟩
        · have one := chain_kept_run subscribed delegated found shared unchanged guarded
          simp only [sourceCount, settled, List.countP_nil, Nat.zero_add] at one
          obtain ⟨other, present, chain⟩ := List.countP_pos_iff.mp (one ▸ Nat.one_pos)
          exact ⟨other, present, by simpa [onChain] using chain⟩
      · obtain rfl : validator = other := Option.some.inj (delegated.symm.trans delegated')
        obtain rfl : node = node' := Option.some.inj (found.symm.trans found')
        exact ⟨sub, live, destination⟩
  · intro validator node delegated found apart steady kept
    obtain ⟨guarded, _⟩ | deprived :=
      guarded_or_deprived subscribed delegated found apart unchanged run steady
    · exact guarded
    · exact absurd kept (deprived.not_kept delegated found apart)

section Sample

/-- An account delegated to the node of the sample table. -/
def sampleContext : HandlerContext where
  authority := some (.repeating 9)
  routes := .sample
  subscriberId := ⟨1⟩
  requestId := ⟨2⟩
  serialized := true
  delivered := true

def chainSub : Subscription where
  requestId := ⟨2⟩
  subscriberId := ⟨1⟩
  payload := accountSubscriptionJson ⟨2⟩ (.repeating 1) none
  tx := ⟨1⟩
  destination := RoutingTable.sampleChain.wsUrl
  upstream := .chain

def nodeSub : Subscription := chainSub.cloneWithDestination RoutingTable.sampleNode.wsUrl

def samplePending : PendingAccountSubscription where
  handler := {
    pubkey := .repeating 1, subscriberId := ⟨1⟩, pubsubTx := ⟨1⟩, handles := ∅, params := none }
  dispatched := [nodeSub, chainSub]

theorem sample_subscribed :
    WebsocketServer.accountSubscribe sampleContext ⟨1⟩ (.repeating 1) none =
      (.ok samplePending, RoutingTable.sample.baseChain.2) :=
  rfl

/-- Both subscriptions are confirmed, `sub` is lost, and what is dispatched for it is
confirmed. -/
def lossOf (sub : Subscription) : List SourceEvent :=
  [.confirmed nodeSub ⟨0⟩ sampleContext, .confirmed chainSub ⟨1⟩ sampleContext,
    .lost sub sampleContext, .confirmed nodeSub ⟨2⟩ sampleContext]

theorem lossOf_unchanged (sub : Subscription) :
    ∀ event ∈ lossOf sub, sampleContext.Unchanged event.context := by
  intro event member
  have same : event.context = sampleContext := by
    simp only [lossOf, List.mem_cons, List.not_mem_nil, or_false] at member
    rcases member with rfl | rfl | rfl | rfl <;> rfl
  exact same ▸ .refl sampleContext

theorem lossOf_restorable (s : Sources) :
    ∀ event ∈ lossOf nodeSub, Restorable sampleContext s event := by
  intro event member
  simp only [lossOf, List.mem_cons, List.not_mem_nil, or_false] at member
  rcases member with rfl | rfl | rfl | rfl
  · trivial
  · trivial
  · intro validator node _ found
    refine ⟨fun chain => absurd chain (by decide), fun _ => ⟨node, found, rfl⟩⟩
  · trivial

/-- The subscription to the node is restored when it is lost. -/
theorem sources_kept_node_lost :
    ∃ t, Run (Fires step) (start samplePending) (lossOf nodeSub) t ∧ t.outstanding = [] ∧
      Kept sampleContext t := by
  obtain ⟨t, run, settled⟩ := exists_run_of_exec
    (show (exec step (start samplePending) (lossOf nodeSub)).map (·.outstanding.isEmpty) = some true by
      decide +kernel)
  have settled : t.outstanding = [] := by simpa using settled
  have guarded := run.guarded fun event member s => lossOf_restorable s event member
  exact ⟨t, run, settled, (sources_kept _ _ _ _ _ _ _ t sample_subscribed run
    (lossOf_unchanged nodeSub) settled).1 guarded⟩

/-- Not so while the node is out of the table. -/
example : (exec step (start samplePending) [.confirmed nodeSub ⟨0⟩ sampleContext,
    .confirmed chainSub ⟨1⟩ sampleContext,
    .lost nodeSub { sampleContext with routes := { RoutingTable.sample with inner := ∅ } }]).map
      (fun t => (t.outstanding, t.live)) = some ([], [chainSub]) := by decide +kernel

/-- The subscription to the base chain is not: the one dispatched for it goes to the
node as well. -/
theorem chain_lost_for_good :
    ∃ t, Run (Fires step) (start samplePending) (lossOf chainSub) t ∧ t.outstanding = [] ∧
      ¬Kept sampleContext t := by
  obtain ⟨t, run, checked⟩ := exists_run_of_exec
    (show (exec step (start samplePending) (lossOf chainSub)).map (fun t =>
        t.outstanding.isEmpty && t.live.all fun sub =>
          sub.destination ∉ sampleContext.routes.chainUrls) = some true by decide +kernel)
  simp only [Bool.and_eq_true, List.isEmpty_iff, List.all_eq_true, decide_eq_true_eq] at checked
  refine ⟨t, run, checked.1, ?_⟩
  rintro ⟨⟨sub, live, chain⟩, _⟩
  exact checked.2 sub live chain

end Sample

end Sources

end MagicRouter
