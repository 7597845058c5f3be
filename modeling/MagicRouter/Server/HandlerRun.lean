import MagicRouter.Library.Run
import MagicRouter.Server.Sources

/-! Whole runs of the handler of an account subscription: the subscriptions it has
dispatched, those that were confirmed and by which connection, and the messages it
takes in any order until its client closes the sink or a notification can not be
sent to it. -/

namespace MagicRouter

open Library

/-- A subscription with the connection that confirmed it. -/
structure Registration where
  sub : Subscription
  connection : UnsubChannel
  deriving DecidableEq

/-- An unsubscription for the request of the registration, sent to its connection. -/
def HandlerEffect.addresses (reg : Registration) : HandlerEffect → Bool
  | .unsubscribe connection unsub =>
    connection = reg.connection && unsub.requestId = reg.sub.requestId
  | .dispatch _ | .notify _ | .report _ => false

def HandlerEffect.notified : HandlerEffect → Option Json
  | .notify payload => some payload
  | .dispatch _ | .unsubscribe .. | .report _ => none

/-- Where the handler is: it waits for the first confirmation, it is in its loop, or it
has ended, having sent `farewell` on the way out. -/
inductive HandlerStatus where
  | waiting
  | running
  | ended (farewell : List HandlerEffect)

def HandlerStatus.isRunning : HandlerStatus → Bool
  | .running => true
  | .waiting | .ended _ => false

def HandlerStatus.isEnded : HandlerStatus → Bool
  | .ended _ => true
  | .waiting | .running => false

structure HandlerRun where
  handler : AccountSubscriptionHandler
  status : HandlerStatus
  /-- dispatched and not confirmed -/
  outstanding : List Subscription
  /-- confirmed, and neither lost nor unsubscribed -/
  live : List Registration
  /-- unsubscribed by the handler, which their connections have not seen yet -/
  leaving : List Registration
  /-- unsubscribed by their connections; messages from them may still arrive -/
  cancelled : List Registration
  /-- all that was ever dispatched, and all that the client was sent -/
  dispatched : List Subscription
  forwarded : List Json

/-- What happens to a handler, with what it reads at that time. -/
inductive HandlerEvent where
  | confirmed (sub : Subscription) (connection : UnsubChannel) (context : HandlerContext)
  | notified (reg : Registration) (payload : Json) (context : HandlerContext)
  | lost (reg : Registration) (context : HandlerContext)
  /-- a connection takes an unsubscription of the handler -/
  | cancelled (reg : Registration)
  /-- the client closes its sink -/
  | closed (routes : RoutingTable)

/-- What the handler reads at that time satisfies `P`. -/
def HandlerEvent.Reads (P : HandlerContext → Prop) : HandlerEvent → Prop
  | .confirmed _ _ context | .notified _ _ context | .lost _ context => P context
  | .cancelled _ | .closed _ => True

namespace HandlerRun

/-- The state in which `account_subscribe` waits for the first confirmation. -/
def start (pending : PendingAccountSubscription) : HandlerRun where
  handler := pending.handler
  status := .waiting
  outstanding := pending.dispatched
  live := []
  leaving := []
  cancelled := []
  dispatched := pending.dispatched
  forwarded := []

/-- The registrations a message may come from. -/
def listening (s : HandlerRun) : List Registration :=
  s.live ++ s.leaving ++ s.cancelled

/-- Nothing comes from the registration any more. -/
def forget (s : HandlerRun) (reg : Registration) : HandlerRun :=
  { s with
    live := s.live.erase reg
    leaving := if reg ∈ s.live then s.leaving else s.leaving.erase reg
    cancelled := if reg ∈ s.live ++ s.leaving then s.cancelled else s.cancelled.erase reg }

/-- The handler takes a message. -/
def take (s : HandlerRun) (context : HandlerContext) (message : PubsubMessage) : HandlerRun :=
  let outcome := s.handler.receive context message
  let sent := outcome.effects.filterMap HandlerEffect.dispatched
  -- a connection finds the subscription to cancel by the request id alone
  let addressed (reg : Registration) := outcome.effects.any (HandlerEffect.addresses reg)
  { handler := outcome.handler
    status := if outcome.running then .running else .ended []
    outstanding := s.outstanding ++ sent
    live := s.live.filter fun reg => !addressed reg
    leaving := s.leaving ++ s.live.filter addressed
    cancelled := s.cancelled
    dispatched := s.dispatched ++ sent
    forwarded := s.forwarded ++ outcome.effects.filterMap HandlerEffect.notified }

def step (s : HandlerRun) : HandlerEvent → Option HandlerRun
  -- the first one is taken by `account_subscribe`, the others in the loop
  | .confirmed sub connection context =>
    if !s.status.isEnded && sub ∈ s.outstanding then
      some ({ s with
          outstanding := s.outstanding.erase sub
          live := { sub, connection } :: s.live }.take context
        (.subscribed (Sources.confirmation sub connection)))
    else none
  | .notified reg payload context =>
    if s.status.isRunning && reg ∈ s.listening then
      some (s.take context (.notification reg.sub.requestId reg.sub.upstream payload))
    else none
  | .lost reg context =>
    if s.status.isRunning && reg ∈ s.listening then
      some ((s.forget reg).take context (.disconnected reg.sub.requestId))
    else none
  | .cancelled reg =>
    if reg ∈ s.leaving then
      some { s with leaving := s.leaving.erase reg, cancelled := reg :: s.cancelled }
    else none
  | .closed routes =>
    if s.status.isRunning then
      let outcome := s.handler.close routes
      some { s with handler := outcome.handler, status := .ended outcome.effects }
    else none

/-- The first confirmation starts the handler in the state of the first step. -/
theorem startHandler_eq_take (pending : PendingAccountSubscription) (context : HandlerContext)
    (handle : SubscriptionHandle) :
    WebsocketServer.startHandler pending (some (.subscribed handle)) =
      .ok ((start pending).take context (.subscribed handle)).handler :=
  rfl

/-- What `account_subscribe` dispatches: one subscription to the base chain whose turn
it is and, if the account is delegated, a copy of it to the node. -/
theorem accountSubscribe_sent {reference : HandlerContext} {tx : Channel} {pubkey : Pubkey}
    {params : Option RpcAccountInfoConfig} {pending : PendingAccountSubscription}
    {routes : RoutingTable}
    (subscribed : WebsocketServer.accountSubscribe reference tx pubkey params = (.ok pending, routes)) :
    ∃ chain : Subscription, chain.upstream = .chain ∧
      chain.destination = reference.routes.baseChain.1.wsUrl ∧
      pending.dispatched = (reference.authority.bind reference.routes.ephemeralHandle).toList.map
        (fun node => chain.cloneWithDestination node.ws) ++ [chain] := by
  obtain ⟨_, ⟨undelegated, sent⟩ | ⟨validator, node, delegated, found, sent⟩⟩ :=
    WebsocketServer.accountSubscribe_ok subscribed
  · refine ⟨_, ?_, ?_, by rw [sent, undelegated]; rfl⟩
    · rfl
    · rfl
  · refine ⟨_, ?_, ?_, by rw [sent, delegated, Option.bind_some, found]; rfl⟩
    · rfl
    · rfl

/-- A connection confirms a subscription, and the handler keeps the handle. -/
def confirm (s : HandlerRun) (sub : Subscription) (connection : UnsubChannel) : HandlerRun :=
  { s with
    handler := { s.handler with
      handles := s.handler.handles.insert sub.requestId (Sources.confirmation sub connection) }
    status := .running
    outstanding := s.outstanding.erase sub
    live := { sub, connection } :: s.live }

/-- The handler drops the handle it has for a request. -/
def untrack (s : HandlerRun) (requestId : RequestId) : HandlerRun :=
  { s with handler := { s.handler with handles := s.handler.handles.erase requestId } }

/-- The handler sends a subscription to the dispatcher. -/
def dispatch (s : HandlerRun) (sub : Subscription) : HandlerRun :=
  { s with outstanding := s.outstanding ++ [sub], dispatched := s.dispatched ++ [sub] }

/-- The handler drops a handle and unsubscribes at its connection. -/
def unsubscribe (s : HandlerRun) (requestId : RequestId) (handle : SubscriptionHandle) : HandlerRun :=
  let addressed (reg : Registration) : Bool :=
    handle.unsub = reg.connection && requestId = reg.sub.requestId
  { s.untrack requestId with
    live := s.live.filter fun reg => !addressed reg
    leaving := s.leaving ++ s.live.filter addressed }

/-- The payload is sent to the client; if that fails the handler ends. -/
def forward (s : HandlerRun) (context : HandlerContext) (payload : Json) : HandlerRun :=
  { s with
    status := if context.serialized && !context.delivered then .ended [] else .running
    forwarded := if context.serialized && context.delivered then s.forwarded ++ [payload] else s.forwarded }

/-- The notification says that the account belongs to the delegation program. -/
def Delegating (payload : Json) : Prop :=
  AccountSubscriptionHandler.ownerOf payload = some DELEGATION_PROGRAM_STR

/-- Every transition, with its guard and its full effect. -/
inductive Step (s : HandlerRun) : HandlerEvent → HandlerRun → Prop where
  | confirmed (waiting : sub ∈ s.outstanding) (started : s.status.isEnded = false) :
      Step s (.confirmed sub connection context) (s.confirm sub connection)
  | passed (known : reg ∈ s.listening)
      (settled : reg.sub.upstream = .chain → Delegating payload →
        ∀ identity, context.authority = some identity → context.routes.ephemeralHandle identity = none)
      (untracked : reg.sub.upstream = .ephem → Delegating payload →
        reg.sub.requestId ∉ s.handler.handles)
      (running : s.status = .running) :
      Step s (.notified reg payload context) (s.forward context payload)
  | delegated (known : reg ∈ s.listening) (chain : reg.sub.upstream = .chain)
      (delegating : Delegating payload) (authority : context.authority = some identity)
      (found : context.routes.ephemeralHandle identity = some node) (running : s.status = .running) :
      Step s (.notified reg payload context)
        ((s.dispatch (s.handler.ephemSubscription context node)).forward context payload)
  | undelegated (known : reg ∈ s.listening) (ephem : reg.sub.upstream = .ephem)
      (delegating : Delegating payload)
      (tracked : s.handler.handles.lookup reg.sub.requestId = some handle)
      (running : s.status = .running) :
      Step s (.notified reg payload context)
        ((s.unsubscribe reg.sub.requestId handle).forward context payload)
  | ignored (known : reg ∈ s.listening) (untracked : reg.sub.requestId ∉ s.handler.handles)
      (running : s.status = .running) :
      Step s (.lost reg context) (s.forget reg)
  | stranded (known : reg ∈ s.listening)
      (tracked : s.handler.handles.lookup reg.sub.requestId = some handle)
      (nowhere : (AccountSubscriptionHandler.redestination context).1 = none)
      (running : s.status = .running) :
      Step s (.lost reg context) ((s.forget reg).untrack reg.sub.requestId)
  | redispatched (known : reg ∈ s.listening)
      (tracked : s.handler.handles.lookup reg.sub.requestId = some handle)
      (redirected : (AccountSubscriptionHandler.redestination context).1 = some url)
      (running : s.status = .running) :
      Step s (.lost reg context)
        (((s.forget reg).untrack reg.sub.requestId).dispatch (s.handler.resubscription handle url))
  | cancelled (leaving : reg ∈ s.leaving) :
      Step s (.cancelled reg)
        { s with leaving := s.leaving.erase reg, cancelled := reg :: s.cancelled }
  | closed (running : s.status = .running) :
      Step s (.closed routes) { s with
        handler := (s.handler.close routes).handler
        status := .ended (s.handler.close routes).effects }

variable {s t : HandlerRun} {event : HandlerEvent} {context : HandlerContext} {reg : Registration}
variable {payload : Json} {requestId : RequestId} {upstream : PubSubUpstreamKind}
variable {handle : SubscriptionHandle}

@[simp] theorem untrack_dispatched : (s.untrack requestId).dispatched = s.dispatched := rfl

theorem isRunning_iff {status : HandlerStatus} : status.isRunning = true ↔ status = .running := by
  cases status <;> simp [HandlerStatus.isRunning]

@[simp] theorem forget_status : (s.forget reg).status = s.status := rfl

@[simp] theorem forget_handler : (s.forget reg).handler = s.handler := rfl

@[simp] theorem forget_outstanding : (s.forget reg).outstanding = s.outstanding := rfl

@[simp] theorem forget_dispatched : (s.forget reg).dispatched = s.dispatched := rfl

theorem forget_live_sublist : (s.forget reg).live.Sublist s.live :=
  List.erase_sublist

theorem forget_leaving_sublist : (s.forget reg).leaving.Sublist s.leaving := by
  unfold forget
  dsimp only
  split
  · exact List.Sublist.refl _
  · exact List.erase_sublist

theorem forget_cancelled_sublist : (s.forget reg).cancelled.Sublist s.cancelled := by
  unfold forget
  dsimp only
  split
  · exact List.Sublist.refl _
  · exact List.erase_sublist

theorem forget_listening_subset : (s.forget reg).listening ⊆ s.listening :=
  ((forget_live_sublist.append forget_leaving_sublist).append forget_cancelled_sublist).subset

theorem mem_listening_unsubscribe (requestId : RequestId) (handle : SubscriptionHandle) :
    reg ∈ (s.unsubscribe requestId handle).listening ↔ reg ∈ s.listening := by
  simp only [listening, unsubscribe, untrack, List.mem_append, List.mem_filter, Bool.not_eq_true']
  cases addressed : decide (handle.unsub = reg.connection) && decide (requestId = reg.sub.requestId)
  · simp
  · simp [or_comm]

private theorem take_subscribed (sub : Subscription) (connection : UnsubChannel) :
    { s with
        outstanding := s.outstanding.erase sub
        live := { sub, connection } :: s.live }.take context
      (.subscribed (Sources.confirmation sub connection)) = s.confirm sub connection := by
  simp [take, AccountSubscriptionHandler.receive, confirm, Sources.confirmation]

private theorem take_unchanged
    (handled : s.handler.handleDelegationStatusChange context payload requestId upstream =
      (s.handler, [])) :
    s.take context (.notification requestId upstream payload) = s.forward context payload := by
  cases serialized : context.serialized <;> cases delivered : context.delivered <;>
    simp [take, AccountSubscriptionHandler.receive, handled, forward, serialized, delivered,
      HandlerEffect.addresses, HandlerEffect.dispatched, HandlerEffect.notified]

private theorem take_dispatch {sub : Subscription}
    (handled : s.handler.handleDelegationStatusChange context payload requestId upstream =
      (s.handler, [.dispatch sub])) :
    s.take context (.notification requestId upstream payload) =
      (s.dispatch sub).forward context payload := by
  cases serialized : context.serialized <;> cases delivered : context.delivered <;>
    simp [take, AccountSubscriptionHandler.receive, handled, forward, dispatch, serialized, delivered,
      List.filterMap_cons, HandlerEffect.addresses, HandlerEffect.dispatched, HandlerEffect.notified]

private theorem take_unsubscribe
    (handled : s.handler.handleDelegationStatusChange context payload requestId upstream =
      ({ s.handler with handles := s.handler.handles.erase requestId },
        [.unsubscribe handle.unsub (s.handler.accountUnsubscribe requestId)])) :
    s.take context (.notification requestId upstream payload) =
      (s.unsubscribe requestId handle).forward context payload := by
  cases serialized : context.serialized <;> cases delivered : context.delivered <;>
    simp [take, AccountSubscriptionHandler.receive, handled, forward, unsubscribe, untrack,
      serialized, delivered, List.filterMap_cons, HandlerEffect.addresses, HandlerEffect.dispatched,
      HandlerEffect.notified, AccountSubscriptionHandler.accountUnsubscribe]

private theorem notified_chain_sound (running : s.status = .running) (known : reg ∈ s.listening)
    (chain : reg.sub.upstream = .chain) (delegating : Delegating payload) :
    Step s (.notified reg payload context)
      (s.take context (.notification reg.sub.requestId reg.sub.upstream payload)) := by
  have owner : AccountSubscriptionHandler.ownerOf payload = some DELEGATION_PROGRAM_STR := delegating
  cases authority : context.authority with
  | none =>
    have handled : s.handler.handleDelegationStatusChange context payload reg.sub.requestId
        reg.sub.upstream = (s.handler, []) := by
      simp [AccountSubscriptionHandler.handleDelegationStatusChange, owner, chain, authority]
    rw [take_unchanged handled]
    exact .passed known (by simp [authority]) (by simp [chain]) running
  | some identity =>
    cases found : context.routes.ephemeralHandle identity with
    | none =>
      have handled : s.handler.handleDelegationStatusChange context payload reg.sub.requestId
          reg.sub.upstream = (s.handler, []) := by
        simp [AccountSubscriptionHandler.handleDelegationStatusChange, owner, chain, authority, found]
      rw [take_unchanged handled]
      exact .passed known (by simp [authority, found]) (by simp [chain]) running
    | some node =>
      have handled : s.handler.handleDelegationStatusChange context payload reg.sub.requestId
          reg.sub.upstream = (s.handler, [.dispatch (s.handler.ephemSubscription context node)]) := by
        simp [AccountSubscriptionHandler.handleDelegationStatusChange, owner, chain, authority, found]
      rw [take_dispatch handled]
      exact .delegated known chain delegating authority found running

private theorem notified_ephem_sound (running : s.status = .running) (known : reg ∈ s.listening)
    (ephem : reg.sub.upstream = .ephem) (delegating : Delegating payload) :
    Step s (.notified reg payload context)
      (s.take context (.notification reg.sub.requestId reg.sub.upstream payload)) := by
  have owner : AccountSubscriptionHandler.ownerOf payload = some DELEGATION_PROGRAM_STR := delegating
  cases tracked : s.handler.handles.lookup reg.sub.requestId with
  | none =>
    have handled : s.handler.handleDelegationStatusChange context payload reg.sub.requestId
        reg.sub.upstream = (s.handler, []) := by
      simp [AccountSubscriptionHandler.handleDelegationStatusChange, owner, ephem, tracked]
    rw [take_unchanged handled]
    exact .passed known (by simp [ephem]) (fun _ _ => AList.lookup_eq_none.mp tracked) running
  | some handle =>
    have handled : s.handler.handleDelegationStatusChange context payload reg.sub.requestId
        reg.sub.upstream = ({ s.handler with handles := s.handler.handles.erase reg.sub.requestId },
          [.unsubscribe handle.unsub (s.handler.accountUnsubscribe reg.sub.requestId)]) := by
      simp [AccountSubscriptionHandler.handleDelegationStatusChange, owner, ephem, tracked]
    rw [take_unsubscribe handled]
    exact .undelegated known ephem delegating tracked running

private theorem notified_sound (running : s.status = .running) (known : reg ∈ s.listening) :
    Step s (.notified reg payload context)
      (s.take context (.notification reg.sub.requestId reg.sub.upstream payload)) := by
  by_cases delegating : Delegating payload
  · cases kind : reg.sub.upstream with
    | chain => exact kind ▸ notified_chain_sound running known kind delegating
    | ephem => exact kind ▸ notified_ephem_sound running known kind delegating
  · have unmoved : s.handler.handleDelegationStatusChange context payload reg.sub.requestId
        reg.sub.upstream = (s.handler, []) := by
      unfold AccountSubscriptionHandler.handleDelegationStatusChange
      cases owner : AccountSubscriptionHandler.ownerOf payload with
      | none => rfl
      | some other =>
        have different : other ≠ DELEGATION_PROGRAM_STR := by
          rintro rfl
          exact delegating owner
        simp [different]
    rw [take_unchanged unmoved]
    exact .passed known (fun _ moved => absurd moved delegating)
      (fun _ moved => absurd moved delegating) running

private theorem take_untracked (running : s.status = .running)
    (untracked : s.handler.handles.lookup requestId = none) :
    s.take context (.disconnected requestId) = s := by
  simp [take, AccountSubscriptionHandler.receive, untracked, ← running]

private theorem take_stranded (running : s.status = .running)
    (tracked : s.handler.handles.lookup requestId = some handle)
    (nowhere : (AccountSubscriptionHandler.redestination context).1 = none) :
    s.take context (.disconnected requestId) = s.untrack requestId := by
  simp [take, AccountSubscriptionHandler.receive, tracked, nowhere, untrack, ← running]

private theorem take_redispatched {url : Url} (running : s.status = .running)
    (tracked : s.handler.handles.lookup requestId = some handle)
    (redirected : (AccountSubscriptionHandler.redestination context).1 = some url) :
    s.take context (.disconnected requestId) =
      (s.untrack requestId).dispatch (s.handler.resubscription handle url) := by
  simp [take, AccountSubscriptionHandler.receive, tracked, redirected, untrack, dispatch,
    HandlerEffect.addresses, HandlerEffect.dispatched, HandlerEffect.notified, ← running]
  rfl

private theorem lost_sound (running : s.status = .running) (known : reg ∈ s.listening) :
    Step s (.lost reg context) ((s.forget reg).take context (.disconnected reg.sub.requestId)) := by
  have status : (s.forget reg).status = .running := by simp [running]
  cases tracked : s.handler.handles.lookup reg.sub.requestId with
  | none =>
    rw [take_untracked status (by simp [tracked])]
    exact .ignored known (AList.lookup_eq_none.mp tracked) running
  | some handle =>
    have tracked' : (s.forget reg).handler.handles.lookup reg.sub.requestId = some handle := by
      simp [tracked]
    cases redirected : (AccountSubscriptionHandler.redestination context).1 with
    | none =>
      rw [take_stranded status tracked' redirected]
      exact .stranded known tracked redirected running
    | some url =>
      rw [take_redispatched status tracked' redirected, forget_handler]
      exact .redispatched known tracked redirected running

theorem step_sound (fired : step s event = some t) : Step s event t := by
  cases event with
  | confirmed sub connection context =>
    simp only [step] at fired
    split at fired
    · rename_i enabled
      cases fired
      rw [take_subscribed]
      simp only [Bool.and_eq_true, Bool.not_eq_true', decide_eq_true_eq] at enabled
      exact .confirmed enabled.2 enabled.1
    · cases fired
  | notified reg payload context =>
    simp only [step] at fired
    split at fired
    · rename_i enabled
      cases fired
      simp only [Bool.and_eq_true, decide_eq_true_eq] at enabled
      exact notified_sound (isRunning_iff.mp enabled.1) enabled.2
    · cases fired
  | lost reg context =>
    simp only [step] at fired
    split at fired
    · rename_i enabled
      cases fired
      simp only [Bool.and_eq_true, decide_eq_true_eq] at enabled
      exact lost_sound (isRunning_iff.mp enabled.1) enabled.2
    · cases fired
  | cancelled reg =>
    simp only [step] at fired
    split at fired <;> cases fired
    exact .cancelled ‹_›
  | closed routes =>
    simp only [step] at fired
    split at fired <;> cases fired
    exact .closed (isRunning_iff.mp ‹_›)

section Sample

/-- The account of the sample runs while it is not delegated. -/
def undelegatedContext : HandlerContext := { Sources.sampleContext with authority := none }

/-- A later moment, with the account delegated and new ids generated. -/
def delegatedContext : HandlerContext :=
  { Sources.sampleContext with subscriberId := ⟨3⟩, requestId := ⟨4⟩ }

def chainPending : PendingAccountSubscription :=
  { Sources.samplePending with dispatched := [Sources.chainSub] }

theorem chain_subscribed :
    WebsocketServer.accountSubscribe undelegatedContext ⟨1⟩ (.repeating 1) none =
      (.ok chainPending, RoutingTable.sample.baseChain.2) :=
  rfl

def chainReg : Registration where
  sub := Sources.chainSub
  connection := ⟨1⟩

/-- A notification of an account that the delegation program owns. -/
def delegatingPayload : Json := .obj [("value", .obj [("owner", .str DELEGATION_PROGRAM_STR)])]

/-- What the handler dispatches on that notification. -/
def followSub : Subscription :=
  AccountSubscriptionHandler.ephemSubscription delegatedContext chainPending.handler
    { rpc := RoutingTable.sampleNode.client, ws := RoutingTable.sampleNode.wsUrl }

end Sample

end HandlerRun

end MagicRouter
