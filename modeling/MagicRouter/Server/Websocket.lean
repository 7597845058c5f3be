import MagicRouter.Cache.Routes

/-! Account subscriptions of websocket clients (`server/websocket.rs`): how one is set
up, and the handler that keeps its upstream subscriptions while it lasts. -/

namespace MagicRouter

open Library

def DELEGATION_PROGRAM_STR : String := "DELeGGvXpWV2fqJUhqcF5ZSYMS4JTLjteaAMARRSaeSh"

structure AccountSubscriptionHandler where
  pubkey : Pubkey
  subscriberId : SubscriberId
  pubsubTx : Channel
  handles : Store RequestId SubscriptionHandle
  params : Option RpcAccountInfoConfig

/-- What is sent for a subscriber: subscriptions to the dispatcher, unsubscriptions to a
connection, and to its client notifications or an error object. -/
inductive HandlerEffect where
  | dispatch (sub : Subscription)
  | unsubscribe (connection : UnsubChannel) (unsub : Unsubscription)
  | notify (payload : Json)
  | report (error : RouterError)

def HandlerEffect.dispatched : HandlerEffect → Option Subscription
  | .dispatch sub => some sub
  | .unsubscribe .. | .notify _ | .report _ => none

/-- What a handler reads while it handles one message: the delegation authority of
its account, the routing table, newly generated ids, and whether the notification
could be serialized and the client's sink took it. -/
structure HandlerContext where
  authority : Option Pubkey
  routes : RoutingTable
  subscriberId : SubscriberId
  requestId : RequestId
  serialized : Bool
  delivered : Bool

/-- A handler after one message; it ends when `running` is false. -/
structure HandlerOutcome where
  handler : AccountSubscriptionHandler
  effects : List HandlerEffect
  routes : RoutingTable
  running : Bool

namespace AccountSubscriptionHandler

def accountUnsubscribe (handler : AccountSubscriptionHandler) (requestId : RequestId) :
    Unsubscription where
  requestId
  subscriberId := handler.subscriberId
  method := "accountUnsubscribe"

/-- The owner field of an account notification. -/
def ownerOf (notification : Json) : Option String :=
  ((notification.get "value").bind (·.get "owner")).bind Json.asStr

/-- The subscription to the node an account has been delegated to. -/
def ephemSubscription (context : HandlerContext) (handler : AccountSubscriptionHandler)
    (node : RemoteHandle) : Subscription where
  requestId := context.requestId
  subscriberId := context.subscriberId
  payload := accountSubscriptionJson context.requestId handler.pubkey handler.params
  tx := handler.pubsubTx
  destination := node.ws
  upstream := .ephem

def handleDelegationStatusChange (context : HandlerContext) (handler : AccountSubscriptionHandler)
    (notification : Json) (id : RequestId) (upstream : PubSubUpstreamKind) :
    AccountSubscriptionHandler × List HandlerEffect :=
  match ownerOf notification with
  | none => (handler, [])
  | some owner =>
    if owner ≠ DELEGATION_PROGRAM_STR then (handler, [])
    else
      match upstream with
      | .chain =>
        match context.authority with
        | none => (handler, [])
        | some identity =>
          match context.routes.ephemeralHandle identity with
          | none => (handler, [])
          | some node => (handler, [.dispatch (handler.ephemSubscription context node)])
      | .ephem =>
        match handler.handles.lookup id with
        | none => (handler, [])
        | some handle =>
          ({ handler with handles := handler.handles.erase id },
            [.unsubscribe handle.unsub (handler.accountUnsubscribe id)])

/-- Where a lost subscription is sent again, and the table afterwards. -/
def redestination (context : HandlerContext) : Option Url × RoutingTable :=
  match context.authority with
  | some validator => ((context.routes.ephemeralHandle validator).map (·.ws), context.routes)
  | none =>
    let (upstream, routes) := context.routes.baseChain
    (some upstream.wsUrl, routes)

/-- A lost subscription dispatched again under its request id, with its upstream tag. -/
def resubscription (handler : AccountSubscriptionHandler) (handle : SubscriptionHandle)
    (destination : Url) : Subscription where
  requestId := handle.requestId
  subscriberId := handler.subscriberId
  payload := accountSubscriptionJson handle.requestId handler.pubkey handler.params
  tx := handler.pubsubTx
  destination
  upstream := handle.upstream

/-- One message received in `run`. -/
def receive (context : HandlerContext) (handler : AccountSubscriptionHandler) :
    PubsubMessage → HandlerOutcome
  | .subscribed handle =>
    { handler := { handler with handles := handler.handles.insert handle.requestId handle }
      effects := []
      routes := context.routes
      running := true }
  | .notification id upstream payload =>
    let (handler, effects) := handler.handleDelegationStatusChange context payload id upstream
    if !context.serialized then { handler, effects, routes := context.routes, running := true }
    else if context.delivered then
      { handler, effects := effects ++ [.notify payload], routes := context.routes, running := true }
    else { handler, effects, routes := context.routes, running := false }
  | .disconnected id =>
    match handler.handles.lookup id with
    | none => { handler, effects := [], routes := context.routes, running := true }
    | some handle =>
      let handler := { handler with handles := handler.handles.erase id }
      let (destination, routes) := redestination context
      let effects := destination.toList.map fun url => .dispatch (handler.resubscription handle url)
      { handler, effects, routes, running := true }

/-- All that `handle_delegation_status_change` can do. -/
theorem handleDelegationStatusChange_cases (context : HandlerContext)
    (handler : AccountSubscriptionHandler) (notification : Json) (id : RequestId)
    (upstream : PubSubUpstreamKind) :
    handler.handleDelegationStatusChange context notification id upstream = (handler, []) ∨
    (∃ identity node, upstream = .chain ∧ context.authority = some identity ∧
      context.routes.ephemeralHandle identity = some node ∧
      handler.handleDelegationStatusChange context notification id upstream =
        (handler, [.dispatch (handler.ephemSubscription context node)])) ∨
    ∃ handle, upstream = .ephem ∧ handler.handles.lookup id = some handle ∧
      handler.handleDelegationStatusChange context notification id upstream =
        ({ handler with handles := handler.handles.erase id },
          [.unsubscribe handle.unsub (handler.accountUnsubscribe id)]) := by
  fun_cases handleDelegationStatusChange with grind

/-- A handler stays with its account. -/
theorem receive_pubkey (context : HandlerContext) (handler : AccountSubscriptionHandler)
    (message : PubsubMessage) : (handler.receive context message).handler.pubkey = handler.pubkey := by
  cases message with
  | subscribed handle => rfl
  | notification id upstream payload =>
    have kept : (handler.handleDelegationStatusChange context payload id upstream).1.pubkey =
        handler.pubkey := by
      obtain same | ⟨_, _, _, _, _, same⟩ | ⟨_, _, _, same⟩ :=
        handleDelegationStatusChange_cases context handler payload id upstream
      all_goals rw [same]
    simp only [receive]
    split
    · exact kept
    · split
      · exact kept
      · exact kept
  | disconnected id =>
    simp only [receive]
    split
    · rfl
    · rfl

/-- The client has closed its sink: `run` drains the handles and ends. -/
def close (routes : RoutingTable) (handler : AccountSubscriptionHandler) : HandlerOutcome where
  handler := { handler with handles := ∅ }
  effects := handler.handles.entries.map fun entry =>
    .unsubscribe entry.2.unsub (handler.accountUnsubscribe entry.1)
  routes
  running := false

end AccountSubscriptionHandler

/-- An account subscription that was dispatched upstream and waits for a first
confirmation; `handler` is the one to be started then. -/
structure PendingAccountSubscription where
  handler : AccountSubscriptionHandler
  dispatched : List Subscription

namespace WebsocketServer

/-- `account_subscribe` up to the wait for its confirmation. `base_chain` is asked, and
its turn passed on, before an unknown node is noticed. -/
def accountSubscribe (context : HandlerContext) (pubsubTx : Channel) (pubkey : Pubkey)
    (params : Option RpcAccountInfoConfig) :
    Except RouterError PendingAccountSubscription × RoutingTable :=
  let (upstream, routes) := context.routes.baseChain
  let ephem : Except RouterError (Option Url) :=
    match context.authority with
    | none => .ok none
    | some validator =>
      match routes.ephemeralHandle validator with
      | none => .error (.unknownErNode validator)
      | some handle => .ok (some handle.ws)
  match ephem with
  | .error error => (.error error, routes)
  | .ok ephem =>
    let chainSubscription : Subscription := {
      requestId := context.requestId
      subscriberId := context.subscriberId
      payload := accountSubscriptionJson context.requestId pubkey params
      tx := pubsubTx
      destination := upstream.wsUrl
      upstream := .chain }
    let ephemSubscription := ephem.map chainSubscription.cloneWithDestination
    (.ok {
      handler := { pubkey, subscriberId := context.subscriberId, pubsubTx, handles := ∅, params }
      dispatched := ephemSubscription.toList ++ [chainSubscription] }, routes)

/-- The subscription to the base chain whose turn it is. -/
def chainSubscription (context : HandlerContext) (pubsubTx : Channel) (pubkey : Pubkey)
    (params : Option RpcAccountInfoConfig) : Subscription where
  requestId := context.requestId
  subscriberId := context.subscriberId
  payload := accountSubscriptionJson context.requestId pubkey params
  tx := pubsubTx
  destination := context.routes.baseChain.1.wsUrl
  upstream := .chain

/-- What `account_subscribe` dispatches: one subscription to the base chain and, if the
account is delegated, a copy of it to the node. -/
theorem accountSubscribe_ok {context : HandlerContext} {tx : Channel} {pubkey : Pubkey}
    {params : Option RpcAccountInfoConfig} {pending : PendingAccountSubscription}
    {routes : RoutingTable}
    (subscribed : accountSubscribe context tx pubkey params = (.ok pending, routes)) :
    pending.handler = { pubkey, subscriberId := context.subscriberId, pubsubTx := tx, handles := ∅
                        params } ∧
    ((context.authority = none ∧
        pending.dispatched = [chainSubscription context tx pubkey params]) ∨
      ∃ validator node, context.authority = some validator ∧
        context.routes.ephemeralHandle validator = some node ∧
        pending.dispatched =
          [(chainSubscription context tx pubkey params).cloneWithDestination node.ws,
            chainSubscription context tx pubkey params]) := by
  cases delegated : context.authority with
  | none =>
    simp only [accountSubscribe, delegated, Prod.mk.injEq, Except.ok.injEq] at subscribed
    obtain ⟨rfl, -⟩ := subscribed
    exact ⟨rfl, .inl ⟨rfl, rfl⟩⟩
  | some validator =>
    -- the turn of the base chain leaves the nodes as they are
    have kept : context.routes.baseChain.2.ephemeralHandle validator =
        context.routes.ephemeralHandle validator := rfl
    cases found : context.routes.ephemeralHandle validator with
    | none => simp [accountSubscribe, delegated, kept, found] at subscribed
    | some node =>
      simp only [accountSubscribe, delegated, kept, found, Prod.mk.injEq,
        Except.ok.injEq] at subscribed
      obtain ⟨rfl, -⟩ := subscribed
      exact ⟨rfl, .inr ⟨validator, node, rfl, found, rfl⟩⟩

/-- The rest of `account_subscribe`: `message` is what arrived before the timeout. -/
def startHandler (pending : PendingAccountSubscription) (message : Option PubsubMessage) :
    Except String AccountSubscriptionHandler :=
  match message with
  | none => .error "upstream failed to confirm the subscription"
  | some (.subscribed handle) =>
    .ok { pending.handler with handles := pending.handler.handles.insert handle.requestId handle }
  | some _ => .error "upstream failed to confirm the subscription for account"

end WebsocketServer

end MagicRouter
