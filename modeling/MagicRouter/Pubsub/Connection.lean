import MagicRouter.Library.Tally
import MagicRouter.Pubsub.Subscription

/-! One upstream websocket connection (`pubsub/connection.rs`): the loop of
`WebsocketConnection::run`, one iteration per event, with everything it does
recorded in the order it is done. -/

namespace MagicRouter.Connection

open Library

structure SubscriberHandle where
  requestId : RequestId
  upstream : PubSubUpstreamKind
  tx : Channel
  deriving DecidableEq

abbrev Listeners := Store SubscriberId SubscriberHandle

abbrev SubscriptionsDB := Store SubscriptionId Listeners

/-- The maps of a `WebsocketConnection`; `running` is false once its loop has ended. -/
structure WebsocketConnection where
  id : Nat
  url : Url
  subscriptions : SubscriptionsDB
  inflights : Store RequestId Subscription
  requestToSubs : Store RequestId SubscriptionId
  running : Bool

def MAX_RECONNECT_ATTEMPTS : Nat := 16

/-- A frame read from the socket; `none` stands for bytes that are not JSON. -/
inductive ReceivedMessage where
  | data (frame : Option Json)
  | pong

/-- The branch of the loop's `select!` that is taken. Its `else` branch is never
taken: the connection itself keeps a sender of its unsubscription channel. -/
inductive Input where
  | received (message : ReceivedMessage)
  /-- `id` is the request id generated for the upstream request -/
  | unsubscription (request : Unsubscription) (id : RequestId)
  | request (subscription : Subscription)
  | ping

/-- One iteration of the loop, with what its environment does meanwhile. -/
structure Event where
  input : Input
  /-- subscribers whose receiving end is gone -/
  closed : SubscriberId → Bool
  /-- whether the send on the socket succeeds -/
  sent : Bool
  /-- which reconnection attempts succeed, should one be needed -/
  connects : Nat → Bool

/-- Something the connection does. -/
inductive Deed where
  | receive (frame : Option Json)
  | take (subscription : Subscription)
  | subscribe (subscription : Subscription) (ok : Bool)
  | unsubscribe (id : RequestId) (method : String) (subscription : SubscriptionId) (ok : Bool)
  | ping (ok : Bool)
  /-- a message for a subscriber; not `ok` when its channel is found closed -/
  | deliver (subscriber : SubscriberId) (tx : Channel) (message : PubsubMessage) (ok : Bool)
  /-- a listener is taken off its subscription at its own request -/
  | release (subscription : SubscriptionId) (subscriber : SubscriberId) (handle : SubscriberHandle)
  | reconnect (ok : Bool)

/-- A deed together with the maps at the moment it is done. -/
structure Emission where
  moment : WebsocketConnection
  deed : Deed

namespace WebsocketConnection

def new (id : Nat) (url : Url) : WebsocketConnection where
  id
  url
  subscriptions := ∅
  inflights := ∅
  requestToSubs := ∅
  running := true

/-- Replace the listeners of a subscription, dropping it with the last of them. -/
def setListeners (c : WebsocketConnection) (subscription : SubscriptionId) (listeners : Listeners) :
    WebsocketConnection :=
  { c with subscriptions :=
      if listeners.entries.isEmpty then c.subscriptions.erase subscription
      else c.subscriptions.insert subscription listeners }

/-- The `Disconnected` messages for all listeners; what becomes of them is ignored. -/
def farewells (c : WebsocketConnection) : List Deed :=
  c.subscriptions.entries.flatMap fun entry => entry.2.entries.map fun listener =>
    .deliver listener.1 listener.2.tx (.disconnected listener.2.requestId) true

def reestablish (c : WebsocketConnection) (connects : Nat → Bool) :
    WebsocketConnection × List Emission :=
  let cleared := { c with requestToSubs := ∅, subscriptions := ∅ }
  let sent := c.farewells.map fun deed => { moment := cleared, deed }
  let connected := (List.range (MAX_RECONNECT_ATTEMPTS + 1)).any connects
  ({ cleared with running := connected },
    sent ++ [{ moment := cleared, deed := .reconnect connected }])

/-- Go on, or reestablish the connection after a failed send. -/
def afterSend (c : WebsocketConnection) (event : Event) : WebsocketConnection × List Emission :=
  if event.sent then (c, []) else c.reestablish event.connects

/-- A notification goes to every listener of its subscription; listeners whose
channel turns out to be closed are taken off. -/
def notify (c : WebsocketConnection) (params : NotificationParams) (closed : SubscriberId → Bool) :
    WebsocketConnection × List Emission :=
  match c.subscriptions.lookup params.subscription with
  | none => (c, [])
  | some listeners =>
    let sends := listeners.entries.map fun listener =>
      { moment := c
        deed := Deed.deliver listener.1 listener.2.tx
          (.notification listener.2.requestId listener.2.upstream params.result)
          (!closed listener.1) }
    let toRemove := listeners.keys.filter closed
    (c.setListeners params.subscription (listeners.eraseAll toRemove), sends)

/-- `subscriptions.entry(subscription).or_default().insert(subscriber, handle)` -/
def register (c : WebsocketConnection) (subscription : SubscriptionId) (subscriber : SubscriberId)
    (handle : SubscriberHandle) : WebsocketConnection :=
  let listeners := ((c.subscriptions.lookup subscription).getD ∅).insert subscriber handle
  { c with subscriptions := c.subscriptions.insert subscription listeners }

def confirm (c : WebsocketConnection) (s : SubscriptionResult) (closed : SubscriberId → Bool) :
    WebsocketConnection × List Emission :=
  match c.inflights.lookup s.id with
  | none => (c, [])
  | some sub =>
    let c := { c with
      inflights := c.inflights.erase s.id
      requestToSubs := c.requestToSubs.insert s.id s.result }
    let handle : SubscriptionHandle := {
      requestId := s.id, unsub := ⟨c.id⟩, upstream := sub.upstream }
    let sends := [{
      moment := c
      deed := .deliver sub.subscriberId sub.tx (.subscribed handle) (!closed sub.subscriberId) }]
    if closed sub.subscriberId then (c, sends)
    else
      let handle : SubscriberHandle := {
        tx := sub.tx, requestId := sub.requestId, upstream := sub.upstream }
      (c.register s.result sub.subscriberId handle, sends)

def receive (c : WebsocketConnection) (frame : Option Json) (closed : SubscriberId → Bool) :
    WebsocketConnection × List Emission :=
  match frame.bind WebsocketMessage.deserialize with
  | none => (c, [])
  | some (.notification params) => c.notify params closed
  | some (.subscribed s) => c.confirm s closed
  | some (.unsubscribed _) => (c, [])

/-- The listener is taken off its subscription, and the subscription is cancelled
upstream whether or not other listeners are left. -/
def unsubscribe (c : WebsocketConnection) (u : Unsubscription) (id : RequestId) (event : Event) :
    WebsocketConnection × List Emission :=
  match c.requestToSubs.lookup u.requestId with
  | none => (c, [])
  | some subid =>
    match c.subscriptions.lookup subid with
    | none => (c, [])
    | some subscribers =>
      let c' := c.setListeners subid (subscribers.erase u.subscriberId)
      let released := (subscribers.lookup u.subscriberId).toList.map fun handle =>
        { moment := c, deed := Deed.release subid u.subscriberId handle }
      let next := c'.afterSend event
      (next.1, released ++
        { moment := c', deed := .unsubscribe id u.method subid event.sent } :: next.2)

def subscribe (c : WebsocketConnection) (s : Subscription) (event : Event) :
    WebsocketConnection × List Emission :=
  let c' := { c with inflights := c.inflights.insert s.requestId s }
  let next := c'.afterSend event
  (next.1, { moment := c, deed := .take s } ::
    { moment := c', deed := .subscribe s event.sent } :: next.2)

/-- One iteration of the loop. -/
def handle (c : WebsocketConnection) (event : Event) : WebsocketConnection × List Emission :=
  match event.input with
  | .received .pong => (c, [])
  | .received (.data frame) =>
    let next := c.receive frame event.closed
    (next.1, { moment := c, deed := .receive frame } :: next.2)
  | .unsubscription u id => c.unsubscribe u id event
  | .request s => c.subscribe s event
  | .ping =>
    let next := c.afterSend event
    (next.1, { moment := c, deed := .ping event.sent } :: next.2)

end WebsocketConnection

/-- A connection with the record of all it has done. -/
structure Session where
  connection : WebsocketConnection
  log : List Emission

def Session.start (id : Nat) (url : Url) : Session where
  connection := .new id url
  log := []

def step (s : Session) (event : Event) : Option Session :=
  if s.connection.running then
    let next := s.connection.handle event
    some { connection := next.1, log := s.log ++ next.2 }
  else none

end MagicRouter.Connection
