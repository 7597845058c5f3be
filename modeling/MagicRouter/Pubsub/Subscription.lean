import MagicRouter.Types

/-! The messages exchanged between subscribers, the subscription dispatcher and
the upstream websocket connections (`pubsub/mod.rs`, `pubsub/subscription.rs`,
`pubsub/notification.rs`). -/

namespace MagicRouter

inductive PubSubUpstreamKind where
  | chain
  | ephem
  deriving DecidableEq

/-- Current state of a websocket upstream. -/
structure WsUpstreamState where
  isOnline : Bool
  url : Url
  target : PubSubUpstreamKind
  deriving DecidableEq

/-- A JSON value; numbers that are not natural are kept as text. -/
inductive Json where
  | null
  | bool (value : Bool)
  | num (value : Nat)
  | numText (text : String)
  | str (value : String)
  | arr (items : List Json)
  | obj (fields : List (String × Json))

namespace Json

/-- Field access; `none` on anything but an object with that field. -/
def get (value : Json) (field : String) : Option Json :=
  match value with
  | .obj fields => fields.lookup field
  | _ => none

def asStr : Json → Option String
  | .str value => some value
  | _ => none

def asU64 : Json → Option Nat
  | .num value => if value < UInt64.size then some value else none
  | _ => none

def isU64 (value : Json) : Bool := value.asU64.isSome

end Json

/-- Sending half of a subscriber's message channel. -/
structure Channel where
  id : Nat
  deriving DecidableEq

/-- Sending half of the unsubscription channel of one connection. -/
structure UnsubChannel where
  connection : Nat
  deriving DecidableEq

/-- Client-supplied account configuration; the router only passes it on. -/
structure RpcAccountInfoConfig where
  text : String
  deriving DecidableEq

/-- Client-supplied configuration of a signature subscription; only passed on. -/
structure RpcSignatureSubscribeConfig where
  text : String
  deriving DecidableEq

/-- The JSON body of a subscription request. -/
inductive SubscriptionPayload where
  | accountSubscribe (id : RequestId) (pubkey : Pubkey) (params : Option RpcAccountInfoConfig)
  | signatureSubscribe (id : RequestId) (signature : Signature)
      (params : Option RpcSignatureSubscribeConfig)
  | programSubscribe (id : RequestId) (pubkey : Pubkey)
  deriving DecidableEq

def SubscriptionPayload.isAccount : SubscriptionPayload → Bool
  | .accountSubscribe .. => true
  | _ => false

/-- `account_subscription_json` -/
def accountSubscriptionJson (id : RequestId) (pubkey : Pubkey)
    (params : Option RpcAccountInfoConfig) : SubscriptionPayload :=
  .accountSubscribe id pubkey params

/-- `signature_subscription_json` -/
def signatureSubscriptionJson (id : RequestId) (signature : Signature)
    (params : Option RpcSignatureSubscribeConfig) : SubscriptionPayload :=
  .signatureSubscribe id signature params

structure Subscription where
  requestId : RequestId
  subscriberId : SubscriberId
  payload : SubscriptionPayload
  tx : Channel
  destination : Url
  upstream : PubSubUpstreamKind
  deriving DecidableEq

/-- `Subscription::clone_with_destination`: the upstream tag is copied unchanged. -/
def Subscription.cloneWithDestination (sub : Subscription) (url : Url) : Subscription :=
  { sub with destination := url }

structure Unsubscription where
  subscriberId : SubscriberId
  requestId : RequestId
  method : String
  deriving DecidableEq

/-- Handle a subscriber keeps for one confirmed subscription. -/
structure SubscriptionHandle where
  requestId : RequestId
  unsub : UnsubChannel
  upstream : PubSubUpstreamKind
  deriving DecidableEq

/-- Message sent by a connection to one of its subscribers. -/
inductive PubsubMessage where
  | subscribed (handle : SubscriptionHandle)
  | notification (id : RequestId) (upstream : PubSubUpstreamKind) (payload : Json)
  | disconnected (id : RequestId)

structure SubscriptionResult where
  id : RequestId
  result : SubscriptionId
  deriving DecidableEq

structure UnsubscriptionResult where
  id : RequestId
  deriving DecidableEq

structure NotificationParams where
  result : Json
  subscription : SubscriptionId

/-- A message received from an upstream. -/
inductive WebsocketMessage where
  | subscribed (result : SubscriptionResult)
  | unsubscribed (result : UnsubscriptionResult)
  | notification (params : NotificationParams)

/-- `WebsocketMessage::deserialize` on the JSON value of a frame. A reply without
`result`, such as a JSON-RPC error, is taken for a notification and fails. Left out are
the frames that no node sends: serde also takes an array of the fields in their order for
an object, and refuses an object with a key given twice. -/
def WebsocketMessage.deserialize (value : Json) : Option WebsocketMessage :=
  match value.get "result" with
  | some result =>
    if result.isU64 then do
      let id ← (value.get "id").bind Json.asU64
      let result ← result.asU64
      return .subscribed { id := ⟨id⟩, result }
    else do
      let id ← (value.get "id").bind Json.asU64
      return .unsubscribed { id := ⟨id⟩ }
  | none => do
    let params ← value.get "params"
    let result ← params.get "result"
    let subscription ← (params.get "subscription").bind Json.asU64
    return .notification { result, subscription }

end MagicRouter
