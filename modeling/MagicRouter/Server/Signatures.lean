import MagicRouter.Library.Run
import MagicRouter.Server.Http
import MagicRouter.Server.Websocket

/-! Signature subscriptions of websocket clients (`server/websocket.rs`): how one is
set up, and the handler that waits for its single notification. -/

namespace MagicRouter

open Library

/-- How `signature_subscribe` ends early: with an error for the request, or with an
error object sent to the sink it has already accepted. -/
inductive SignatureRefusal where
  | failed (error : RouterError)
  | reported (error : RouterError)
  deriving DecidableEq

/-- What the client's sink is sent then. -/
def SignatureRefusal.effects : SignatureRefusal → List HandlerEffect
  | .failed _ => []
  | .reported error => [.report error]

/-- A signature subscription that was dispatched and waits for its confirmation. -/
structure PendingSignatureSubscription where
  signature : Signature
  subscriberId : SubscriberId
  dispatched : Subscription
  deriving DecidableEq

structure SignatureSubscriptionHandler where
  subscriberId : SubscriberId
  signature : Signature
  handle : SubscriptionHandle
  deriving DecidableEq

namespace WebsocketServer

/-- `signature_subscribe` up to the wait for its confirmation. -/
def signatureSubscribe (lib : TransactionLibrary) (transactions : ForwardedTransactions)
    (subscriberId : SubscriberId) (requestId : RequestId) (pubsubTx : Channel) (signature : String)
    (params : Option RpcSignatureSubscribeConfig) :
    Except SignatureRefusal PendingSignatureSubscription :=
  match lib.parseSignature signature with
  | .error error => .error (.failed (.decodeError error))
  | .ok signature =>
    match transactions.get signature with
    | none => .error (.reported (.unknownTransaction signature))
    | some handle =>
      .ok {
        signature, subscriberId
        dispatched := {
          requestId, subscriberId
          payload := signatureSubscriptionJson requestId signature params
          tx := pubsubTx
          destination := handle.ws
          upstream := .chain } }

/-- The sink is sent an error for a signature of which no transaction was forwarded. -/
theorem signatureSubscribe_reported {lib : TransactionLibrary}
    {transactions : ForwardedTransactions} {subscriberId : SubscriberId} {requestId : RequestId}
    {tx : Channel} {text : String} {params : Option RpcSignatureSubscribeConfig}
    {error : RouterError} (refused : signatureSubscribe lib transactions subscriberId requestId tx text
      params = .error (.reported error)) :
    ∃ signature, lib.parseSignature text = .ok signature ∧ transactions.get signature = none ∧
      error = .unknownTransaction signature := by
  unfold signatureSubscribe at refused
  split at refused
  · cases refused
  · rename_i signature parsed
    split at refused
    · rename_i unknown
      cases refused
      exact ⟨signature, parsed, unknown, rfl⟩
    · cases refused

/-- The rest of `signature_subscribe`: `message` is what arrived before the timeout. -/
def startSignatureHandler (pending : PendingSignatureSubscription) (message : Option PubsubMessage) :
    Except SignatureRefusal SignatureSubscriptionHandler :=
  match message with
  | some (.subscribed handle) =>
    .ok { subscriberId := pending.subscriberId, signature := pending.signature, handle }
  | _ => .error (.reported (.subscriptionTimeout "signatureSubscribe"))

end WebsocketServer

/-- The branch of the handler's only `select!` that is taken. -/
inductive SignatureInput where
  | closed
  /-- a message, and whether it could be serialized and the client's sink took it -/
  | message (msg : PubsubMessage) (serialized delivered : Bool)
  | timeout

/-- `SignatureSubscriptionHandler::run`: it takes one branch and ends. -/
def SignatureSubscriptionHandler.run (handler : SignatureSubscriptionHandler) :
    SignatureInput → List HandlerEffect
  | .closed => [.unsubscribe handler.handle.unsub {
      requestId := handler.handle.requestId
      subscriberId := handler.subscriberId
      method := "signatureUnsubscribe" }]
  | .message (.notification _ _ payload) serialized delivered =>
    if serialized && delivered then [.notify payload] else []
  | .message _ _ _ => []
  | .timeout => []

/-- Where a signature subscription is. -/
inductive SignatureStatus where
  | waiting
  | running (handler : SignatureSubscriptionHandler)
  | ended

/-- A signature subscription with all that its handler has sent. -/
structure SignatureRun where
  pending : PendingSignatureSubscription
  status : SignatureStatus
  sent : List HandlerEffect

inductive SignatureEvent where
  /-- what arrives at `signature_subscribe` before the timeout, if anything does -/
  | confirmation (message : Option PubsubMessage)
  | input (input : SignatureInput)

namespace SignatureRun

def start (pending : PendingSignatureSubscription) : SignatureRun where
  pending
  status := .waiting
  sent := []

def step (s : SignatureRun) (event : SignatureEvent) : Option SignatureRun :=
  match s.status, event with
  | .waiting, .confirmation message =>
    match WebsocketServer.startSignatureHandler s.pending message with
    | .ok handler => some { s with status := .running handler }
    | .error _ => some { s with status := .ended }
  | .running handler, .input input =>
    some { s with status := .ended, sent := s.sent ++ handler.run input }
  | _, _ => none

/-- A signature handler never subscribes to anything. -/
theorem run_dispatches_nothing (handler : SignatureSubscriptionHandler) (input : SignatureInput) :
    (handler.run input).filterMap HandlerEffect.dispatched = [] := by
  cases input with
  | closed => rfl
  | timeout => rfl
  | message msg serialized delivered =>
    cases msg with
    | subscribed _ => rfl
    | disconnected _ => rfl
    | notification _ _ payload => cases serialized <;> cases delivered <;> rfl

end SignatureRun

end MagicRouter
