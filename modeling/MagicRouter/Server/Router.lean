import MagicRouter.Pubsub.Composition
import MagicRouter.Server.Revival

/-! The subscriptions of the router as one system: the updater of the routing table and
the handlers of all clients (`server/websocket.rs`, `cache/routes.rs`), the dispatcher
and the connections of its pools, and the channels between them. Everything moves in
any order; what a subscriber reads of the caches is given with its step. -/

namespace MagicRouter

open Library Connection

/-- Where a subscriber is in its life. -/
inductive Phase where
  | registry (updater : Updater)
  | accountPending (pending : PendingAccountSubscription)
  | account (handler : AccountSubscriptionHandler)
  | signaturePending (pending : PendingSignatureSubscription)
  | signature (handler : SignatureSubscriptionHandler)
  | ended

def Phase.isEnded : Phase → Bool
  | .ended => true
  | _ => false

/-- A connection of the network. -/
@[ext]
structure Source where
  pool : PoolId
  member : Nat
  deriving DecidableEq

/-- A subscriber with the channel it reads. -/
structure Party where
  target : SubscriptionTarget
  phase : Phase
  inbox : List PubsubMessage
  /-- the sends it has to get through before it goes on -/
  outbox : List HandlerEffect
  /-- all that its channel has received, and from which connection -/
  arrived : List (Source × PubsubMessage)
  /-- the notifications its client was sent -/
  forwarded : List Json
  /-- the error objects its client was sent -/
  reported : List RouterError

/-- What a subscriber does next. -/
inductive PartyEvent where
  /-- the oldest message is taken; `probe` answers the request the updater may make -/
  | message (context : HandlerContext) (probe : Bool)
  /-- the updater ends or launches pings -/
  | maintenance (event : UpdaterEvent)
  /-- the client closes its sink -/
  | closed (routes : RoutingTable)
  /-- no message came in time -/
  | timeout

/-- The handler draws new ids for the message: that of an account it finds delegated. -/
def AccountSubscriptionHandler.generates (handler : AccountSubscriptionHandler)
    (context : HandlerContext) : PubsubMessage → Bool
  | .notification id upstream payload =>
    (handler.handleDelegationStatusChange context payload id upstream).2.any (·.dispatched.isSome)
  | .subscribed _ | .disconnected _ => false

namespace Party

/-- The ids an event draws for a subscription of its own. -/
def generated (party : Party) : PartyEvent → Option (SubscriberId × RequestId)
  | .message context _ =>
    match party.phase, party.inbox with
    | .account handler, message :: _ =>
      if handler.generates context message then some (context.subscriberId, context.requestId)
      else none
    | _, _ => none
  | .maintenance _ | .closed _ | .timeout => none

/-- A subscriber that goes on in the given phase, once its sends are done. -/
def proceed (party : Party) (phase : Phase) (effects : List HandlerEffect) : Party :=
  { party with phase, outbox := effects }

/-- The rest of `signature_subscribe`, given what arrived before the timeout. -/
def startSignature (party : Party) (pending : PendingSignatureSubscription)
    (message : Option PubsubMessage) : Party :=
  match WebsocketServer.startSignatureHandler pending message with
  | .ok handler => party.proceed (.signature handler) []
  | .error refusal => party.proceed .ended refusal.effects

/-- The oldest message is handled. -/
def take (lib : UpdaterLibrary) (party : Party) (context : HandlerContext) (probe : Bool)
    (message : PubsubMessage) : Option Party :=
  match party.phase with
  | .registry updater =>
    let (updater, output) := updater.receive lib message probe
    some (party.proceed (.registry updater) (output.dispatched.map .dispatch))
  | .accountPending pending =>
    match WebsocketServer.startHandler pending (some message) with
    | .ok handler => some (party.proceed (.account handler) [])
    | .error _ => some (party.proceed .ended [])
  | .account handler =>
    let outcome := handler.receive context message
    some (party.proceed (if outcome.running then .account outcome.handler else .ended)
      outcome.effects)
  | .signaturePending pending => some (party.startSignature pending (some message))
  | .signature handler =>
    some (party.proceed .ended
      (handler.run (.message message context.serialized context.delivered)))
  | .ended => none

def step (lib : UpdaterLibrary) (party : Party) (event : PartyEvent) : Option Party :=
  if party.outbox.isEmpty then
    match event with
    | .message context probe =>
      match party.inbox with
      | [] => none
      | message :: rest => { party with inbox := rest }.take lib context probe message
    | .maintenance event =>
      match party.phase, event with
      | .registry updater, .ping index result =>
        (updater.handle lib (.ping index result)).map fun next =>
          party.proceed (.registry next.1) (next.2.dispatched.map .dispatch)
      | .registry updater, .tick =>
        (updater.handle lib .tick).map fun next =>
          party.proceed (.registry next.1) (next.2.dispatched.map .dispatch)
      | _, _ => none
    | .closed routes =>
      match party.phase with
      | .account handler => some (party.proceed .ended (handler.close routes).effects)
      | .signature handler => some (party.proceed .ended (handler.run .closed))
      | _ => none
    | .timeout =>
      match party.phase with
      | .accountPending _ => some (party.proceed .ended [])
      | .signaturePending pending => some (party.startSignature pending none)
      | .signature handler => some (party.proceed .ended (handler.run .timeout))
      | _ => none
  else none

/-- A message is put into the channel of a subscriber, unless it has ended. -/
def accept (party : Party) (source : Source) (message : PubsubMessage) : Party :=
  if party.phase.isEnded then party
  else { party with
    inbox := party.inbox ++ [message]
    arrived := party.arrived ++ [(source, message)] }

end Party

/-- The messages a connection has found an open channel for. -/
def Connection.sends (log : List Emission) : List (Channel × PubsubMessage) :=
  log.filterMap fun emission =>
    match emission.deed with
    | .deliver _ tx message true => some (tx, message)
    | _ => none

structure Router where
  network : Network
  /-- the channel of the dispatcher -/
  requests : List Subscription
  /-- a subscriber reads the channel of its own number -/
  parties : List Party
  /-- the messages a connection is about to put into channels -/
  courier : Source → List (Channel × PubsubMessage)
  /-- the unsubscription channel of a connection -/
  unsubscriptions : UnsubChannel → List Unsubscription
  /-- the error objects sent to clients for which nothing was subscribed to -/
  refusals : List RouterError

namespace Router

def new (connectionsPerUpstream : Nat) : Router where
  network := .new connectionsPerUpstream
  requests := []
  parties := []
  courier _ := []
  unsubscriptions _ := []
  refusals := []

inductive Action where
  /-- the routing table starts its updater -/
  | registry (table : RoutingTable) (requestId : RequestId) (subscriberId : SubscriberId)
  | accountSubscribe (context : HandlerContext) (pubkey : Pubkey)
      (params : Option RpcAccountInfoConfig)
  | signatureSubscribe (transactions : ForwardedTransactions) (subscriberId : SubscriberId)
      (requestId : RequestId) (signature : String) (params : Option RpcSignatureSubscribeConfig)
  | party (number : Nat) (event : PartyEvent)
  /-- a subscriber gets through with the first of its sends -/
  | send (number : Nat)
  | state (message : WsUpstreamState)
  /-- the dispatcher takes the oldest request of its channel -/
  | dispatch
  | completed (attempt : Nat) (established : List Bool)
  | terminate
  /-- a connection that has no message left to send goes through an iteration -/
  | iterate (source : Source) (event : Event)
  /-- a connection puts the first of its messages into its channel -/
  | deliver (source : Source)

/-- The channel of the next subscriber. -/
def fresh (s : Router) : Channel := ⟨s.parties.length⟩

/-- A subscriber starts by dispatching its subscriptions. -/
def join (s : Router) (target : SubscriptionTarget) (phase : Phase) (dispatched : List Subscription) :
    Router :=
  { s with parties := s.parties ++
      [{ target, phase, inbox := [], outbox := dispatched.map .dispatch, arrived := []
         forwarded := [], reported := [] }] }

def replace (s : Router) (number : Nat) (party : Party) : Router :=
  { s with parties := s.parties.set number party }

/-- A send succeeds. -/
def effect (s : Router) (number : Nat) (party : Party) : HandlerEffect → Router
  | .dispatch sub => { s.replace number party with requests := s.requests ++ [sub] }
  | .unsubscribe connection unsub =>
    { s.replace number party with
      unsubscriptions := Function.update s.unsubscriptions connection
        (s.unsubscriptions connection ++ [unsub]) }
  | .notify payload => s.replace number { party with forwarded := party.forwarded ++ [payload] }
  | .report error => s.replace number { party with reported := party.reported ++ [error] }

/-- The unsubscription an iteration takes is the oldest of the connection's channel. -/
def unsubscribed (s : Router) (channel : UnsubChannel) :
    Input → Option (UnsubChannel → List Unsubscription)
  | .unsubscription unsub _ =>
    match s.unsubscriptions channel with
    | [] => none
    | oldest :: rest =>
      if oldest = unsub then some (Function.update s.unsubscriptions channel rest) else none
  | .received _ | .request _ | .ping => some s.unsubscriptions

/-- The log of a connection; nothing where there is none. -/
def log (n : Network) (source : Source) : List Emission :=
  (((n.members source.pool)[source.member]?).map Session.log).getD []

def step (lib : UpdaterLibrary) (transactionLib : TransactionLibrary) (s : Router) :
    Action → Option Router
  | .registry table requestId subscriberId =>
    let (updater, output) := Updater.start lib table requestId subscriberId s.fresh
    some (s.join (.program lib.programId) (.registry updater) output.dispatched)
  | .accountSubscribe context pubkey params =>
    match (WebsocketServer.accountSubscribe context s.fresh pubkey params).1 with
    | .error _ => some s
    | .ok pending =>
      some (s.join (.account pubkey params) (.accountPending pending) pending.dispatched)
  | .signatureSubscribe transactions subscriberId requestId signature params =>
    match WebsocketServer.signatureSubscribe transactionLib transactions subscriberId requestId
        s.fresh signature params with
    | .error (.failed _) => some s
    | .error (.reported error) => some { s with refusals := s.refusals ++ [error] }
    | .ok pending =>
      some (s.join (.signature pending.signature params) (.signaturePending pending)
        [pending.dispatched])
  | .party number event =>
    (s.parties[number]?).bind fun party => (party.step lib event).map (s.replace number)
  | .send number =>
    (s.parties[number]?).bind fun party =>
      match party.outbox with
      | [] => none
      | effect :: rest => some (s.effect number { party with outbox := rest } effect)
  | .state message => (s.network.step (.state message)).map fun network => { s with network }
  | .dispatch =>
    match s.requests with
    | [] => none
    | oldest :: rest =>
      (s.network.step (.request oldest)).map fun network => { s with network, requests := rest }
  | .completed attempt established =>
    (s.network.step (.completed attempt established)).map fun network => { s with network }
  | .terminate => (s.network.step .terminate).map fun network => { s with network }
  | .iterate source event =>
    if (s.courier source).isEmpty then
      ((s.network.members source.pool)[source.member]?).bind fun session =>
        (s.unsubscribed ⟨session.connection.id⟩ event.input).bind fun unsubscriptions =>
          (s.network.step (.iterate source.pool source.member event)).map fun network =>
            { s with
              network
              unsubscriptions
              courier := Function.update s.courier source
                (sends ((log network source).drop session.log.length)) }
    else none
  | .deliver source =>
    match s.courier source with
    | [] => none
    | (tx, message) :: rest =>
      let s := { s with courier := Function.update s.courier source rest }
      match s.parties[tx.id]? with
      | none => some s
      | some party => some (s.replace tx.id (party.accept source message))

/-- The ids a step draws for a subscription of its own. A request that is refused has
drawn none. -/
def generated (transactionLib : TransactionLibrary) (s : Router) :
    Action → Option (SubscriberId × RequestId)
  | .registry _ requestId subscriberId => some (subscriberId, requestId)
  | .accountSubscribe context pubkey params =>
    match (WebsocketServer.accountSubscribe context s.fresh pubkey params).1 with
    | .error _ => none
    | .ok _ => some (context.subscriberId, context.requestId)
  | .signatureSubscribe transactions subscriberId requestId signature params =>
    match WebsocketServer.signatureSubscribe transactionLib transactions subscriberId requestId
        s.fresh signature params with
    | .error _ => none
    | .ok _ => some (subscriberId, requestId)
  | .party number event => (s.parties[number]?).bind (·.generated event)
  | .send _ | .state _ | .dispatch | .completed _ _ | .terminate | .iterate _ _ | .deliver _ => none

/-- The subscriber that subscribes with them. -/
def beneficiary (s : Router) : Action → Nat
  | .party number _ => number
  | _ => s.parties.length

/-- How a subscriber may start on a channel: the request id it uses, what it is there
for, and what it dispatches first. -/
inductive Begins (lib : UpdaterLibrary) (transactionLib : TransactionLibrary) (tx : Channel) :
    RequestId → SubscriptionTarget → Phase → List Subscription → Prop where
  | registry (table : RoutingTable) (requestId : RequestId) (subscriberId : SubscriberId) :
      Begins lib transactionLib tx requestId (.program lib.programId)
        (.registry (Updater.start lib table requestId subscriberId tx).1)
        (Updater.start lib table requestId subscriberId tx).2.dispatched
  | account (subscribed :
      (WebsocketServer.accountSubscribe context tx pubkey params).1 = .ok pending) :
      Begins lib transactionLib tx context.requestId (.account pubkey params)
        (.accountPending pending) pending.dispatched
  | signature (subscribed : WebsocketServer.signatureSubscribe transactionLib transactions
      subscriberId requestId tx text params = .ok pending) :
      Begins lib transactionLib tx requestId (.signature pending.signature params)
        (.signaturePending pending) [pending.dispatched]

/-- Every transition, with its guard and its full effect. -/
inductive Step (lib : UpdaterLibrary) (transactionLib : TransactionLibrary) (s : Router) :
    Action → Router → Prop where
  | join (generated : s.generated transactionLib action = some (subscriberId, requestId))
      (own : s.beneficiary action = s.parties.length)
      (begins : Begins lib transactionLib s.fresh requestId target phase dispatched) :
      Step lib transactionLib s action (s.join target phase dispatched)
  /-- a subscription that is refused at once; an error object may go to the client -/
  | refuse (refusals : List RouterError)
      (reported : ∀ error ∈ refusals, error ∈ s.refusals ∨
        ∃ transactions subscriberId requestId text params,
          action = .signatureSubscribe transactions subscriberId requestId text params ∧
          WebsocketServer.signatureSubscribe transactionLib transactions subscriberId requestId
            s.fresh text params = .error (.reported error)) :
      Step lib transactionLib s action { s with refusals }
  | party (found : s.parties[number]? = some party) (stepped : party.step lib event = some next) :
      Step lib transactionLib s (.party number event) (s.replace number next)
  | send (found : s.parties[number]? = some party) (waiting : party.outbox = first :: rest) :
      Step lib transactionLib s (.send number) (s.effect number { party with outbox := rest } first)
  /-- a state message, the end of an attempt or of the dispatcher -/
  | network (moved : s.network.step change = some after)
      (connects : ∀ pool member event, change ≠ .iterate pool member event)
      (requests : ∀ request, change ≠ .request request)
      (told : ∀ message, change = .state message → action = .state message) :
      Step lib transactionLib s action { s with network := after }
  | dispatch (queued : s.requests = oldest :: rest)
      (moved : s.network.step (.request oldest) = some after) :
      Step lib transactionLib s .dispatch { s with network := after, requests := rest }
  | iterate (idle : s.courier source = [])
      (found : (s.network.members source.pool)[source.member]? = some session)
      (unsubscribes : s.unsubscribed ⟨session.connection.id⟩ event.input = some unsubs)
      (moved : s.network.step (.iterate source.pool source.member event) = some after) :
      Step lib transactionLib s (.iterate source event) { s with
        network := after
        unsubscriptions := unsubs
        courier := Function.update s.courier source
          (sends ((log after source).drop session.log.length)) }
  | lose (carried : s.courier source = (tx, message) :: rest) (absent : s.parties[tx.id]? = none) :
      Step lib transactionLib s (.deliver source)
        { s with courier := Function.update s.courier source rest }
  | deliver (carried : s.courier source = (tx, message) :: rest)
      (found : s.parties[tx.id]? = some party) :
      Step lib transactionLib s (.deliver source)
        (replace { s with courier := Function.update s.courier source rest } tx.id
          (party.accept source message))

theorem step_iterate {lib : UpdaterLibrary} {transactionLib : TransactionLibrary} {s t : Router}
    {source : Source} {event : Event}
    (fired : step lib transactionLib s (.iterate source event) = some t) :
    ∃ session unsubs after, s.courier source = [] ∧
      (s.network.members source.pool)[source.member]? = some session ∧
      s.unsubscribed ⟨session.connection.id⟩ event.input = some unsubs ∧
      s.network.step (.iterate source.pool source.member event) = some after ∧
      t = { s with
        network := after
        unsubscriptions := unsubs
        courier := Function.update s.courier source
          (sends ((log after source).drop session.log.length)) } := by
  simp only [step] at fired
  split at fired
  · rename_i empty
    obtain ⟨session, found, fired⟩ := Option.bind_eq_some_iff.mp fired
    obtain ⟨unsubs, unsubscribes, fired⟩ := Option.bind_eq_some_iff.mp fired
    obtain ⟨after, moved, rfl⟩ := Option.map_eq_some_iff.mp fired
    exact ⟨session, unsubs, after, List.isEmpty_iff.mp empty, found, unsubscribes, moved, rfl⟩
  · cases fired

theorem step_sound {lib : UpdaterLibrary} {transactionLib : TransactionLibrary} {s t : Router}
    {action : Action} (fired : step lib transactionLib s action = some t) :
    Step lib transactionLib s action t := by
  cases action with
  | registry table requestId subscriberId =>
    cases fired
    exact .join rfl rfl (.registry table requestId subscriberId)
  | accountSubscribe context pubkey params =>
    simp only [step] at fired
    split at fired
    · cases fired
      exact .refuse s.refusals fun _ => .inl
    · rename_i subscribed
      cases fired
      have drawn : s.generated transactionLib (.accountSubscribe context pubkey params) =
          some (context.subscriberId, context.requestId) := by
        simp only [generated, subscribed]
      exact .join drawn rfl (.account subscribed)
  | signatureSubscribe transactions subscriberId requestId signature params =>
    simp only [step] at fired
    split at fired
    · cases fired
      exact .refuse s.refusals fun _ => .inl
    · rename_i error refused
      cases fired
      refine .refuse _ fun other member => ?_
      rcases List.mem_append.mp member with earlier | now
      · exact .inl earlier
      · rw [List.mem_singleton.mp now]
        exact .inr ⟨_, _, _, _, _, rfl, refused⟩
    · rename_i subscribed
      cases fired
      have drawn : s.generated transactionLib
          (.signatureSubscribe transactions subscriberId requestId signature params) =
            some (subscriberId, requestId) := by
        simp only [generated, subscribed]
      exact .join drawn rfl (.signature subscribed)
  | party number event =>
    obtain ⟨party, found, fired⟩ := Option.bind_eq_some_iff.mp fired
    obtain ⟨next, stepped, rfl⟩ := Option.map_eq_some_iff.mp fired
    exact .party found stepped
  | send number =>
    obtain ⟨party, found, fired⟩ := Option.bind_eq_some_iff.mp fired
    split at fired
    · cases fired
    · cases fired
      exact .send found ‹_›
  | state message =>
    obtain ⟨after, moved, rfl⟩ := Option.map_eq_some_iff.mp fired
    refine .network moved nofun nofun ?_
    rintro _ ⟨⟩
    rfl
  | dispatch =>
    simp only [step] at fired
    split at fired
    · cases fired
    · obtain ⟨after, moved, rfl⟩ := Option.map_eq_some_iff.mp fired
      exact .dispatch ‹_› moved
  | completed attempt established =>
    obtain ⟨after, moved, rfl⟩ := Option.map_eq_some_iff.mp fired
    exact .network moved nofun nofun nofun
  | terminate =>
    obtain ⟨after, moved, rfl⟩ := Option.map_eq_some_iff.mp fired
    exact .network moved nofun nofun nofun
  | iterate source event =>
    obtain ⟨_, _, _, idle, found, unsubscribes, moved, rfl⟩ := step_iterate fired
    exact .iterate idle found unsubscribes moved
  | deliver source =>
    simp only [step] at fired
    split at fired
    · cases fired
    · split at fired
      · cases fired
        exact .lose ‹_› ‹_›
      · cases fired
        exact .deliver ‹_› ‹_›

end Router

end MagicRouter
