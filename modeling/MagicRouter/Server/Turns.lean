import MagicRouter.Cache.Closest
import MagicRouter.Cache.Delegations
import MagicRouter.Server.Http
import MagicRouter.Server.Websocket

/-! Everything that asks `RoutingTable::base_chain` for an upstream, and what becomes of
the turn it is given: the upstream is asked, or the turn is lost. -/

namespace MagicRouter

open Library

/-- How an upstream is made use of: by a request, by a subscription, or by naming it to
a client. -/
inductive Contact where
  | rpc (client : RpcClient)
  | ws (url : Url)
  | named (fqdn : String)
  deriving DecidableEq

/-- The contact is one to this upstream. -/
def Contact.To (upstream : UpstreamRecord) : Contact → Prop
  | .rpc client => client = upstream.client
  | .ws url => url = upstream.wsUrl
  | .named fqdn => fqdn = upstream.client.url

def Errand.contact : Errand → Option Contact
  | .forward handle _ _ => some (.rpc handle.rpc)
  | .latestBlockhash client => some (.rpc client)
  | .transaction client _ => some (.rpc client)
  | .signatureStatuses client _ => some (.rpc client)
  | .blockhashValid client _ => some (.rpc client)
  | .multipleAccounts client _ => some (.rpc client)
  | .account client _ _ => some (.rpc client)
  | .evict _ => none

/-- `DelegationsCache::fetch` with the upstream it takes; `answer` says how each answers. -/
def Delegations.fetchOnChain (answer : RpcClient → Delegations.Rpc) (routes : RoutingTable)
    (pda : Pubkey) (minContextSlot : Option Nat) : Delegations.DelegationEntry × RoutingTable :=
  let (upstream, routes) := routes.baseChain
  (Delegations.fetch (answer upstream.client) pda minContextSlot, routes)

/-- One operation of the router, with what it is given and the answers it gets. -/
inductive Operation : Type 1 where
  | accountInfo {Config UiAccount : Type} (inhabited : Inhabited Config)
      (authority : Pubkey → Option Pubkey)
      (ask : RpcClient → Pubkey → Config → Except String (Response (Option UiAccount)))
      (pubkey : Pubkey) (params : Option Config)
  | balance {Commitment : Type} (inhabited : Inhabited Commitment)
      (authority : Pubkey → Option Pubkey)
      (ask : RpcClient → Pubkey → Commitment → Except String (Response UInt64))
      (pubkey : Pubkey) (params : Option (RpcContextConfig Commitment))
  | tokenAccountBalance {Commitment UiTokenAmount : Type} (inhabited : Inhabited Commitment)
      (authority : Pubkey → Option Pubkey)
      (ask : RpcClient → Pubkey → Commitment → Except String (Response UiTokenAmount))
      (pubkey : Pubkey) (params : Option (RpcContextConfig Commitment))
  | signaturesForAddress {Commitment Status : Type} (lib : TransactionLibrary)
      (authority : Pubkey → Option Pubkey)
      (ask : RpcClient → Pubkey → GetConfirmedSignaturesForAddress2Config Commitment →
        Except String (List Status))
      (pubkey : Pubkey) (config : Option (RpcSignaturesForAddressConfig Commitment))
  | fetch (answer : RpcClient → Delegations.Rpc) (pda : Pubkey) (minContextSlot : Option Nat)
  | sendTransaction (lib : TransactionLibrary) (authority : Pubkey → Option Pubkey)
      (respond : RemoteHandle → Except String String) (evicted : Option Signature)
      (txn : String) (params : Option RpcSendTransactionConfig)
  | multipleAccounts {Config UiAccount : Type} (inhabited : Inhabited Config)
      (authority : Pubkey → Option Pubkey)
      (ask : RpcClient → List Pubkey → Config →
        Except String (Response (List (Option UiAccount))))
      (iteration : List (Pubkey × List (Nat × Pubkey)) → List (Pubkey × List (Nat × Pubkey)))
      (completion : List HttpServer.AccountsRequest → List HttpServer.AccountsRequest)
      (pubkeys : List Pubkey) (params : Option Config)
  | blockhashForAccounts (authority : Pubkey → Option Pubkey)
      (latest : RpcClient → Except String (Hash × Nat)) (evicted : Option Hash)
      (accounts : List Pubkey)
  | identity (now : Nat) (order : List (Pubkey × UpstreamRecord))
  | latestBlockhash (now : Nat) (order : List (Pubkey × UpstreamRecord))
      (latest : RpcClient → Except String (Hash × UInt64)) (evicted : Option Hash)
  | accountSubscribe (context : HandlerContext) (pubsubTx : Channel) (pubkey : Pubkey)
      (params : Option RpcAccountInfoConfig)
  /-- a subscription handler receives a message -/
  | deliver (context : HandlerContext) (handler : AccountSubscriptionHandler)
      (message : PubsubMessage)
  /-- an iteration of the routing table's updater -/
  | update (lib : UpdaterLibrary) (subscription : Subscription) (pings : List Ping)
      (event : UpdaterEvent)

/-- What an operation does about the base chain: nothing, or it takes a turn and makes
use of the upstream, or it takes a turn and does not. -/
inductive Turn where
  | untouched
  | used
  | discarded
  deriving DecidableEq

namespace HttpServer

/-- A server after a method, with the contacts that the method has made. -/
def contacting (before after : HttpServer) : HttpServer × List Contact :=
  (after, (after.journal.drop before.journal.length).filterMap Errand.contact)

/-- The same server with other base-chain upstreams. -/
def withChain (server : HttpServer) (chain : BaseChainUpstreams) : HttpServer :=
  { server with routes := { server.routes with baseChainUpstreams := chain } }

@[simp] theorem contacting_self (server : HttpServer) :
    server.contacting server = (server, []) := by
  simp [contacting]

theorem clientFor_eq_handleFor (routes : RoutingTable) (delegation : Option Pubkey) :
    clientFor routes delegation =
      (handleFor routes delegation).map fun chosen => (chosen.1.rpc, chosen.2) := by
  cases delegation with
  | none => rfl
  | some identity =>
    cases found : routes.inner.lookup identity with
    | none =>
      simp [clientFor, handleFor, RoutingTable.ephemeralClient, RoutingTable.ephemeralHandle, found,
        Except.map]
    | some upstream =>
      simp [clientFor, handleFor, RoutingTable.ephemeralClient, RoutingTable.ephemeralHandle, found,
        Except.map]

end HttpServer

namespace Operation

/-- The server after the operation, and the contacts made, but for those of `probes`. The
table an operation sees is the server's, whatever the table of its context. -/
def perform (server : HttpServer) : Operation → HttpServer × List Contact
  | .accountInfo _ authority ask pubkey params =>
    server.contacting (HttpServer.accountInfo authority ask server pubkey params).2
  | .balance _ authority ask pubkey params =>
    server.contacting (HttpServer.balance authority ask server pubkey params).2
  | .tokenAccountBalance _ authority ask pubkey params =>
    server.contacting (HttpServer.tokenAccountBalance authority ask server pubkey params).2
  | .signaturesForAddress lib authority ask pubkey config =>
    server.contacting (HttpServer.signaturesForAddress lib authority ask server pubkey config).2
  | .fetch answer pda minContextSlot =>
    let (_, routes) := Delegations.fetchOnChain answer server.routes pda minContextSlot
    ({ server with routes }, [.rpc server.routes.baseChain.1.client])
  | .sendTransaction lib authority respond evicted txn params =>
    server.contacting
      (HttpServer.sendTransaction lib authority respond evicted server txn params).2
  | .multipleAccounts _ authority ask iteration completion pubkeys params =>
    server.contacting
      (HttpServer.multipleAccounts authority ask iteration completion server pubkeys params).2
  | .blockhashForAccounts authority latest evicted accounts =>
    server.contacting
      (HttpServer.blockhashForAccounts authority latest evicted server accounts).2
  | .identity now order =>
    let (result, server) := HttpServer.identity now order server
    match result with
    | .error _ => (server, [])
    | .ok answer => (server, [.named answer.fqdn])
  | .latestBlockhash now order latest evicted =>
    server.contacting (HttpServer.latestBlockhash now order latest evicted server).2
  | .accountSubscribe context pubsubTx pubkey params =>
    let (result, routes) := WebsocketServer.accountSubscribe
      { context with routes := server.routes } pubsubTx pubkey params
    match result with
    | .error _ => ({ server with routes }, [])
    | .ok pending =>
      ({ server with routes }, pending.dispatched.map fun sub => .ws sub.destination)
  | .deliver context handler message =>
    let outcome := handler.receive { context with routes := server.routes } message
    ({ server with routes := outcome.routes },
      (outcome.effects.filterMap HandlerEffect.dispatched).map fun sub => .ws sub.destination)
  | .update lib subscription pings event =>
    match Updater.handle lib { table := server.routes, subscription, pings } event with
    | none => (server, [])
    | some (updater, output) =>
      ({ server with routes := updater.table },
        output.dispatched.map fun sub => .ws sub.destination)

/-- The `get_identity` requests of the updater: those of the pings it launches, and the
one on the way to a new record. They take no turn. -/
def probes (server : HttpServer) : Operation → List Contact
  | .update lib subscription pings event =>
    let launched :=
      match Updater.handle lib { table := server.routes, subscription, pings } event with
      | none => []
      | some (updater, _) => updater.pings.drop pings.length
    let announced :=
      match event with
      | .message (.notification _ _ payload) _ => (Updater.probed lib payload).toList
      | _ => []
    (launched.map (·.client) ++ announced).map .rpc
  | _ => []

end Operation

namespace Turn

/-- The turn of a request routed by one delegation. -/
def routed : Option Pubkey → Turn
  | none => .used
  | some _ => .untouched

/-- The turn of `closest_node`: taken unless there is a static identity, and lost if a
fresh node is found. -/
def closest (routes : RoutingTable) (now : Nat) (order : List (Pubkey × UpstreamRecord)) : Turn :=
  match routes.staticErIdentity with
  | some _ => .untouched
  | none =>
    if order.any fun node => node.2.hasFreshProximity now routes.proximityStaleAfter &&
        decide (node.2.proximityMicros < unknownProximity) then .discarded
    else .used

end Turn

/-- What becomes of the turn, told from what the operation is given and the table before. -/
def Operation.turn (routes : RoutingTable) : Operation → Turn
  | .accountInfo _ authority _ pubkey _ => .routed (authority pubkey)
  | .balance _ authority _ pubkey _ => .routed (authority pubkey)
  | .tokenAccountBalance _ authority _ pubkey _ => .routed (authority pubkey)
  | .signaturesForAddress lib authority _ pubkey config =>
    match authority pubkey with
    | some _ => .untouched
    | none =>
      let config := config.getD .default
      if (HttpServer.optionalSignature lib config.before).isOk &&
          (HttpServer.optionalSignature lib config.until).isOk then .used
      else .discarded
  | .fetch .. => .used
  | .sendTransaction lib authority _ _ txn params =>
    match HttpServer.decodeTransaction lib txn (params.getD .default) with
    | .error _ => .untouched
    | .ok txn =>
      match HttpServer.delegationOf authority (lib.isMaybeWritable txn) 0
          txn.staticAccountKeys none with
      | .error _ => .untouched
      | .ok delegation => .routed delegation
  | .multipleAccounts _ authority _ iteration _ pubkeys _ =>
    let (delegated, undelegated) := HttpServer.sortKeys authority pubkeys
    let groups := delegated.entries.map fun group => (group.1, group.2)
    match (iteration groups).mapM (HttpServer.ephemeralRequest routes) with
    | .error _ => .untouched
    | .ok _ => if undelegated.isEmpty then .untouched else .used
  | .blockhashForAccounts authority _ _ accounts =>
    match HttpServer.delegatedTo authority accounts none with
    | .error _ => .untouched
    | .ok delegated => .routed delegated
  | .identity now order => .closest routes now order
  | .latestBlockhash now order _ _ => .closest routes now order
  | .accountSubscribe context _ _ _ =>
    match context.authority with
    | none => .used
    | some validator => if (routes.ephemeralHandle validator).isSome then .used else .discarded
  | .deliver context handler message =>
    match message with
    | .disconnected id =>
      if (handler.handles.lookup id).isSome then .routed context.authority else .untouched
    | _ => .untouched
  | .update _ _ _ event =>
    match event with
    | .message (.disconnected _) _ => .used
    | _ => .untouched

namespace RoutingTable

variable {now staleAfter : Nat} {order : List (Pubkey × UpstreamRecord)} {proximity : UInt64}

/-- The loop of `closest_node` forgets what it started from once a fresh node is nearer. -/
theorem foldl_closer_of_near (near : ∃ node ∈ order,
      node.2.hasFreshProximity now staleAfter = true ∧ node.2.proximityMicros < proximity)
    (first second : Pubkey × RpcClient) :
    order.foldl (closer now staleAfter) (first, proximity) =
      order.foldl (closer now staleAfter) (second, proximity) := by
  induction order with
  | nil => simp at near
  | cons node rest ih =>
    rw [List.foldl_cons, List.foldl_cons]
    rcases closer_cases now staleAfter (first, proximity) node with
      ⟨kept, far⟩ | ⟨fresh, nearer, taken⟩
    · have later : ∃ node ∈ rest,
          node.2.hasFreshProximity now staleAfter = true ∧ node.2.proximityMicros < proximity := by
        obtain ⟨other, member, fresh, nearer⟩ := near
        rcases List.mem_cons.mp member with rfl | later
        · exact absurd nearer (UInt64.not_lt.mpr (far fresh))
        · exact ⟨other, later, fresh, nearer⟩
      have kept' : closer now staleAfter (second, proximity) node = (second, proximity) := by
        rcases closer_cases now staleAfter (second, proximity) node with
          ⟨same, _⟩ | ⟨fresh, nearer, _⟩
        · exact same
        · exact absurd nearer (UInt64.not_lt.mpr (far fresh))
      rw [kept, kept']
      exact ih later
    · rcases closer_cases now staleAfter (second, proximity) node with ⟨_, far⟩ | ⟨_, _, taken'⟩
      · exact absurd nearer (UInt64.not_lt.mpr (far fresh))
      · rw [taken, taken']

theorem foldl_closer_of_not_near (far : ¬ ∃ node ∈ order,
      node.2.hasFreshProximity now staleAfter = true ∧ node.2.proximityMicros < proximity)
    (first : Pubkey × RpcClient) :
    order.foldl (closer now staleAfter) (first, proximity) = (first, proximity) := by
  induction order with
  | nil => rfl
  | cons node rest ih =>
    rw [List.foldl_cons]
    rcases closer_cases now staleAfter (first, proximity) node with ⟨kept, _⟩ | ⟨fresh, nearer, _⟩
    · rw [kept]
      apply ih
      intro near
      obtain ⟨other, member, fresh, nearer⟩ := near
      exact far ⟨other, List.mem_cons_of_mem _ member, fresh, nearer⟩
    · exact absurd ⟨node, List.mem_cons_self, fresh, nearer⟩ far

end RoutingTable

namespace Turn

/-- A turn is what has been said of it: the table's turn is passed on exactly if one is
taken, the upstream whose turn it was is contacted if it is used, and otherwise nobody
could tell from the contacts which upstreams there are. -/
inductive Describes (perform : HttpServer → HttpServer × List Contact) (server : HttpServer) :
    Turn → Prop where
  | untouched
      (kept : (perform server).1.routes.baseChainUpstreams = server.routes.baseChainUpstreams)
      (apart : ∀ chain, (perform (server.withChain chain)).2 = (perform server).2) :
      Describes perform server .untouched
  | used
      (passed : (perform server).1.routes.baseChainUpstreams =
        server.routes.baseChain.2.baseChainUpstreams)
      (contacted : ∃ contact ∈ (perform server).2, contact.To server.routes.baseChain.1) :
      Describes perform server .used
  | discarded
      (passed : (perform server).1.routes.baseChainUpstreams =
        server.routes.baseChain.2.baseChainUpstreams)
      (apart : ∀ chain, (perform (server.withChain chain)).2 = (perform server).2) :
      Describes perform server .discarded


variable {perform : HttpServer → HttpServer × List Contact} {server : HttpServer}

theorem Describes.untouched_of (contacts : List Contact)
    (kept : (perform server).1.routes.baseChainUpstreams = server.routes.baseChainUpstreams)
    (made : ∀ chain, (perform (server.withChain chain)).2 = contacts) :
    Describes perform server .untouched :=
  .untouched kept fun chain => (made chain).trans (made server.routes.baseChainUpstreams).symm

theorem Describes.discarded_of (contacts : List Contact)
    (passed : (perform server).1.routes.baseChainUpstreams =
      server.routes.baseChain.2.baseChainUpstreams)
    (made : ∀ chain, (perform (server.withChain chain)).2 = contacts) :
    Describes perform server .discarded :=
  .discarded passed fun chain => (made chain).trans (made server.routes.baseChainUpstreams).symm

/-- A refused request is refused whatever the base chain. -/
theorem Describes.of_refused
    (refused : ∀ chain, perform (server.withChain chain) = (server.withChain chain, [])) :
    Describes perform server .untouched := by
  have here : perform server = (server, []) := refused server.routes.baseChainUpstreams
  apply Describes.untouched_of []
  · rw [here]
  · intro chain
    rw [refused chain]

/-- A request that goes elsewhere goes there whatever the base chain. -/
theorem Describes.of_elsewhere (contacts : List Contact)
    (made : ∀ chain, (perform (server.withChain chain)).1.routes = (server.withChain chain).routes ∧
      (perform (server.withChain chain)).2 = contacts) :
    Describes perform server .untouched := by
  have here : (perform server).1.routes = server.routes := (made server.routes.baseChainUpstreams).1
  apply Describes.untouched_of contacts
  · rw [here]
  · intro chain
    exact (made chain).2

/-- A method that puts its request to the client of one delegation, if there is one. -/
theorem describes_routed (delegation : Option Pubkey)
    (refused : ∀ server error, HttpServer.clientFor server.routes delegation = .error error →
      perform server = (server, []))
    (made : ∀ server client routes,
      HttpServer.clientFor server.routes delegation = .ok (client, routes) →
        (perform server).1.routes = routes ∧ (perform server).2 = [.rpc client]) :
    (routed delegation).Describes perform server := by
  cases delegation with
  | none =>
    obtain ⟨routes, contacts⟩ :=
      made server server.routes.baseChain.1.client server.routes.baseChain.2 rfl
    refine .used ?_ ⟨.rpc server.routes.baseChain.1.client, ?_, rfl⟩
    · rw [routes]
    · rw [contacts]
      exact List.mem_singleton_self _
  | some identity =>
    cases found : server.routes.ephemeralClient identity with
    | none =>
      apply Describes.of_refused
      intro chain
      apply refused _ (.unknownErNode identity)
      simp only [HttpServer.clientFor]
      rw [show (server.withChain chain).routes.ephemeralClient identity = none from found]
    | some client =>
      apply Describes.of_elsewhere [.rpc client]
      intro chain
      apply made _ client
      simp only [HttpServer.clientFor]
      rw [show (server.withChain chain).routes.ephemeralClient identity = some client from found]

/-- A method that asks or names the closest node. -/
theorem describes_closest (now : Nat) (order : List (Pubkey × UpstreamRecord))
    (contact : RpcClient → Contact) (reaches : ∀ upstream, (contact upstream.client).To upstream)
    (failed : ∀ server error, server.routes.closestNode now order = .error error →
      perform server = (server, []))
    (made : ∀ server node routes, server.routes.closestNode now order = .ok (node, routes) →
      (perform server).1.routes = routes ∧ (perform server).2 = [contact node.2]) :
    (closest server.routes now order).Describes perform server := by
  cases fixed : server.routes.staticErIdentity with
  | some identity =>
    have untouched : closest server.routes now order = .untouched := by
      simp [closest, fixed]
    rw [untouched]
    cases found : server.routes.inner.lookup identity with
    | none =>
      apply Describes.of_refused
      intro chain
      apply failed _ (.unknownErNode identity)
      simp [RoutingTable.closestNode, HttpServer.withChain, fixed, found]
    | some record =>
      apply Describes.of_elsewhere [contact record.client]
      intro chain
      apply made _ (identity, record.client)
      simp [RoutingTable.closestNode, HttpServer.withChain, fixed, found]
  | none =>
    have answered (chain : BaseChainUpstreams) :
        (server.withChain chain).routes.closestNode now order =
          .ok ((order.foldl (RoutingTable.closer now server.routes.proximityStaleAfter)
            ((Pubkey.default, (server.withChain chain).routes.baseChain.1.client),
              unknownProximity)).1, (server.withChain chain).routes.baseChain.2) := by
      rw [RoutingTable.closestNode, show (server.withChain chain).routes.staticErIdentity = none
        from fixed]
      rfl
    have here := made server _ _ (answered server.routes.baseChainUpstreams)
    by_cases near : ∃ node ∈ order,
        node.2.hasFreshProximity now server.routes.proximityStaleAfter = true ∧
          node.2.proximityMicros < unknownProximity
    · have discarded : closest server.routes now order = .discarded := by
        simpa [closest, fixed] using near
      rw [discarded]
      apply Describes.discarded_of _
      · rw [here.1]
        rfl
      · intro chain
        rw [(made _ _ _ (answered chain)).2]
        -- whatever the loop starts from is replaced by a fresh node
        rw [RoutingTable.foldl_closer_of_near near _
          (Pubkey.default, server.routes.baseChain.1.client)]
    · have used : closest server.routes now order = .used := by
        simpa [closest, fixed] using near
      rw [used]
      refine .used ?_ ⟨contact server.routes.baseChain.1.client, ?_, reaches _⟩
      · rw [here.1]
        rfl
      · rw [here.2, RoutingTable.foldl_closer_of_not_near near]
        exact List.mem_singleton_self _

end Turn

namespace Operation

open HttpServer

variable {server : HttpServer}

/-- All three requests about one account. -/
theorem accountQuery_turn {Reply : Type} (method : AccountMethod)
    (authority : Pubkey → Option Pubkey) (ask : RpcClient → Except String Reply) (pubkey : Pubkey) :
    (Turn.routed (authority pubkey)).Describes (fun server =>
      server.contacting (accountQuery method authority ask server pubkey).2) server := by
  apply Turn.describes_routed
  · intro server error refused
    simp [accountQuery, resolveClient, refused]
  · intro server client routes made
    simp [contacting, accountQuery, resolveClient, made, Errand.contact]

section Signatures

variable {Commitment Status : Type} (lib : TransactionLibrary) (authority : Pubkey → Option Pubkey)
variable (ask : RpcClient → Pubkey → GetConfirmedSignaturesForAddress2Config Commitment →
  Except String (List Status))
variable (pubkey : Pubkey) (config : Option (RpcSignaturesForAddressConfig Commitment))

/-- A request whose signatures cannot be decoded is put to nobody. -/
theorem signaturesForAddress_malformed
    (malformed : ¬ ((optionalSignature lib (config.getD .default).before).isOk &&
      (optionalSignature lib (config.getD .default).until).isOk) = true) (server : HttpServer) :
    perform server (.signaturesForAddress lib authority ask pubkey config) =
      match clientFor server.routes (authority pubkey) with
      | .error _ => (server, [])
      | .ok (_, routes) => ({ server with routes }, []) := by
  cases chosen : clientFor server.routes (authority pubkey) with
  | error failure => simp [perform, HttpServer.signaturesForAddress, resolveClient, chosen]
  | ok client =>
    cases before : optionalSignature lib (config.getD .default).before with
    | error failure =>
      simp [perform, contacting, HttpServer.signaturesForAddress, resolveClient, chosen, before]
    | ok first =>
      cases after : optionalSignature lib (config.getD .default).until with
      | error failure =>
        simp [perform, contacting, HttpServer.signaturesForAddress, resolveClient, chosen, before,
          after]
      | ok last => simp [before, after, Except.isOk, Except.toBool] at malformed

theorem signaturesForAddress_turn :
    (turn server.routes (.signaturesForAddress lib authority ask pubkey config)).Describes
      (fun server => perform server (.signaturesForAddress lib authority ask pubkey config))
      server := by
  by_cases decoded : ((optionalSignature lib (config.getD .default).before).isOk &&
      (optionalSignature lib (config.getD .default).until).isOk) = true
  · have routed : turn server.routes (.signaturesForAddress lib authority ask pubkey config) =
        .routed (authority pubkey) := by
      cases delegated : authority pubkey with
      | none => simp only [turn, delegated, if_pos decoded, Turn.routed]
      | some identity => simp only [turn, delegated, Turn.routed]
    rw [routed]
    apply Turn.describes_routed
    · intro server error refused
      simp [perform, HttpServer.signaturesForAddress, resolveClient, refused]
    · intro server client routes made
      cases before : optionalSignature lib (config.getD .default).before with
      | error failure => simp [before, Except.isOk, Except.toBool] at decoded
      | ok first =>
        cases after : optionalSignature lib (config.getD .default).until with
        | error failure => simp [after, Except.isOk, Except.toBool] at decoded
        | ok last =>
          simp [perform, contacting, HttpServer.signaturesForAddress, resolveClient, made, before,
            after, Errand.contact]
  · have performed := signaturesForAddress_malformed lib authority ask pubkey config decoded
    have silent (chain : BaseChainUpstreams) : (perform (server.withChain chain)
        (.signaturesForAddress lib authority ask pubkey config)).2 = [] := by
      rw [performed]
      split <;> rfl
    cases delegated : authority pubkey with
    | none =>
      simp only [turn, delegated, if_neg decoded]
      apply Turn.Describes.discarded_of []
      · rw [performed, delegated]
        rfl
      · exact silent
    | some identity =>
      simp only [turn, delegated]
      apply Turn.Describes.untouched_of []
      · rw [performed, delegated]
        cases found : server.routes.ephemeralClient identity with
        | none => simp [clientFor, found]
        | some client => simp [clientFor, found]
      · exact silent

end Signatures

theorem blockhashForAccounts_turn (authority : Pubkey → Option Pubkey)
    (latest : RpcClient → Except String (Hash × Nat)) (evicted : Option Hash)
    (accounts : List Pubkey) :
    (turn server.routes (.blockhashForAccounts authority latest evicted accounts)).Describes
      (fun server => perform server (.blockhashForAccounts authority latest evicted accounts))
      server := by
  cases agreed : delegatedTo authority accounts none with
  | error conflict =>
    simp only [turn, agreed]
    apply Turn.Describes.of_refused
    intro chain
    simp [perform, HttpServer.blockhashForAccounts, agreed]
  | ok delegated =>
    simp only [turn, agreed]
    apply Turn.describes_routed
    · intro server error refused
      simp [perform, HttpServer.blockhashForAccounts, agreed, refused]
    · intro server client routes made
      cases answer : latest client with
      | error failure =>
        simp [perform, contacting, HttpServer.blockhashForAccounts, agreed, made, answer,
          Errand.contact]
      | ok reply =>
        simp [perform, contacting, HttpServer.blockhashForAccounts, agreed, made, answer,
          Errand.contact]

theorem sendTransaction_turn (lib : TransactionLibrary) (authority : Pubkey → Option Pubkey)
    (respond : RemoteHandle → Except String String) (evicted : Option Signature) (txn : String)
    (params : Option RpcSendTransactionConfig) :
    (turn server.routes (.sendTransaction lib authority respond evicted txn params)).Describes
      (fun server => perform server (.sendTransaction lib authority respond evicted txn params))
      server := by
  cases decoded : decodeTransaction lib txn (params.getD .default) with
  | error failure =>
    simp only [turn, decoded]
    apply Turn.Describes.of_refused
    intro chain
    simp [perform, HttpServer.sendTransaction, decoded]
  | ok message =>
    cases agreed : delegationOf authority (lib.isMaybeWritable message) 0
        message.staticAccountKeys none with
    | error conflict =>
      simp only [turn, decoded, agreed]
      apply Turn.Describes.of_refused
      intro chain
      simp [perform, HttpServer.sendTransaction, decoded, agreed]
    | ok delegation =>
      simp only [turn, decoded, agreed]
      apply Turn.describes_routed
      · intro server error refused
        rw [clientFor_eq_handleFor] at refused
        cases chosen : handleFor server.routes delegation with
        | error failure => simp [perform, HttpServer.sendTransaction, decoded, agreed, chosen]
        | ok handle => simp [chosen, Except.map] at refused
      · intro server client routes made
        rw [clientFor_eq_handleFor] at made
        cases chosen : handleFor server.routes delegation with
        | error failure => simp [chosen, Except.map] at made
        | ok handle =>
          simp only [chosen, Except.map, Except.ok.injEq, Prod.mk.injEq] at made
          obtain ⟨rfl, rfl⟩ := made
          cases answer : respond handle.1 with
          | error failure =>
            simp [perform, contacting, HttpServer.sendTransaction, decoded, agreed, chosen, answer,
              Errand.contact]
          | ok result =>
            simp [perform, contacting, HttpServer.sendTransaction, decoded, agreed, chosen, answer,
              track, Errand.contact]

theorem multipleAccounts_turn {Config UiAccount : Type} (inhabited : Inhabited Config)
    (authority : Pubkey → Option Pubkey)
    (ask : RpcClient → List Pubkey → Config → Except String (Response (List (Option UiAccount))))
    (iteration : List (Pubkey × List (Nat × Pubkey)) → List (Pubkey × List (Nat × Pubkey)))
    (completion : List AccountsRequest → List AccountsRequest) (pubkeys : List Pubkey)
    (params : Option Config) :
    (turn server.routes (.multipleAccounts inhabited authority ask iteration completion pubkeys
      params)).Describes (fun server => perform server (.multipleAccounts inhabited authority ask
        iteration completion pubkeys params)) server := by
  generalize walked : iteration ((sortKeys authority pubkeys).1.entries.map
    fun group => (group.1, group.2)) = groups
  cases built : groups.mapM (ephemeralRequest server.routes) with
  | error failure =>
    -- the nodes are the same with any base chain
    have built' (chain : BaseChainUpstreams) :
        groups.mapM (ephemeralRequest (server.withChain chain).routes) = .error failure := built
    simp only [turn, walked, built]
    apply Turn.Describes.of_refused
    intro chain
    simp [perform, HttpServer.multipleAccounts, walked, built']
  | ok requests =>
    have built' (chain : BaseChainUpstreams) :
        groups.mapM (ephemeralRequest (server.withChain chain).routes) = .ok requests := built
    by_cases none : (sortKeys authority pubkeys).2.isEmpty = true
    · simp only [turn, walked, built, if_pos none]
      apply Turn.Describes.untouched_of (requests.map fun request => .rpc request.client)
      · simp [perform, contacting, HttpServer.multipleAccounts, walked, built, none]
      · intro chain
        simp only [perform, contacting, HttpServer.multipleAccounts, walked, built', if_pos none,
          List.drop_left, List.filterMap_map]
        exact congrFun List.filterMap_eq_map requests
    · simp only [turn, walked, built, if_neg none]
      refine .used ?_ ⟨.rpc server.routes.baseChain.1.client, ?_, rfl⟩
      · simp [perform, contacting, HttpServer.multipleAccounts, walked, built, none]
      · simp [perform, contacting, HttpServer.multipleAccounts, walked, built, none, Errand.contact]

theorem identity_turn (now : Nat) (order : List (Pubkey × UpstreamRecord)) :
    (turn server.routes (.identity now order)).Describes
      (fun server => perform server (.identity now order)) server := by
  apply Turn.describes_closest now order fun client => .named client.url
  · intro upstream
    rfl
  · intro server error failed
    simp [perform, HttpServer.identity, failed]
  · intro server node routes made
    simp [perform, HttpServer.identity, made]

theorem latestBlockhash_turn (now : Nat) (order : List (Pubkey × UpstreamRecord))
    (latest : RpcClient → Except String (Hash × UInt64)) (evicted : Option Hash) :
    (turn server.routes (.latestBlockhash now order latest evicted)).Describes
      (fun server => perform server (.latestBlockhash now order latest evicted)) server := by
  apply Turn.describes_closest now order Contact.rpc
  · intro upstream
    rfl
  · intro server error failed
    simp [perform, HttpServer.latestBlockhash, failed]
  · intro server node routes made
    cases answer : latest node.2 with
    | error failure =>
      simp [perform, contacting, HttpServer.latestBlockhash, made, answer, Errand.contact]
    | ok reply =>
      simp [perform, contacting, HttpServer.latestBlockhash, made, answer, Errand.contact]

theorem accountSubscribe_turn (context : HandlerContext) (pubsubTx : Channel) (pubkey : Pubkey)
    (params : Option RpcAccountInfoConfig) :
    (turn server.routes (.accountSubscribe context pubsubTx pubkey params)).Describes
      (fun server => perform server (.accountSubscribe context pubsubTx pubkey params)) server := by
  cases delegated : context.authority with
  | none =>
    simp only [turn, delegated]
    refine .used ?_ ⟨.ws server.routes.baseChain.1.wsUrl, ?_, rfl⟩
    · simp [perform, WebsocketServer.accountSubscribe, delegated]
    · simp [perform, WebsocketServer.accountSubscribe, delegated]
  | some validator =>
    have kept (routes : RoutingTable) :
        routes.baseChain.2.ephemeralHandle validator = routes.ephemeralHandle validator := rfl
    cases found : server.routes.ephemeralHandle validator with
    | none =>
      have found' (chain : BaseChainUpstreams) :
          (server.withChain chain).routes.ephemeralHandle validator = none := found
      simp only [turn, delegated, found]
      apply Turn.Describes.discarded_of []
      · simp [perform, WebsocketServer.accountSubscribe, delegated, kept, found]
      · intro chain
        simp [perform, WebsocketServer.accountSubscribe, delegated, kept, found']
    | some node =>
      simp only [turn, delegated, found]
      refine .used ?_ ⟨.ws server.routes.baseChain.1.wsUrl, ?_, rfl⟩
      · simp [perform, WebsocketServer.accountSubscribe, delegated, kept, found]
      · simp [perform, WebsocketServer.accountSubscribe, delegated, kept, found]

theorem deliver_turn (context : HandlerContext) (handler : AccountSubscriptionHandler)
    (message : PubsubMessage) :
    (turn server.routes (.deliver context handler message)).Describes
      (fun server => perform server (.deliver context handler message)) server := by
  cases message with
  | subscribed handle => exact .untouched rfl fun _ => rfl
  | notification id upstream payload =>
    refine .untouched ?_ ?_
    · simp only [perform, AccountSubscriptionHandler.receive]
      split
      · rfl
      · split <;> rfl
    · -- a change of delegation is followed up at a node, if at all
      intro chain
      have followed : handler.handleDelegationStatusChange
          { context with routes := (server.withChain chain).routes } payload id upstream =
          handler.handleDelegationStatusChange
            { context with routes := server.routes } payload id upstream := rfl
      simp only [perform, AccountSubscriptionHandler.receive, followed]
      split
      · rfl
      · split <;> rfl
  | disconnected id =>
    cases lost : handler.handles.lookup id with
    | none =>
      simp only [turn, lost]
      apply Turn.Describes.of_refused
      intro chain
      simp [perform, AccountSubscriptionHandler.receive, lost]
    | some handle =>
      simp only [turn, lost]
      cases delegated : context.authority with
      | none =>
        refine .used ?_ ⟨.ws server.routes.baseChain.1.wsUrl, ?_, rfl⟩
        · simp [perform, AccountSubscriptionHandler.receive, lost,
            AccountSubscriptionHandler.redestination, delegated]
        · simp [perform, AccountSubscriptionHandler.receive, lost,
            AccountSubscriptionHandler.redestination, delegated, HandlerEffect.dispatched,
            AccountSubscriptionHandler.resubscription]
      | some validator =>
        refine .untouched ?_ ?_
        · simp [perform, AccountSubscriptionHandler.receive, lost,
            AccountSubscriptionHandler.redestination, delegated]
        · intro chain
          have found : (server.withChain chain).routes.ephemeralHandle validator =
              server.routes.ephemeralHandle validator := rfl
          simp only [perform, AccountSubscriptionHandler.receive, lost,
            AccountSubscriptionHandler.redestination, delegated, found]

theorem update_turn (lib : UpdaterLibrary) (subscription : Subscription) (pings : List Ping)
    (event : UpdaterEvent) :
    (turn server.routes (.update lib subscription pings event)).Describes
      (fun server => perform server (.update lib subscription pings event)) server := by
  cases event with
  | message msg probe =>
    cases msg with
    | subscribed handle => exact .untouched rfl fun _ => rfl
    | disconnected id =>
      exact .used rfl ⟨.ws server.routes.baseChain.1.wsUrl, List.mem_singleton_self _, rfl⟩
    | notification id upstream payload =>
      apply Turn.Describes.untouched_of []
      · simp only [perform, Updater.handle, Updater.receive]
        split
        · rfl
        · exact (RoutingTable.insertEntry_chain ..).1
      · intro chain
        simp only [perform, Updater.handle, Updater.receive]
        split <;> rfl
  | ping index result =>
    apply Turn.Describes.untouched_of []
    · simp only [perform, Updater.handle]
      cases pings[index]? with
      | none => rfl
      | some ping =>
        simp only [Updater.settle]
        split <;> rfl
    · intro chain
      simp only [perform, Updater.handle]
      cases pings[index]? with
      | none => rfl
      | some ping => rfl
  | tick =>
    apply Turn.Describes.untouched_of []
    · simp only [perform, Updater.handle]
      by_cases fixed : server.routes.staticErIdentity.isSome = true
      · simp [fixed]
      · simp [fixed]
    · intro chain
      simp only [perform, Updater.handle]
      by_cases fixed : (server.withChain chain).routes.staticErIdentity.isSome = true
      · simp [fixed, UpdaterOutput.silent]
      · simp [fixed, UpdaterOutput.silent]

/-- What is said of the turns is true of every operation. -/
theorem turn_describes (server : HttpServer) (operation : Operation) :
    (operation.turn server.routes).Describes (fun server => operation.perform server) server := by
  cases operation with
  | accountInfo _ authority ask pubkey params =>
    exact accountQuery_turn .accountInfo authority _ pubkey
  | balance _ authority ask pubkey params => exact accountQuery_turn .balance authority _ pubkey
  | tokenAccountBalance _ authority ask pubkey params =>
    exact accountQuery_turn .tokenAccountBalance authority _ pubkey
  | signaturesForAddress lib authority ask pubkey config =>
    exact signaturesForAddress_turn lib authority ask pubkey config
  | fetch answer pda minContextSlot =>
    exact .used rfl ⟨.rpc server.routes.baseChain.1.client, List.mem_singleton_self _, rfl⟩
  | sendTransaction lib authority respond evicted txn params =>
    exact sendTransaction_turn lib authority respond evicted txn params
  | multipleAccounts inhabited authority ask iteration completion pubkeys params =>
    exact multipleAccounts_turn inhabited authority ask iteration completion pubkeys params
  | blockhashForAccounts authority latest evicted accounts =>
    exact blockhashForAccounts_turn authority latest evicted accounts
  | identity now order => exact identity_turn now order
  | latestBlockhash now order latest evicted => exact latestBlockhash_turn now order latest evicted
  | accountSubscribe context pubsubTx pubkey params =>
    exact accountSubscribe_turn context pubsubTx pubkey params
  | deliver context handler message => exact deliver_turn context handler message
  | update lib subscription pings event => exact update_turn lib subscription pings event

end Operation

end MagicRouter
