import MagicRouter.Cache.Proximity
import MagicRouter.Server.Accounts
import MagicRouter.Server.Routing
import MagicRouter.Server.Signatures
import MagicRouter.Server.Turns

/-! Which upstreams the router gets in touch with. Every contact goes to the base chain,
to the node that an account of the request is delegated to, to the closest node if the
request is for it, or to where the transaction or the blockhash of the request is
remembered from, or it is one of the updater's `get_identity` requests; and over a whole
run to nobody but upstreams that were there at the start or were announced by the
registry. -/

namespace MagicRouter

open Library

/-- The contact is one over this handle. -/
def Contact.Over (handle : RemoteHandle) : Contact → Prop
  | .rpc client => client = handle.rpc
  | .ws url => url = handle.ws
  | .named fqdn => fqdn = handle.rpc.url

/-- The upstreams of a table. -/
def RoutingTable.upstreams (table : RoutingTable) : List UpstreamRecord :=
  table.baseChainUpstreams.upstreams ++ table.inner.entries.map (·.2)

/-- Everything the router is asked for: an operation, or a request about what was
forwarded or handed out before. -/
inductive Task : Type 1 where
  | operation (operation : Operation)
  | transaction {Config Reply : Type} (inhabited : Inhabited Config) (lib : TransactionLibrary)
      (ask : RpcClient → Signature → Config → Except String Reply) (signature : String)
      (params : Option Config)
  | signatureStatuses {Status : Type} (lib : TransactionLibrary)
      (ask : RpcClient → List Signature → Except String (Response (List (Option Status))))
      (signatures : List String)
  | isBlockhashValid {Config : Type} (inhabited : Inhabited Config)
      (parse : String → Except String Hash) (ask : RpcClient → Hash → Config → Except String Bool)
      (hash : String) (params : Option Config)
  | signatureSubscribe (lib : TransactionLibrary) (subscriberId : SubscriberId)
      (requestId : RequestId) (pubsubTx : Channel) (signature : String)
      (params : Option RpcSignatureSubscribeConfig)
  | delegationStatus (pubkey : Pubkey) (record : Option ParsedDelegationRecord)

namespace Task

/-- The server after the task, and the contacts made. -/
def perform (server : HttpServer) : Task → HttpServer × List Contact
  | .operation asked =>
    let (after, contacts) := asked.perform server
    (after, contacts ++ asked.probes server)
  | .transaction _ lib ask signature params =>
    server.contacting (HttpServer.transaction lib ask server signature params).2
  | .signatureStatuses lib ask signatures =>
    server.contacting (HttpServer.signatureStatuses lib ask server signatures).2
  | .isBlockhashValid _ parse ask hash params =>
    server.contacting (HttpServer.isBlockhashValid parse ask server hash params).2
  | .signatureSubscribe lib subscriberId requestId pubsubTx signature params =>
    match WebsocketServer.signatureSubscribe lib server.transactions subscriberId requestId pubsubTx
        signature params with
    | .error _ => (server, [])
    | .ok pending => (server, [.ws pending.dispatched.destination])
  | .delegationStatus _ record =>
    match server.delegationStatus record with
    | .error _ => (server, [])
    | .ok status => (server, status.fqdn.toList.map .named)

/-- The accounts that a task is about, each with its authority. -/
def concerns : Task → List (Pubkey × Option Pubkey)
  | .operation (.accountInfo _ authority _ pubkey _) => [(pubkey, authority pubkey)]
  | .operation (.balance _ authority _ pubkey _) => [(pubkey, authority pubkey)]
  | .operation (.tokenAccountBalance _ authority _ pubkey _) => [(pubkey, authority pubkey)]
  | .operation (.signaturesForAddress _ authority _ pubkey _) => [(pubkey, authority pubkey)]
  | .operation (.sendTransaction lib authority _ _ txn params) =>
    match HttpServer.decodeTransaction lib txn (params.getD .default) with
    | .error _ => []
    | .ok txn =>
      (txn.staticAccountKeys.zipIdx.filter fun key => lib.isMaybeWritable txn key.2).map fun key =>
        (key.1, authority key.1)
  | .operation (.multipleAccounts _ authority _ _ _ pubkeys _) =>
    pubkeys.map fun pubkey => (pubkey, authority pubkey)
  | .operation (.blockhashForAccounts authority _ _ accounts) =>
    accounts.map fun pubkey => (pubkey, authority pubkey)
  | .operation (.accountSubscribe context _ pubkey _) => [(pubkey, context.authority)]
  | .operation (.deliver context handler _) => [(handler.pubkey, context.authority)]
  | .delegationStatus pubkey record => [(pubkey, record.map (·.authority))]
  | _ => []

/-- What becomes of the turn of the base chain. -/
def turn (routes : RoutingTable) : Task → Turn
  | .operation asked => asked.turn routes
  | _ => .untouched

/-- When a task looks for the closest node, if it does. -/
def closestAt : Task → Option Nat
  | .operation (.identity now _) => some now
  | .operation (.latestBlockhash now _ _ _) => some now
  | _ => none

/-- The transaction that a task asks about; of several, the first. -/
def signature : Task → Option Signature
  | .transaction _ lib _ text _ => (lib.parseSignature text).toOption
  | .signatureStatuses lib _ texts =>
    texts.head?.bind fun text => (lib.parseSignature text).toOption
  | .signatureSubscribe lib _ _ _ text _ => (lib.parseSignature text).toOption
  | _ => none

/-- The blockhash that a task asks about. -/
def hash : Task → Option Hash
  | .isBlockhashValid _ parse _ text _ => (parse text).toOption
  | _ => none

/-- The orders a task is given are orders of what is there. -/
def Fits (server : HttpServer) : Task → Prop
  | .operation (.identity _ order) | .operation (.latestBlockhash _ order _ _) =>
    order.Perm (server.routes.inner.entries.map fun entry => (entry.1, entry.2))
  | .operation (.multipleAccounts _ _ _ iteration _ _ _) =>
    ∀ groups, (iteration groups).Perm groups
  | _ => True

/-- The node a registry record of the task would put into the table. -/
inductive Registers : Task → RemoteHandle → Prop where
  | intro {lib : UpdaterLibrary} (notified : Updater.notified lib payload = some (pubkey, account))
      (decoded : lib.deserialize account.data = some record)
      (reached : UpstreamRecord.newFromErRecord lib.toUrlLibrary probe record = some upstream) :
      Registers (.operation (.update lib subscription pings
        (.message (.notification request kind payload) probe))) upstream.handle

/-- A registry record of the task is of a node with this client, whatever the table
makes of the record. -/
inductive Nominates : Task → RpcClient → Prop where
  | intro {lib : UpdaterLibrary} (notified : Updater.notified lib payload = some (pubkey, account))
      (decoded : lib.deserialize account.data = some record)
      (parsed : lib.parse record.addr = some fqdn) :
      Nominates (.operation (.update lib subscription pings
        (.message (.notification request kind payload) probe))) { url := fqdn.asStr, target := .er }

/-- The task is an iteration of the updater that pings. -/
inductive Ticks : Task → Prop where
  | intro : Ticks (.operation (.update lib subscription pings .tick))

end Task

/-- Why a contact is made. -/
inductive Justified (server : HttpServer) (task : Task) : Contact → Prop where
  /-- it is the turn of this base-chain upstream, and the task takes it -/
  | chain (turn : task.turn server.routes = .used)
      (through : contact.Over server.routes.baseChain.1.handle) : Justified server task contact
  /-- an account of the task is delegated to this node -/
  | delegated (concerned : (account, some identity) ∈ task.concerns)
      (found : server.routes.inner.lookup identity = some upstream)
      (through : contact.Over upstream.handle) : Justified server task contact
  /-- the task is for the closest node, and that is the configured one -/
  | configured (asked : task.closestAt = some now)
      (static : server.routes.staticErIdentity = some identity)
      (found : server.routes.inner.lookup identity = some upstream)
      (through : contact.Over upstream.handle) : Justified server task contact
  /-- the task is for the closest node, and no fresh one is closer than this -/
  | closest (asked : task.closestAt = some now) (dynamic : server.routes.staticErIdentity = none)
      (fresh : server.routes.Fresh now identity upstream)
      (least : ∀ identity other, server.routes.Fresh now identity other →
        upstream.proximityMicros ≤ other.proximityMicros)
      (through : contact.Over upstream.handle) : Justified server task contact
  /-- the transaction of the task was forwarded there -/
  | forwarded (asked : task.signature = some signature)
      (tracked : server.transactions.get signature = some handle)
      (through : contact.Over handle) : Justified server task contact
  /-- the blockhash of the task was handed out from there -/
  | remembered {hash : Hash} {client : RpcClient} (asked : task.hash = some hash)
      (known : server.blockhashes.lookup hash = some client) : Justified server task (.rpc client)
  /-- a node of the table is pinged, unless one is configured -/
  | pinged (ticks : task.Ticks) (dynamic : server.routes.staticErIdentity = none)
      (found : server.routes.inner.lookup identity = some upstream) :
      Justified server task (.rpc upstream.client)
  /-- a registry record of the task is of this node -/
  | nominated (nominates : task.Nominates client) : Justified server task (.rpc client)

/-- What a task may do: its contacts are justified, and what it leaves to be remembered
or routed to was there before, or is the node of a registry record. -/
structure Behaves (server : HttpServer) (task : Task) (result : HttpServer × List Contact) :
    Prop where
  contacts : ∀ contact ∈ result.2, Justified server task contact
  tracked : ∀ signature handle, result.1.transactions.get signature = some handle →
    server.transactions.get signature = some handle ∨
      ∃ upstream ∈ server.routes.upstreams, handle = upstream.handle
  remembered : ∀ hash client, result.1.blockhashes.lookup hash = some client →
    server.blockhashes.lookup hash = some client ∨
      ∃ upstream ∈ server.routes.upstreams, client = upstream.client
  nodes : ∀ upstream ∈ result.1.routes.upstreams,
    (∃ before ∈ server.routes.upstreams, upstream.handle = before.handle) ∨
      task.Registers upstream.handle

namespace RoutingTable

variable {table : RoutingTable}

theorem baseChain_mem (table : RoutingTable) : table.baseChain.1 ∈ table.upstreams :=
  List.mem_append_left _ (List.getElem_mem _)

theorem baseChain_upstreams (table : RoutingTable) :
    table.baseChain.2.upstreams = table.upstreams := rfl

theorem node_mem {identity : Pubkey} {upstream : UpstreamRecord}
    (found : table.inner.lookup identity = some upstream) : upstream ∈ table.upstreams :=
  List.mem_append_right _ (List.mem_map_of_mem (Store.mem_entries_iff.mpr found))

/-- The upstreams of a table are its base chain's and its nodes. -/
theorem mem_upstreams {upstream : UpstreamRecord} : upstream ∈ table.upstreams ↔
    upstream ∈ table.baseChainUpstreams.upstreams ∨
      ∃ identity, table.inner.lookup identity = some upstream := by
  rw [upstreams, List.mem_append, List.mem_map]
  refine or_congr Iff.rfl ⟨?_, ?_⟩
  · rintro ⟨entry, listed, rfl⟩
    exact ⟨entry.1, Store.mem_entries_iff.mp listed⟩
  · rintro ⟨identity, found⟩
    exact ⟨⟨identity, upstream⟩, Store.mem_entries_iff.mpr found, rfl⟩

/-- A table with the same base chain and nodes that were there before or satisfy the
condition. -/
theorem upstreams_of_nodes (table : RoutingTable) {after : RoutingTable} {New : RemoteHandle → Prop}
    (chain : after.baseChainUpstreams = table.baseChainUpstreams)
    (nodes : ∀ identity upstream, after.inner.lookup identity = some upstream →
      (∃ before, table.inner.lookup identity = some before ∧ upstream.handle = before.handle) ∨
        New upstream.handle) {upstream : UpstreamRecord} (member : upstream ∈ after.upstreams) :
    (∃ before ∈ table.upstreams, upstream.handle = before.handle) ∨ New upstream.handle := by
  rcases mem_upstreams.mp member with base | ⟨identity, found⟩
  · exact .inl ⟨upstream, mem_upstreams.mpr (.inl (chain ▸ base)), rfl⟩
  · rcases nodes identity upstream found with ⟨before, held, same⟩ | new
    · exact .inl ⟨before, node_mem held, same⟩
    · exact .inr new

/-- Proximity is no part of how a node is reached. -/
theorem carryProximity_handle (table : RoutingTable) (identity : Pubkey)
    (upstream : UpstreamRecord) :
    (table.carryProximity identity upstream).handle = upstream.handle := by
  unfold carryProximity
  split
  · rfl
  · split
    · rfl
    · rfl

theorem removeEntry_nodes (pda : Pubkey) {identity : Pubkey} {upstream : UpstreamRecord}
    (found : (table.removeEntry pda).1.inner.lookup identity = some upstream) :
    table.inner.lookup identity = some upstream := by
  unfold removeEntry at found
  split at found
  · exact found
  · simp only at found
    split at found
    · exact found
    · simp only [Store.lookup_erase_if] at found
      split at found
      · cases found
      · exact found

/-- A registry notification adds at most the node its record names. -/
theorem insertEntry_nodes {lib : RegistryLibrary} {pubkey : Pubkey} {account : Account}
    {probe : Bool} {identity : Pubkey} {upstream : UpstreamRecord}
    (found : (table.insertEntry lib pubkey account probe).1.inner.lookup identity = some upstream) :
    (∃ before, table.inner.lookup identity = some before ∧ upstream.handle = before.handle) ∨
      ∃ record new, lib.deserialize account.data = some record ∧
        UpstreamRecord.newFromErRecord lib.toUrlLibrary probe record = some new ∧
        upstream.handle = new.handle := by
  unfold insertEntry at found
  split at found
  · split at found
    · exact .inl ⟨upstream, removeEntry_nodes pubkey found, rfl⟩
    · exact .inl ⟨upstream, found, rfl⟩
  · rename_i record decoded
    split at found
    · exact .inl ⟨upstream, found, rfl⟩
    · rename_i new built
      rcases Store.held_of_insertNew found with held | ⟨_, rfl⟩
      · exact .inl ⟨upstream, held, rfl⟩
      · exact .inr ⟨record, new, decoded, built, carryProximity_handle ..⟩

/-- What `closest_node` answers: the configured node, the base chain if no node is fresh,
or a fresh node that no fresh one is closer than. -/
inductive ClosestAnswer (table : RoutingTable) (now : Nat) (order : List (Pubkey × UpstreamRecord)) :
    Except RouterError ((Pubkey × RpcClient) × RoutingTable) → Prop where
  | unknown (static : table.staticErIdentity = some identity)
      (absent : table.inner.lookup identity = none) :
      ClosestAnswer table now order (.error (.unknownErNode identity))
  | configured (static : table.staticErIdentity = some identity)
      (found : table.inner.lookup identity = some upstream) :
      ClosestAnswer table now order (.ok ((identity, upstream.client), table))
  | chain (dynamic : table.staticErIdentity = none)
      (turn : Turn.closest table now order = .used) : ClosestAnswer table now order
        (.ok ((Pubkey.default, table.baseChain.1.client), table.baseChain.2))
  | fresh (dynamic : table.staticErIdentity = none) (fresh : table.Fresh now identity upstream)
      (least : ∀ identity other, table.Fresh now identity other →
        upstream.proximityMicros ≤ other.proximityMicros) :
      ClosestAnswer table now order (.ok ((identity, upstream.client), table.baseChain.2))

theorem closestNode_answer (now : Nat) {order : List (Pubkey × UpstreamRecord)}
    (walked : order.Perm (table.inner.entries.map fun entry => (entry.1, entry.2))) :
    table.ClosestAnswer now order (table.closestNode now order) := by
  cases static : table.staticErIdentity with
  | some identity =>
    cases found : table.inner.lookup identity with
    | none =>
      simp only [closestNode, static, found]
      exact .unknown static found
    | some upstream =>
      simp only [closestNode, static, found]
      exact .configured static found
  | none =>
    obtain ⟨chosen, _, least⟩ := foldl_closer now table.proximityStaleAfter order
      ((Pubkey.default, table.baseChain.1.client), unknownProximity)
    have answered : table.closestNode now order =
        .ok ((order.foldl (closer now table.proximityStaleAfter)
          ((Pubkey.default, table.baseChain.1.client), unknownProximity)).1, table.baseChain.2) := by
      rw [closestNode, static]
      rfl
    rw [answered]
    rcases chosen with same | ⟨node, member, fresh, same⟩
    · rw [same] at least ⊢
      -- no fresh node is nearer than the unknown proximity the loop starts from
      have far : ¬ (order.any fun node => node.2.hasFreshProximity now table.proximityStaleAfter &&
          decide (node.2.proximityMicros < unknownProximity)) = true := by
        intro near
        obtain ⟨node, member, both⟩ := List.any_eq_true.mp near
        obtain ⟨fresh, nearer⟩ := Bool.and_eq_true_iff.mp both
        exact absurd (of_decide_eq_true nearer) (UInt64.not_lt.mpr (least node member fresh))
      refine .chain static ?_
      rw [Turn.closest, static]
      exact if_neg far
    · rw [same] at least ⊢
      refine .fresh static ⟨(mem_order_iff walked).mp member, fresh⟩ ?_
      intro identity other isFresh
      exact least (identity, other) ((mem_order_iff walked).mpr isFresh.1) isFresh.2

end RoutingTable

/-- A ping tells nothing about how its node is reached. -/
theorem UpstreamRecord.settle_handle (record : UpstreamRecord) (result : PingResult) :
    (record.settle result).handle = record.handle := by
  cases result with
  | ok duration now => rfl
  | err => rfl

namespace Updater

variable {lib : UpdaterLibrary} {u after : Updater} {output : UpdaterOutput}

theorem receive_pings (lib : UpdaterLibrary) (u : Updater) (msg : PubsubMessage) (probe : Bool) :
    (u.receive lib msg probe).1.pings = u.pings := by
  cases msg with
  | subscribed _ | disconnected _ => rfl
  | notification id upstream payload =>
    simp only [receive]
    split
    · rfl
    · rfl

theorem settle_pings (u : Updater) (pubkey : Pubkey) (result : PingResult) :
    (u.settle pubkey result).pings = u.pings := by
  unfold settle
  split
  · rfl
  · rfl

/-- Pings are launched at a tick, one to each node, unless a node is configured. -/
theorem launched {event : UpdaterEvent} (handled : handle lib u event = some (after, output))
    {ping : Ping} (added : ping ∈ after.pings.drop u.pings.length) :
    event = .tick ∧ u.table.staticErIdentity = none ∧ ping ∈ u.launch := by
  cases event with
  | message msg probe =>
    have same : (u.receive lib msg probe).1 = after := congrArg Prod.fst (Option.some.inj handled)
    rw [← same, receive_pings, List.drop_length] at added
    cases added
  | ping index result =>
    simp only [handle] at handled
    split at handled
    · cases handled
    · cases handled
      -- a ping has ended, so there are fewer than before
      have fewer : (u.pings.eraseIdx index).length ≤ u.pings.length := List.length_eraseIdx_le ..
      rw [settle_pings, List.drop_eq_nil_of_le fewer] at added
      cases added
  | tick =>
    simp only [handle] at handled
    split at handled
    · cases handled
      rw [List.drop_length] at added
      cases added
    · rename_i dynamic
      cases handled
      rw [List.drop_left] at added
      exact ⟨rfl, by simpa using dynamic, added⟩

end Updater

/-- What has parsed, whatever a failure would be turned into. -/
theorem toOption_of_mapError {ε δ α : Type} {f : ε → δ} {answer : Except ε α} {value : α}
    (parsed : answer.mapError f = .ok value) : answer.toOption = some value := by
  cases answer with
  | error failure => cases parsed
  | ok other =>
    cases parsed
    rfl

namespace Behaves

variable {server : HttpServer} {task : Task} {result : HttpServer × List Contact}

/-- Nothing is remembered, and nothing routed to, that was not there. -/
theorem of_kept (contacts : ∀ contact ∈ result.2, Justified server task contact)
    (transactions : result.1.transactions = server.transactions)
    (blockhashes : result.1.blockhashes = server.blockhashes)
    (upstreams : result.1.routes.upstreams = server.routes.upstreams) :
    Behaves server task result where
  contacts
  tracked _ _ found := .inl (transactions ▸ found)
  remembered _ _ found := .inl (blockhashes ▸ found)
  nodes upstream member := .inl ⟨upstream, upstreams ▸ member, rfl⟩

theorem refused : Behaves server task (server, []) :=
  of_kept (List.forall_mem_nil _) rfl rfl rfl

theorem silent : Behaves server task (server.contacting server) := by
  rw [HttpServer.contacting_self]
  exact refused

/-- The table alone is changed, and nobody contacted. -/
theorem rerouted {routes : RoutingTable}
    (nodes : ∀ upstream ∈ routes.upstreams,
      (∃ before ∈ server.routes.upstreams, upstream.handle = before.handle) ∨
        task.Registers upstream.handle) : Behaves server task ({ server with routes }, []) where
  contacts := List.forall_mem_nil _
  tracked _ _ found := .inl found
  remembered _ _ found := .inl found
  nodes

/-- More contacts can be made for reasons of their own. -/
theorem probing (behaves : Behaves server task result) {probes : List Contact}
    (justified : ∀ contact ∈ probes, Justified server task contact) :
    Behaves server task (result.1, result.2 ++ probes) :=
  { behaves with
    contacts := List.forall_mem_append.mpr ⟨behaves.contacts, justified⟩ }

/-- One upstream of the table is asked and remembered. -/
theorem of_upstream {upstream : UpstreamRecord} (listed : upstream ∈ server.routes.upstreams)
    (contacts : ∀ contact ∈ result.2, Justified server task contact)
    (tracked : ∀ signature handle, result.1.transactions.get signature = some handle →
      server.transactions.get signature = some handle ∨ handle = upstream.handle)
    (remembered : ∀ hash client, result.1.blockhashes.lookup hash = some client →
      server.blockhashes.lookup hash = some client ∨ client = upstream.client)
    (upstreams : result.1.routes.upstreams = server.routes.upstreams) :
    Behaves server task result where
  contacts
  tracked signature handle found :=
    (tracked signature handle found).imp_right fun same => ⟨upstream, listed, same⟩
  remembered hash client found :=
    (remembered hash client found).imp_right fun same => ⟨upstream, listed, same⟩
  nodes upstream member := .inl ⟨upstream, upstreams ▸ member, rfl⟩

/-- A method that turns to the upstream of one delegation, which an account of the
task has. -/
theorem routed (delegation : Option Pubkey)
    (concerned : ∀ identity, delegation = some identity →
      ∃ account, (account, some identity) ∈ task.concerns)
    (turned : delegation = none → result.2 ≠ [] → task.turn server.routes = .used)
    (refused : ∀ error, HttpServer.handleFor server.routes delegation = .error error →
      result = (server, []))
    (made : ∀ handle routes, HttpServer.handleFor server.routes delegation = .ok (handle, routes) →
      result.1.routes = routes ∧ (∀ contact ∈ result.2, contact.Over handle) ∧
      (∀ signature other, result.1.transactions.get signature = some other →
        server.transactions.get signature = some other ∨ other = handle) ∧
      ∀ hash client, result.1.blockhashes.lookup hash = some client →
        server.blockhashes.lookup hash = some client ∨ client = handle.rpc) :
    Behaves server task result := by
  cases delegation with
  | none =>
    obtain ⟨routes, contacts, tracked, remembered⟩ := made _ _ rfl
    refine of_upstream server.routes.baseChain_mem ?_ tracked remembered ?_
    · intro contact member
      exact .chain (turned rfl (List.ne_nil_of_mem member)) (contacts contact member)
    · rw [routes]
      exact server.routes.baseChain_upstreams
  | some identity =>
    cases found : server.routes.inner.lookup identity with
    | none =>
      have absent : HttpServer.handleFor server.routes (some identity) =
          .error (.unknownErNode identity) := by
        simp [HttpServer.handleFor, RoutingTable.ephemeralHandle, found]
      rw [refused _ absent]
      exact .refused
    | some upstream =>
      have present : HttpServer.handleFor server.routes (some identity) =
          .ok (upstream.handle, server.routes) := by
        simp [HttpServer.handleFor, RoutingTable.ephemeralHandle, found, UpstreamRecord.handle]
      obtain ⟨routes, contacts, tracked, remembered⟩ := made _ _ present
      obtain ⟨account, listed⟩ := concerned identity rfl
      refine of_upstream (RoutingTable.node_mem found) ?_ tracked remembered (by rw [routes])
      intro contact member
      exact .delegated listed found (contacts contact member)

/-- A method that asks or names the closest node. -/
theorem nearest (now : Nat) (order : List (Pubkey × UpstreamRecord))
    (walked : order.Perm (server.routes.inner.entries.map fun entry => (entry.1, entry.2)))
    (asked : task.closestAt = some now)
    (turned : task.turn server.routes = .closest server.routes now order)
    (failed : ∀ error, server.routes.closestNode now order = .error error → result = (server, []))
    (made : ∀ node routes, server.routes.closestNode now order = .ok (node, routes) →
      result.1.routes = routes ∧ result.1.transactions = server.transactions ∧
      (∀ contact ∈ result.2, contact = .rpc node.2 ∨ contact = .named node.2.url) ∧
      ∀ hash client, result.1.blockhashes.lookup hash = some client →
        server.blockhashes.lookup hash = some client ∨ client = node.2) :
    Behaves server task result := by
  -- whichever upstream is selected, all that is done is done with it
  have selected {identity : Pubkey} {upstream : UpstreamRecord} {routes : RoutingTable}
      (answered : server.routes.closestNode now order = .ok ((identity, upstream.client), routes))
      (listed : upstream ∈ server.routes.upstreams)
      (kept : routes.upstreams = server.routes.upstreams)
      (why : ∀ contact, contact.Over upstream.handle → Justified server task contact) :
      Behaves server task result := by
    obtain ⟨same, transactions, contacts, remembered⟩ := made _ _ answered
    refine of_upstream listed ?_ ?_ remembered (same ▸ kept)
    · intro contact member
      apply why
      rcases contacts contact member with rfl | rfl
      · rfl
      · rfl
    · intro signature handle tracked
      exact .inl (transactions ▸ tracked)
  have answers := server.routes.closestNode_answer now walked
  generalize answered : server.routes.closestNode now order = answer at answers
  cases answers with
  | unknown static absent =>
    rw [failed _ answered]
    exact .refused
  | configured static found =>
    apply selected answered (RoutingTable.node_mem found) rfl
    intro contact through
    exact .configured asked static found through
  | chain dynamic turn =>
    apply selected answered server.routes.baseChain_mem server.routes.baseChain_upstreams
    intro contact through
    exact .chain (turned.trans turn) through
  | fresh dynamic fresh least =>
    apply selected answered (RoutingTable.node_mem fresh.1) server.routes.baseChain_upstreams
    intro contact through
    exact .closest asked dynamic fresh least through

end Behaves

namespace Task

open HttpServer

variable {server : HttpServer} {task : Task}

/-- A delegation the accounts agree on is one of theirs. -/
theorem delegatedTo_concerned {authority : Pubkey → Option Pubkey} {accounts : List Pubkey}
    {held : Option Pubkey} {identity : Pubkey}
    (agreed : delegatedTo authority accounts held = .ok (some identity)) :
    held = some identity ∨ ∃ account ∈ accounts, authority account = some identity := by
  induction accounts generalizing held with
  | nil =>
    cases agreed
    exact .inl rfl
  | cons account rest ih =>
    have later (found : some identity = authority account ∨
        ∃ account ∈ rest, authority account = some identity) :
        ∃ other ∈ account :: rest, authority other = some identity := by
      rcases found with here | ⟨other, member, same⟩
      · exact ⟨account, List.mem_cons_self, here.symm⟩
      · exact ⟨other, List.mem_cons_of_mem _ member, same⟩
    cases delegated : authority account with
    | none =>
      simp only [delegatedTo, delegated] at agreed
      rcases ih agreed with same | found
      · exact .inl same
      · exact .inr (later (.inr found))
    | some validator =>
      have taken : delegatedTo authority rest (some validator) = .ok (some identity) := by
        cases held with
        | none => simpa [delegatedTo, delegated] using agreed
        | some old =>
          simp only [delegatedTo, delegated] at agreed
          split at agreed
          · cases agreed
          · exact agreed
      rcases ih taken with same | found
      · exact .inr (later (.inl (delegated ▸ same.symm)))
      · exact .inr (later (.inr found))

/-- The requests about one account. -/
theorem accountQuery_behaves {Reply : Type} (method : AccountMethod)
    (authority : Pubkey → Option Pubkey) (ask : RpcClient → Except String Reply) {pubkey : Pubkey}
    (concerned : (pubkey, authority pubkey) ∈ task.concerns)
    (turned : task.turn server.routes = .routed (authority pubkey)) :
    Behaves server task (server.contacting (accountQuery method authority ask server pubkey).2) := by
  apply Behaves.routed (authority pubkey)
  · intro identity same
    exact ⟨pubkey, same ▸ concerned⟩
  · intro undelegated _
    rw [turned, undelegated]
    rfl
  · intro error refused
    simp [accountQuery, resolveClient, clientFor_eq_handleFor, refused, Except.map]
  · intro handle routes made
    have result : server.contacting (accountQuery method authority ask server pubkey).2 =
        ({ server with routes, journal := server.journal ++ [.account handle.rpc method pubkey] },
          [.rpc handle.rpc]) := by
      simp [contacting, accountQuery, resolveClient, clientFor_eq_handleFor, made, Except.map,
        Errand.contact]
    rw [result]
    exact ⟨rfl, List.forall_mem_singleton.mpr rfl, fun _ _ found => .inl found,
      fun _ _ found => .inl found⟩

theorem signaturesForAddress_behaves {Commitment Status : Type} (lib : TransactionLibrary)
    (authority : Pubkey → Option Pubkey)
    (ask : RpcClient → Pubkey → GetConfirmedSignaturesForAddress2Config Commitment →
      Except String (List Status))
    (pubkey : Pubkey) (config : Option (RpcSignaturesForAddressConfig Commitment)) :
    Behaves server (.operation (.signaturesForAddress lib authority ask pubkey config))
      (server.contacting
        (signaturesForAddress lib authority ask server pubkey config).2) := by
  apply Behaves.routed (authority pubkey)
  · intro identity same
    exact ⟨pubkey, same ▸ List.mem_singleton_self _⟩
  · intro undelegated made
    -- a request that is made has decoded its signatures
    by_cases decoded : ((optionalSignature lib (config.getD .default).before).isOk &&
        (optionalSignature lib (config.getD .default).until).isOk) = true
    · simp only [turn, Operation.turn, undelegated, if_pos decoded]
    · have performed := Operation.signaturesForAddress_malformed lib authority ask pubkey config
        decoded server
      rw [undelegated] at performed
      exact absurd (congrArg Prod.snd performed) made
  · intro error refused
    simp [signaturesForAddress, resolveClient, clientFor_eq_handleFor, refused, Except.map]
  · intro handle routes made
    -- the signatures are decoded once the client is known
    have result : ∃ journal contacts, (∀ contact ∈ contacts, contact.Over handle) ∧
        server.contacting (signaturesForAddress lib authority ask server pubkey config).2 =
          ({ server with routes, journal }, contacts) := by
      cases before : optionalSignature lib (config.getD .default).before with
      | error failure =>
        refine ⟨server.journal, [], List.forall_mem_nil _, ?_⟩
        simp [contacting, signaturesForAddress, resolveClient, clientFor_eq_handleFor, made,
          Except.map, before]
      | ok first =>
        cases after : optionalSignature lib (config.getD .default).until with
        | error failure =>
          refine ⟨server.journal, [], List.forall_mem_nil _, ?_⟩
          simp [contacting, signaturesForAddress, resolveClient, clientFor_eq_handleFor, made,
            Except.map, before, after]
        | ok last =>
          refine ⟨server.journal ++ [.account handle.rpc .signaturesForAddress pubkey],
            [.rpc handle.rpc], List.forall_mem_singleton.mpr rfl, ?_⟩
          simp [contacting, signaturesForAddress, resolveClient, clientFor_eq_handleFor, made,
            Except.map, before, after, Errand.contact]
    obtain ⟨journal, contacts, through, same⟩ := result
    rw [same]
    exact ⟨rfl, through, fun _ _ found => .inl found, fun _ _ found => .inl found⟩

theorem blockhashForAccounts_behaves (authority : Pubkey → Option Pubkey)
    (latest : RpcClient → Except String (Hash × Nat)) (evicted : Option Hash)
    (accounts : List Pubkey) :
    Behaves server (.operation (.blockhashForAccounts authority latest evicted accounts))
      (server.contacting (blockhashForAccounts authority latest evicted server accounts).2) := by
  cases agreed : delegatedTo authority accounts none with
  | error conflict =>
    have result : server.contacting
        (blockhashForAccounts authority latest evicted server accounts).2 = (server, []) := by
      simp [blockhashForAccounts, agreed]
    rw [result]
    exact .refused
  | ok delegated =>
    apply Behaves.routed delegated
    · intro identity same
      subst same
      rcases delegatedTo_concerned agreed with none | ⟨account, member, found⟩
      · cases none
      · exact ⟨account, List.mem_map.mpr ⟨account, member, by rw [found]⟩⟩
    · intro undelegated _
      simp only [turn, Operation.turn, agreed, undelegated, Turn.routed]
    · intro error refused
      simp [blockhashForAccounts, agreed, clientFor_eq_handleFor, refused, Except.map]
    · intro handle routes made
      cases answer : latest handle.rpc with
      | error failure =>
        have result : server.contacting
            (blockhashForAccounts authority latest evicted server accounts).2 =
              ({ server with routes, journal := server.journal ++ [.latestBlockhash handle.rpc] },
                [.rpc handle.rpc]) := by
          simp [contacting, blockhashForAccounts, agreed, clientFor_eq_handleFor, made, Except.map,
            answer, Errand.contact]
        rw [result]
        exact ⟨rfl, List.forall_mem_singleton.mpr rfl, fun _ _ found => .inl found,
          fun _ _ found => .inl found⟩
      | ok reply =>
        have result : server.contacting
            (blockhashForAccounts authority latest evicted server accounts).2 =
              ({ server with
                  routes, journal := server.journal ++ [.latestBlockhash handle.rpc]
                  blockhashes := server.blockhashes.insertEvicting reply.1 handle.rpc evicted },
                [.rpc handle.rpc]) := by
          simp [contacting, blockhashForAccounts, agreed, clientFor_eq_handleFor, made, Except.map,
            answer, Errand.contact]
        rw [result]
        exact ⟨rfl, List.forall_mem_singleton.mpr rfl, fun _ _ found => .inl found,
          fun _ _ => Store.held_of_insertEvicting⟩

theorem latestBlockhash_behaves (now : Nat) (order : List (Pubkey × UpstreamRecord))
    (latest : RpcClient → Except String (Hash × UInt64)) (evicted : Option Hash)
    (walked : order.Perm (server.routes.inner.entries.map fun entry => (entry.1, entry.2))) :
    Behaves server (.operation (.latestBlockhash now order latest evicted))
      (server.contacting (latestBlockhash now order latest evicted server).2) := by
  apply Behaves.nearest now order walked rfl rfl
  · intro error failed
    simp [latestBlockhash, failed]
  · intro node routes made
    cases answer : latest node.2 with
    | error failure =>
      have result : server.contacting (latestBlockhash now order latest evicted server).2 =
          ({ server with routes, journal := server.journal ++ [.latestBlockhash node.2] },
            [.rpc node.2]) := by
        simp [contacting, latestBlockhash, made, answer, Errand.contact]
      rw [result]
      exact ⟨rfl, rfl, List.forall_mem_singleton.mpr (.inl rfl), fun _ _ found => .inl found⟩
    | ok reply =>
      have result : server.contacting (latestBlockhash now order latest evicted server).2 =
          ({ server with
              routes, journal := server.journal ++ [.latestBlockhash node.2]
              blockhashes := server.blockhashes.insertEvicting reply.1 node.2 evicted },
            [.rpc node.2]) := by
        simp [contacting, latestBlockhash, made, answer, Errand.contact]
      rw [result]
      exact ⟨rfl, rfl, List.forall_mem_singleton.mpr (.inl rfl),
        fun _ _ => Store.held_of_insertEvicting⟩

theorem identity_behaves (now : Nat) (order : List (Pubkey × UpstreamRecord))
    (walked : order.Perm (server.routes.inner.entries.map fun entry => (entry.1, entry.2))) :
    Behaves server (.operation (.identity now order))
      (Operation.perform server (.identity now order)) := by
  apply Behaves.nearest now order walked rfl rfl
  · intro error failed
    simp [Operation.perform, HttpServer.identity, failed]
  · intro node routes made
    have result : Operation.perform server (.identity now order) =
        ({ server with routes }, [.named node.2.url]) := by
      simp [Operation.perform, HttpServer.identity, made]
    rw [result]
    exact ⟨rfl, rfl, List.forall_mem_singleton.mpr (.inr rfl), fun _ _ found => .inl found⟩

theorem sendTransaction_behaves (lib : TransactionLibrary) (authority : Pubkey → Option Pubkey)
    (respond : RemoteHandle → Except String String) (evicted : Option Signature) (txn : String)
    (params : Option RpcSendTransactionConfig) :
    Behaves server (.operation (.sendTransaction lib authority respond evicted txn params))
      (server.contacting (sendTransaction lib authority respond evicted server txn params).2) := by
  cases decoded : decodeTransaction lib txn (params.getD .default) with
  | error failure =>
    have result : server.contacting
        (sendTransaction lib authority respond evicted server txn params).2 = (server, []) := by
      simp [sendTransaction, decoded]
    rw [result]
    exact .refused
  | ok message =>
    cases agreed : delegationOf authority (lib.isMaybeWritable message) 0
        message.staticAccountKeys none with
    | error conflict =>
      have result : server.contacting
          (sendTransaction lib authority respond evicted server txn params).2 = (server, []) := by
        simp [sendTransaction, decoded, agreed]
      rw [result]
      exact .refused
    | ok delegation =>
      apply Behaves.routed delegation
      · intro identity same
        subst same
        rw [delegationOf_eq_delegatedTo] at agreed
        rcases delegatedTo_concerned agreed with none | ⟨account, member, found⟩
        · cases none
        · obtain ⟨key, listed, rfl⟩ := List.mem_map.mp member
          refine ⟨key.1, ?_⟩
          simp only [concerns, decoded]
          exact List.mem_map.mpr ⟨key, listed, by rw [found]⟩
      · intro undelegated _
        simp only [turn, Operation.turn, decoded, agreed, undelegated, Turn.routed]
      · intro error refused
        simp [sendTransaction, decoded, agreed, refused]
      · intro handle routes made
        cases answer : respond handle with
        | error failure =>
          have result : server.contacting
              (sendTransaction lib authority respond evicted server txn params).2 =
                ({ server with
                    routes, journal := server.journal ++ [.forward handle message false] },
                  [.rpc handle.rpc]) := by
            simp [contacting, sendTransaction, decoded, agreed, made, answer, Errand.contact,
              Except.isOk, Except.toBool]
          rw [result]
          exact ⟨rfl, List.forall_mem_singleton.mpr rfl, fun _ _ found => .inl found,
            fun _ _ found => .inl found⟩
        | ok reply =>
          have result : server.contacting
              (sendTransaction lib authority respond evicted server txn params).2 =
                (track { server with
                    routes, journal := server.journal ++ [.forward handle message true] }
                  message.signature handle evicted, [.rpc handle.rpc]) := by
            simp [contacting, sendTransaction, decoded, agreed, made, answer, track, Errand.contact,
              Except.isOk, Except.toBool]
          rw [result]
          exact ⟨rfl, List.forall_mem_singleton.mpr rfl, fun _ _ => Store.held_of_insertEvicting,
            fun _ _ found => .inl found⟩

/-- The requests to nodes are those of authorities that occur. -/
theorem ephemeralRequest_mem {routes : RoutingTable} {groups : List (Pubkey × List (Nat × Pubkey))}
    {requests : List AccountsRequest} (built : groups.mapM (ephemeralRequest routes) = .ok requests)
    {request : AccountsRequest} (member : request ∈ requests) :
    ∃ group ∈ groups, ∃ upstream, routes.inner.lookup group.1 = some upstream ∧
      request.client = upstream.client := by
  induction groups generalizing requests with
  | nil =>
    cases built
    cases member
  | cons group rest ih =>
    rw [List.mapM_cons] at built
    cases first : ephemeralRequest routes group with
    | error failure => simp [first, bind, Except.bind] at built
    | ok head =>
      cases others : rest.mapM (ephemeralRequest routes) with
      | error failure => simp [first, others, bind, Except.bind] at built
      | ok tail =>
        simp only [first, others, bind, Except.bind, pure, Except.pure, Except.ok.injEq] at built
        subst built
        rcases List.mem_cons.mp member with rfl | later
        · refine ⟨group, List.mem_cons_self, ?_⟩
          cases found : routes.inner.lookup group.1 with
          | none => simp [ephemeralRequest, RoutingTable.ephemeralClient, found] at first
          | some upstream =>
            simp only [ephemeralRequest, RoutingTable.ephemeralClient, found, Option.map_some,
              Except.ok.injEq] at first
            exact ⟨upstream, rfl, by rw [← first]⟩
        · obtain ⟨other, listed, found⟩ := ih others later
          exact ⟨other, List.mem_cons_of_mem _ listed, found⟩

theorem multipleAccounts_behaves {Config UiAccount : Type} (inhabited : Inhabited Config)
    (authority : Pubkey → Option Pubkey)
    (ask : RpcClient → List Pubkey → Config → Except String (Response (List (Option UiAccount))))
    (iteration : List (Pubkey × List (Nat × Pubkey)) → List (Pubkey × List (Nat × Pubkey)))
    (completion : List AccountsRequest → List AccountsRequest) (pubkeys : List Pubkey)
    (params : Option Config) (walked : ∀ groups, (iteration groups).Perm groups) :
    Behaves server (.operation (.multipleAccounts inhabited authority ask iteration completion
      pubkeys params)) (server.contacting
        (multipleAccounts authority ask iteration completion server pubkeys params).2) := by
  generalize sorted : (sortKeys authority pubkeys).1.entries.map
    (fun group => (group.1, group.2)) = groups
  cases built : (iteration groups).mapM (ephemeralRequest server.routes) with
  | error failure =>
    have result : server.contacting (multipleAccounts authority ask iteration completion server
        pubkeys params).2 = (server, []) := by
      simp [multipleAccounts, sorted, built]
    rw [result]
    exact .refused
  | ok requests =>
    -- every request to a node is for an authority of one of the keys
    have delegated : ∀ request ∈ requests, Justified server (.operation (.multipleAccounts inhabited
        authority ask iteration completion pubkeys params)) (.rpc request.client) := by
      intro request member
      obtain ⟨⟨identity, keys⟩, listed, upstream, found, client⟩ := ephemeralRequest_mem built member
      have group := (walked groups).mem_iff.mp listed
      rw [← sorted, mem_groups_iff] at group
      obtain ⟨⟨account, occurs, delegated⟩, _⟩ := group
      have concerned : (account, some identity) ∈
          pubkeys.map fun pubkey => (pubkey, authority pubkey) :=
        List.mem_map.mpr ⟨account, occurs, by rw [delegated]⟩
      exact .delegated concerned found client
    have asked (journal : List Errand) (more : List AccountsRequest) :
        ((journal ++ more.map fun request => Errand.multipleAccounts request.client request.pks).drop
          journal.length).filterMap Errand.contact = more.map fun request => .rpc request.client := by
      rw [List.drop_left, List.filterMap_map]
      exact congrFun List.filterMap_eq_map more
    by_cases none : (sortKeys authority pubkeys).2.isEmpty = true
    · refine Behaves.of_kept ?_ ?_ ?_ ?_
      · intro contact member
        simp only [contacting, multipleAccounts, sorted, built, if_pos none, asked] at member
        obtain ⟨request, listed, rfl⟩ := List.mem_map.mp member
        exact delegated request listed
      all_goals simp [contacting, multipleAccounts, sorted, built, none]
    · refine Behaves.of_kept ?_ ?_ ?_ ?_
      · intro contact member
        simp only [contacting, multipleAccounts, sorted, built, if_neg none, asked] at member
        obtain ⟨request, listed, rfl⟩ := List.mem_map.mp member
        rcases List.mem_append.mp listed with node | chain
        · exact delegated request node
        · rw [List.mem_singleton.mp chain]
          refine .chain ?_ rfl
          simp only [turn, Operation.turn, sorted, built, if_neg none]
      · simp [contacting, multipleAccounts, sorted, built, none]
      · simp [contacting, multipleAccounts, sorted, built, none]
      · simp [contacting, multipleAccounts, sorted, built, none, RoutingTable.baseChain_upstreams]

theorem accountSubscribe_behaves (context : HandlerContext) (pubsubTx : Channel) (pubkey : Pubkey)
    (params : Option RpcAccountInfoConfig) :
    Behaves server (.operation (.accountSubscribe context pubsubTx pubkey params))
      (Operation.perform server (.accountSubscribe context pubsubTx pubkey params)) := by
  cases delegated : context.authority with
  | none =>
    have result : Operation.perform server (.accountSubscribe context pubsubTx pubkey params) =
        ({ server with routes := server.routes.baseChain.2 },
          [.ws server.routes.baseChain.1.wsUrl]) := by
      simp [Operation.perform, WebsocketServer.accountSubscribe, delegated]
    have turned : Task.turn server.routes
        (.operation (.accountSubscribe context pubsubTx pubkey params)) = .used := by
      simp only [turn, Operation.turn, delegated]
    rw [result]
    exact .of_kept (List.forall_mem_singleton.mpr (.chain turned rfl)) rfl rfl
      server.routes.baseChain_upstreams
  | some validator =>
    cases found : server.routes.inner.lookup validator with
    | none =>
      have absent : server.routes.baseChain.2.ephemeralHandle validator = none :=
        congrArg (Option.map _) found
      have result : Operation.perform server (.accountSubscribe context pubsubTx pubkey params) =
          ({ server with routes := server.routes.baseChain.2 }, []) := by
        simp [Operation.perform, WebsocketServer.accountSubscribe, delegated, absent]
      rw [result]
      exact .of_kept (List.forall_mem_nil _) rfl rfl server.routes.baseChain_upstreams
    | some upstream =>
      have present : server.routes.baseChain.2.ephemeralHandle validator = some upstream.handle :=
        congrArg (Option.map _) found
      have result : Operation.perform server (.accountSubscribe context pubsubTx pubkey params) =
          ({ server with routes := server.routes.baseChain.2 },
            [.ws upstream.wsUrl, .ws server.routes.baseChain.1.wsUrl]) := by
        simp [Operation.perform, WebsocketServer.accountSubscribe, delegated, present,
          Subscription.cloneWithDestination, UpstreamRecord.handle]
      have turned : Task.turn server.routes
          (.operation (.accountSubscribe context pubsubTx pubkey params)) = .used := by
        have known : server.routes.ephemeralHandle validator = some upstream.handle := present
        simp only [turn, Operation.turn, delegated, known, Option.isSome_some, if_true]
      rw [result]
      refine .of_kept ?_ rfl rfl server.routes.baseChain_upstreams
      refine List.forall_mem_cons.mpr ⟨?_, List.forall_mem_singleton.mpr (.chain turned rfl)⟩
      have concerned : (pubkey, some validator) ∈ [(pubkey, context.authority)] :=
        List.mem_singleton.mpr (by rw [delegated])
      exact .delegated concerned found rfl

theorem deliver_behaves (context : HandlerContext) (handler : AccountSubscriptionHandler)
    (message : PubsubMessage) :
    Behaves server (.operation (.deliver context handler message))
      (Operation.perform server (.deliver context handler message)) := by
  -- what is dispatched to a node is dispatched to that of the account's authority
  have node {identity : Pubkey} {handle : RemoteHandle} {url : Url}
      (delegated : context.authority = some identity)
      (found : server.routes.ephemeralHandle identity = some handle) (same : url = handle.ws) :
      Justified server (.operation (.deliver context handler message)) (.ws url) := by
    obtain ⟨upstream, listed, rfl⟩ := Option.map_eq_some_iff.mp found
    have concerned : (handler.pubkey, some identity) ∈ [(handler.pubkey, context.authority)] :=
      List.mem_singleton.mpr (by rw [delegated])
    exact .delegated concerned listed same
  cases message with
  | subscribed handle => exact .of_kept (List.forall_mem_nil _) rfl rfl rfl
  | notification id upstream payload =>
    have changed : ∀ sub, .dispatch sub ∈ (handler.handleDelegationStatusChange
        { context with routes := server.routes } payload id upstream).2 →
        Justified server (.operation (.deliver context handler (.notification id upstream payload)))
          (.ws sub.destination) := by
      intro sub member
      obtain same | ⟨identity, handle, _, delegated, found, same⟩ | ⟨_, _, _, same⟩ :=
        AccountSubscriptionHandler.handleDelegationStatusChange_cases
          { context with routes := server.routes } handler payload id upstream
      · rw [same] at member
        cases member
      · rw [same] at member
        cases List.mem_singleton.mp member
        exact node delegated found rfl
      · rw [same] at member
        cases List.mem_singleton.mp member
    have outcome : (handler.receive { context with routes := server.routes }
          (.notification id upstream payload)).routes = server.routes ∧
        ∀ sub, .dispatch sub ∈ (handler.receive { context with routes := server.routes }
          (.notification id upstream payload)).effects → .dispatch sub ∈
            (handler.handleDelegationStatusChange { context with routes := server.routes } payload id
              upstream).2 := by
      simp only [AccountSubscriptionHandler.receive]
      split
      · exact ⟨rfl, fun _ member => member⟩
      · split
        · exact ⟨rfl, fun _ member => by simpa using member⟩
        · exact ⟨rfl, fun _ member => member⟩
    refine .of_kept ?_ rfl rfl ?_
    · intro contact member
      obtain ⟨sub, listed, rfl⟩ := List.mem_map.mp member
      obtain ⟨effect, emitted, named⟩ := List.mem_filterMap.mp listed
      cases effect with
      | dispatch other =>
        cases named
        exact changed sub (outcome.2 sub emitted)
      | unsubscribe _ _ | notify _ | report _ => cases named
    · exact congrArg RoutingTable.upstreams outcome.1
  | disconnected id =>
    cases lost : handler.handles.lookup id with
    | none =>
      have result : Operation.perform server (.deliver context handler (.disconnected id)) =
          (server, []) := by
        simp [Operation.perform, AccountSubscriptionHandler.receive, lost]
      rw [result]
      exact .refused
    | some handle =>
      cases delegated : context.authority with
      | none =>
        have result : Operation.perform server (.deliver context handler (.disconnected id)) =
            ({ server with routes := server.routes.baseChain.2 },
              [.ws server.routes.baseChain.1.wsUrl]) := by
          simp [Operation.perform, AccountSubscriptionHandler.receive, lost,
            AccountSubscriptionHandler.redestination, delegated, HandlerEffect.dispatched,
            AccountSubscriptionHandler.resubscription]
        have turned : Task.turn server.routes
            (.operation (.deliver context handler (.disconnected id))) = .used := by
          simp only [turn, Operation.turn, lost, delegated, Option.isSome_some, if_true, Turn.routed]
        rw [result]
        exact .of_kept (List.forall_mem_singleton.mpr (.chain turned rfl)) rfl rfl
          server.routes.baseChain_upstreams
      | some validator =>
        cases found : server.routes.ephemeralHandle validator with
        | none =>
          have result : Operation.perform server (.deliver context handler (.disconnected id)) =
              (server, []) := by
            simp [Operation.perform, AccountSubscriptionHandler.receive, lost,
              AccountSubscriptionHandler.redestination, delegated, found]
          rw [result]
          exact .refused
        | some upstream =>
          have result : Operation.perform server (.deliver context handler (.disconnected id)) =
              (server, [.ws upstream.ws]) := by
            simp [Operation.perform, AccountSubscriptionHandler.receive, lost,
              AccountSubscriptionHandler.redestination, delegated, found, HandlerEffect.dispatched,
              AccountSubscriptionHandler.resubscription]
          rw [result]
          exact .of_kept (List.forall_mem_singleton.mpr (node delegated found rfl)) rfl rfl rfl

theorem update_behaves (lib : UpdaterLibrary) (subscription : Subscription) (pings : List Ping)
    (event : UpdaterEvent) :
    Behaves server (.operation (.update lib subscription pings event))
      (Operation.perform server (.update lib subscription pings event)) := by
  cases event with
  | message msg probe =>
    cases msg with
    | subscribed handle => exact .of_kept (List.forall_mem_nil _) rfl rfl rfl
    | disconnected id =>
      exact .of_kept (List.forall_mem_singleton.mpr (.chain rfl rfl)) rfl rfl
        server.routes.baseChain_upstreams
    | notification id kind payload =>
      cases notified : Updater.notified lib payload with
      | none =>
        have result : Operation.perform server (.update lib subscription pings
            (.message (.notification id kind payload) probe)) = (server, []) := by
          simp [Operation.perform, Updater.handle, Updater.receive, notified, UpdaterOutput.silent]
        rw [result]
        exact .refused
      | some report =>
        have result : Operation.perform server (.update lib subscription pings
            (.message (.notification id kind payload) probe)) =
              ({ server with routes := (server.routes.insertEntry lib.toRegistryLibrary report.1
                  report.2 probe).1 }, []) := by
          simp [Operation.perform, Updater.handle, Updater.receive, notified, UpdaterOutput.silent]
        rw [result]
        refine .rerouted ?_
        intro upstream member
        refine server.routes.upstreams_of_nodes (RoutingTable.insertEntry_chain ..).1 ?_ member
        intro identity upstream found
        rcases RoutingTable.insertEntry_nodes found with held | ⟨record, new, decoded, built, same⟩
        · exact .inl held
        · exact .inr (same ▸ .intro notified decoded built)
  | ping index result =>
    cases present : pings[index]? with
    | none =>
      have outcome : Operation.perform server (.update lib subscription pings (.ping index result)) =
          (server, []) := by
        simp [Operation.perform, Updater.handle, present]
      rw [outcome]
      exact .refused
    | some ping =>
      have outcome : Operation.perform server (.update lib subscription pings (.ping index result)) =
          ({ server with routes := (Updater.settle
              { table := server.routes, subscription, pings := pings.eraseIdx index } ping.pubkey
              result).table }, []) := by
        simp [Operation.perform, Updater.handle, present, UpdaterOutput.silent]
      rw [outcome]
      refine .rerouted ?_
      intro upstream member
      unfold Updater.settle at member
      split at member
      · exact .inl ⟨upstream, member, rfl⟩
      · rename_i record held
        refine server.routes.upstreams_of_nodes ?_ ?_ member
        · rfl
        intro identity other found
        simp only [Store.lookup_insert_if] at found
        split at found
        · rename_i same
          subst same
          cases found
          exact .inl ⟨record, held, record.settle_handle result⟩
        · exact .inl ⟨other, found, rfl⟩
  | tick =>
    have outcome : Operation.perform server (.update lib subscription pings .tick) =
        (server, []) := by
      by_cases fixed : server.routes.staticErIdentity.isSome = true
      · simp [Operation.perform, Updater.handle, fixed, UpdaterOutput.silent]
      · simp [Operation.perform, Updater.handle, fixed, UpdaterOutput.silent]
    rw [outcome]
    exact .refused

theorem operation_behaves (operation : Operation) (fits : (Task.operation operation).Fits server) :
    Behaves server (.operation operation) (operation.perform server) := by
  cases operation with
  | accountInfo _ authority ask pubkey params =>
    exact accountQuery_behaves .accountInfo authority _ (List.mem_singleton_self _) rfl
  | balance _ authority ask pubkey params =>
    exact accountQuery_behaves .balance authority _ (List.mem_singleton_self _) rfl
  | tokenAccountBalance _ authority ask pubkey params =>
    exact accountQuery_behaves .tokenAccountBalance authority _ (List.mem_singleton_self _) rfl
  | signaturesForAddress lib authority ask pubkey config =>
    exact signaturesForAddress_behaves lib authority ask pubkey config
  | fetch answer pda minContextSlot =>
    exact .of_kept (List.forall_mem_singleton.mpr (.chain rfl rfl)) rfl rfl
      server.routes.baseChain_upstreams
  | sendTransaction lib authority respond evicted txn params =>
    exact sendTransaction_behaves lib authority respond evicted txn params
  | multipleAccounts inhabited authority ask iteration completion pubkeys params =>
    exact multipleAccounts_behaves inhabited authority ask iteration completion pubkeys params fits
  | blockhashForAccounts authority latest evicted accounts =>
    exact blockhashForAccounts_behaves authority latest evicted accounts
  | identity now order => exact identity_behaves now order fits
  | latestBlockhash now order latest evicted =>
    exact latestBlockhash_behaves now order latest evicted fits
  | accountSubscribe context pubsubTx pubkey params =>
    exact accountSubscribe_behaves context pubsubTx pubkey params
  | deliver context handler message => exact deliver_behaves context handler message
  | update lib subscription pings event => exact update_behaves lib subscription pings event

/-- One errand over a handle or a client that is remembered. -/
theorem errand_behaves {errand : Errand} {client : RpcClient}
    (asks : errand.contact = some (.rpc client)) (justified : Justified server task (.rpc client)) :
    Behaves server task
      (server.contacting { server with journal := server.journal ++ [errand] }) := by
  have result : server.contacting { server with journal := server.journal ++ [errand] } =
      ({ server with journal := server.journal ++ [errand] }, [.rpc client]) := by
    simp [contacting, asks]
  rw [result]
  exact .of_kept (List.forall_mem_singleton.mpr justified) rfl rfl rfl

theorem transaction_behaves {Config Reply : Type} (inhabited : Inhabited Config)
    (lib : TransactionLibrary) (ask : RpcClient → Signature → Config → Except String Reply)
    (signature : String) (params : Option Config) :
    Behaves server (.transaction inhabited lib ask signature params)
      (server.contacting (HttpServer.transaction lib ask server signature params).2) := by
  unfold HttpServer.transaction
  split
  · exact .silent
  · rename_i parsed
    split
    · exact .silent
    · rename_i handle tracked
      exact errand_behaves rfl (.forwarded (toOption_of_mapError parsed) tracked rfl)

/-- The list is looked up by the signature of its first text. -/
theorem first_parsed {lib : TransactionLibrary} {texts : List String} {first : Signature}
    {rest : List Signature} (parsed : (texts.mapM fun text =>
      (lib.parseSignature text).mapError decodeError) = .ok (first :: rest)) :
    (texts.head?.bind fun text => (lib.parseSignature text).toOption) = some first := by
  cases texts with
  | nil => cases parsed
  | cons text others =>
    rw [List.mapM_cons] at parsed
    cases head : lib.parseSignature text with
    | error failure => simp [head, Except.mapError, bind, Except.bind] at parsed
    | ok signature =>
      simp only [head, Except.mapError, bind, Except.bind] at parsed
      split at parsed
      · cases parsed
      · cases parsed
        simp [head, Except.toOption]

theorem signatureStatuses_behaves {Status : Type} (lib : TransactionLibrary)
    (ask : RpcClient → List Signature → Except String (Response (List (Option Status))))
    (signatures : List String) :
    Behaves server (.signatureStatuses lib ask signatures)
      (server.contacting (HttpServer.signatureStatuses lib ask server signatures).2) := by
  unfold HttpServer.signatureStatuses
  split
  · exact .silent
  · exact .silent
  · rename_i parsed
    split
    · exact .silent
    · rename_i handle tracked
      exact errand_behaves rfl (.forwarded (first_parsed parsed) tracked rfl)

theorem isBlockhashValid_behaves {Config : Type} (inhabited : Inhabited Config)
    (parse : String → Except String Hash) (ask : RpcClient → Hash → Config → Except String Bool)
    (hash : String) (params : Option Config) :
    Behaves server (.isBlockhashValid inhabited parse ask hash params)
      (server.contacting (HttpServer.isBlockhashValid parse ask server hash params).2) := by
  unfold HttpServer.isBlockhashValid
  split
  · exact .silent
  · rename_i parsed
    split
    · exact .silent
    · rename_i client known
      exact errand_behaves rfl (.remembered (toOption_of_mapError parsed) known)

theorem signatureSubscribe_behaves (lib : TransactionLibrary) (subscriberId : SubscriberId)
    (requestId : RequestId) (pubsubTx : Channel) (signature : String)
    (params : Option RpcSignatureSubscribeConfig) :
    Behaves server (.signatureSubscribe lib subscriberId requestId pubsubTx signature params)
      (perform server
        (.signatureSubscribe lib subscriberId requestId pubsubTx signature params)) := by
  simp only [perform]
  split
  · exact .refused
  · rename_i pending subscribed
    unfold WebsocketServer.signatureSubscribe at subscribed
    split at subscribed
    · cases subscribed
    · rename_i parsed
      split at subscribed
      · cases subscribed
      · rename_i handle tracked
        cases subscribed
        have asked : Task.signature (.signatureSubscribe lib subscriberId requestId pubsubTx signature
            params) = some _ := congrArg Except.toOption parsed
        exact .of_kept (List.forall_mem_singleton.mpr (.forwarded asked tracked rfl)) rfl rfl rfl

/-- The node named to the client is the one its account is delegated to. -/
theorem delegationStatus_behaves (pubkey : Pubkey) (record : Option ParsedDelegationRecord) :
    Behaves server (.delegationStatus pubkey record)
      (perform server (.delegationStatus pubkey record)) := by
  simp only [perform]
  split
  · exact .refused
  · rename_i status answered
    unfold HttpServer.delegationStatus at answered
    split at answered
    · cases answered
      exact .of_kept (List.forall_mem_nil _) rfl rfl rfl
    · rename_i found
      split at answered
      · cases answered
      · rename_i client known
        cases answered
        obtain ⟨upstream, held, rfl⟩ := Option.map_eq_some_iff.mp known
        exact .of_kept (List.forall_mem_singleton.mpr
          (.delegated (List.mem_singleton_self _) held rfl)) rfl rfl rfl

/-- The `get_identity` requests go to the nodes of the table or of a registry record. -/
theorem probes_justified (operation : Operation) :
    ∀ contact ∈ operation.probes server, Justified server (.operation operation) contact := by
  cases operation with
  | update lib subscription pings event =>
    intro contact member
    obtain ⟨client, listed, rfl⟩ := List.mem_map.mp member
    rcases List.mem_append.mp listed with pinged | announced
    · obtain ⟨ping, added, rfl⟩ := List.mem_map.mp pinged
      split at added
      · cases added
      · rename_i handled
        obtain ⟨rfl, dynamic, launched⟩ := Updater.launched handled added
        obtain ⟨entry, held, rfl⟩ := List.mem_map.mp launched
        exact .pinged .intro dynamic (Store.mem_entries_iff.mp held)
    · split at announced
      · rename_i request kind payload probe
        simp only [Option.mem_toList, Updater.probed, Option.bind_eq_bind,
          Option.bind_eq_some_iff] at announced
        obtain ⟨⟨pubkey, account⟩, notified, record, decoded, fqdn, parsed, same⟩ := announced
        cases same
        exact .nominated (.intro notified decoded parsed)
      · cases announced
  | _ => exact List.forall_mem_nil _

theorem behaves (task : Task) (fits : task.Fits server) :
    Behaves server task (task.perform server) := by
  cases task with
  | operation asked => exact (operation_behaves asked fits).probing (probes_justified asked)
  | transaction inhabited lib ask signature params =>
    exact transaction_behaves inhabited lib ask signature params
  | signatureStatuses lib ask signatures => exact signatureStatuses_behaves lib ask signatures
  | isBlockhashValid inhabited parse ask hash params =>
    exact isBlockhashValid_behaves inhabited parse ask hash params
  | signatureSubscribe lib subscriberId requestId pubsubTx signature params =>
    exact signatureSubscribe_behaves lib subscriberId requestId pubsubTx signature params
  | delegationStatus pubkey record => exact delegationStatus_behaves pubkey record

/-- A task is performed. -/
def Performs (server : HttpServer) (task : Task) (after : HttpServer) : Prop :=
  after = (task.perform server).1

/-- The upstreams that were there from the start, or that a registry record has named. -/
def Announced (routes : RoutingTable) (tasks : List Task) (handle : RemoteHandle) : Prop :=
  (∃ upstream ∈ routes.upstreams, handle = upstream.handle) ∨
    ∃ task ∈ tasks, task.Registers handle

/-- Nothing but announced upstreams is routed to or remembered. -/
structure Confined (Known : RemoteHandle → Prop) (server : HttpServer) : Prop where
  nodes : ∀ upstream ∈ server.routes.upstreams, Known upstream.handle
  tracked : ∀ signature handle, server.transactions.get signature = some handle → Known handle
  remembered : ∀ hash client, server.blockhashes.lookup hash = some client →
    ∃ handle, Known handle ∧ client = handle.rpc

namespace Confined

variable {Known Known' : RemoteHandle → Prop} {routes : RoutingTable} {tasks : List Task}

theorem start (routes : RoutingTable) : Confined (Announced routes []) (.start routes) where
  nodes upstream member := .inl ⟨upstream, member, rfl⟩
  tracked _ _ found := by cases found
  remembered _ _ found := by cases found

/-- What is justified goes to an announced upstream, or asks a node that is being announced
for its identity. -/
theorem justified (confined : Confined Known server) {contact : Contact}
    (justified : Justified server task contact) :
    (∃ handle, Known handle ∧ contact.Over handle) ∨
      ∃ client, contact = .rpc client ∧ task.Nominates client := by
  cases justified with
  | chain _ through => exact .inl ⟨_, confined.nodes _ server.routes.baseChain_mem, through⟩
  | delegated _ found through | configured _ _ found through =>
    exact .inl ⟨_, confined.nodes _ (RoutingTable.node_mem found), through⟩
  | closest _ _ fresh _ through =>
    exact .inl ⟨_, confined.nodes _ (RoutingTable.node_mem fresh.1), through⟩
  | forwarded _ tracked through => exact .inl ⟨_, confined.tracked _ _ tracked, through⟩
  | remembered _ known =>
    obtain ⟨handle, announced, same⟩ := confined.remembered _ _ known
    exact .inl ⟨handle, announced, same⟩
  | pinged _ _ found => exact .inl ⟨_, confined.nodes _ (RoutingTable.node_mem found), rfl⟩
  | nominated nominates => exact .inr ⟨_, rfl, nominates⟩

theorem step (confined : Confined Known server) {result : HttpServer × List Contact}
    (behaves : Behaves server task result) (more : ∀ handle, Known handle → Known' handle)
    (registers : ∀ handle, task.Registers handle → Known' handle) : Confined Known' result.1 where
  nodes upstream member := by
    rcases behaves.nodes upstream member with ⟨before, held, same⟩ | new
    · exact same ▸ more _ (confined.nodes before held)
    · exact registers _ new
  tracked signature handle found := by
    rcases behaves.tracked signature handle found with old | ⟨upstream, member, rfl⟩
    · exact more _ (confined.tracked signature handle old)
    · exact more _ (confined.nodes upstream member)
  remembered hash client found := by
    rcases behaves.remembered hash client found with old | ⟨upstream, member, rfl⟩
    · obtain ⟨handle, announced, same⟩ := confined.remembered hash client old
      exact ⟨handle, more _ announced, same⟩
    · exact ⟨upstream.handle, more _ (confined.nodes upstream member), rfl⟩

theorem reached (run : Run (Guarded Fits Performs) (.start routes) tasks server) :
    Confined (Announced routes tasks) server := by
  induction run with
  | nil => exact start routes
  | snoc _ last ih =>
    obtain ⟨fits, rfl⟩ := last
    refine ih.step (behaves _ fits) ?_ ?_
    · rintro handle (initial | ⟨task, member, registers⟩)
      · exact .inl initial
      · exact .inr ⟨task, List.mem_append_left _ member, registers⟩
    · intro handle registers
      exact .inr ⟨_, List.mem_append_right _ (List.mem_singleton_self _), registers⟩

end Confined

/-- The account of a request is delegated to the sample node. -/
def delegatedQuery : Task :=
  .operation (.accountInfo ⟨()⟩ payerDelegated (fun _ _ (_ : Unit) => .ok ⟨1, some 0⟩) (.repeating 1) none)

/-- A registry notification for the updater. -/
def registryNotice (n : Nat) : Task :=
  .operation (.update Measured.movingLibrary
    (Updater.start Measured.movingLibrary .sample ⟨1⟩ ⟨1⟩ ⟨1⟩).1.subscription []
    (Measured.movingNotice n))

/-- A new node is asked for its identity. -/
example : ((registryNotice 1).perform (.start .sample)).2 =
    [.rpc { url := "https://one.er", target := .er }] := by decide +kernel

def sampleHash : Hash := ⟨List.replicate 32 4, List.length_replicate⟩

/-- The registry announces a node, a blockhash is handed out from it, and the registry
takes it back. -/
def announcedOnce : List Task :=
  [registryNotice 1,
    .operation (.blockhashForAccounts (fun _ => some (.repeating 7)) (fun _ => .ok (sampleHash, 150))
      none [.repeating 1]),
    registryNotice 0]

def validityQuery : Task :=
  .isBlockhashValid ⟨()⟩ (fun _ => .ok sampleHash) (fun _ _ (_ : Unit) => .ok true) "4" none

end Task

end MagicRouter
