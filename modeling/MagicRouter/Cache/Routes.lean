import MagicRouter.Library.Store
import MagicRouter.Pubsub.Subscription

/-! The routing table (`cache/routes.rs`): ER nodes by identity, the registry PDA
each one came from, and the base-chain upstreams served round-robin. -/

namespace MagicRouter

open Library

/-- Status of a registry record; the router only tells `Active` from the others. -/
inductive ErStatus where
  | active
  | inactive (variant : Nat)
  deriving DecidableEq

/-- A record of the on-chain domain registry. -/
structure ErRecord where
  identity : Pubkey
  status : ErStatus
  blockTimeMs : UInt16
  baseFee : UInt16
  countryCode : String
  addr : String
  deriving DecidableEq

structure RouteInfo where
  identity : Pubkey
  fqdn : String
  baseFee : UInt16
  blockTimeMs : UInt16
  countryCode : String
  deriving DecidableEq

/-- `RouteInfo::from(&ErRecord)` -/
def RouteInfo.ofRecord (record : ErRecord) : RouteInfo where
  identity := record.identity
  fqdn := record.addr
  baseFee := record.baseFee
  blockTimeMs := record.blockTimeMs
  countryCode := record.countryCode

/-- What the table uses of other crates: borsh decoding of registry accounts
and URLs. -/
structure RegistryLibrary extends UrlLibrary where
  deserialize : List UInt8 → Option ErRecord

/-- An account as the base chain reports it. -/
structure Account where
  lamports : Nat
  data : List UInt8
  deriving DecidableEq

structure UpstreamRecord where
  client : RpcClient
  wsUrl : Url
  proximityMicros : UInt64
  lastProximityUpdate : Option Nat
  consecutivePingFailures : UInt8
  info : Option RouteInfo
  deriving DecidableEq

/-- `u64::MAX`, the proximity of a node that was never reached. -/
def unknownProximity : UInt64 := UInt64.ofNat (UInt64.size - 1)

def MAX_PROXIMITY_PING_FAILURES : UInt8 := 3

def STALE_PROXIMITY_MULTIPLIER : Nat := 3

namespace UpstreamRecord

/-- A record as it is first built, of a node that was never pinged. -/
def fresh (client : RpcClient) (wsUrl : Url) (info : Option RouteInfo) : UpstreamRecord where
  client
  wsUrl
  proximityMicros := unknownProximity
  lastProximityUpdate := none
  consecutivePingFailures := 0
  info

/-- `probe` is the outcome of the `get_identity` request made on the way. -/
def newFromUrl (lib : UrlLibrary) (probe : Bool) (fqdn : Url) (info : Option RouteInfo) :
    Option UpstreamRecord :=
  let target := if info.isSome then Target.er else Target.chain
  let client : RpcClient := { url := fqdn.asStr, target }
  if probe then
    let scheme := if fqdn.scheme = "https" then "wss" else "ws"
    (lib.setScheme fqdn scheme).map fun wsUrl => fresh client wsUrl info
  else none

def newFromErRecord (lib : UrlLibrary) (probe : Bool) (record : ErRecord) :
    Option UpstreamRecord := do
  let fqdn ← lib.parse record.addr
  newFromUrl lib probe fqdn (some (RouteInfo.ofRecord record))

def hasFreshProximity (record : UpstreamRecord) (now staleAfter : Nat) : Bool :=
  if record.consecutivePingFailures ≥ MAX_PROXIMITY_PING_FAILURES then false
  else
    match record.lastProximityUpdate with
    | none => false
    | some updatedAt => decide (now - updatedAt ≤ staleAfter)

/-- `duration` in microseconds is cut to 64 bits; the average wraps as `u64` does. -/
def updateProximity (record : UpstreamRecord) (duration now : Nat) : UpstreamRecord :=
  let last := UInt64.ofNat duration
  { record with
    proximityMicros :=
      if record.proximityMicros = unknownProximity then last
      else (record.proximityMicros * 85 + last * 15) / 100
    lastProximityUpdate := some now
    consecutivePingFailures := 0 }

def registerPingFailure (record : UpstreamRecord) : UpstreamRecord :=
  let failures := if record.consecutivePingFailures = 255 then 255
    else record.consecutivePingFailures + 1
  { record with
    consecutivePingFailures := failures
    proximityMicros :=
      if failures ≥ MAX_PROXIMITY_PING_FAILURES then unknownProximity
      else record.proximityMicros }

end UpstreamRecord

/-- The base-chain upstreams. A table without any cannot be built, because its
construction already asks the base chain for the registry. -/
structure BaseChainUpstreams where
  upstreams : List UpstreamRecord
  next : Nat
  next_lt : next < upstreams.length

structure RoutingTable where
  inner : Store Pubkey UpstreamRecord
  pdaToIdentity : Store Pubkey Pubkey
  baseChainUpstreams : BaseChainUpstreams
  proximityStaleAfter : Nat
  staticErIdentity : Option Pubkey

namespace RoutingTable

def ephemeralClient (table : RoutingTable) (identity : Pubkey) : Option RpcClient :=
  (table.inner.lookup identity).map (·.client)

def ephemeralHandle (table : RoutingTable) (identity : Pubkey) : Option RemoteHandle :=
  (table.inner.lookup identity).map fun record => { rpc := record.client, ws := record.wsUrl }

/-- The upstream whose turn it is, and the table with the turn passed on. -/
def baseChain (table : RoutingTable) : UpstreamRecord × RoutingTable :=
  let chain := table.baseChainUpstreams
  (chain.upstreams.get ⟨chain.next, chain.next_lt⟩,
    { table with baseChainUpstreams := {
        upstreams := chain.upstreams
        next := (chain.next + 1) % chain.upstreams.length
        next_lt := Nat.mod_lt _ (Nat.lt_of_le_of_lt (Nat.zero_le _) chain.next_lt) } })

/-- One iteration of the loop of `closest_node`. -/
def closer (now staleAfter : Nat) (closest : (Pubkey × RpcClient) × UInt64)
    (node : Pubkey × UpstreamRecord) : (Pubkey × RpcClient) × UInt64 :=
  if !node.2.hasFreshProximity now staleAfter then closest
  else if closest.2 ≤ node.2.proximityMicros then closest
  else ((node.1, node.2.client), node.2.proximityMicros)

/-- `closest_node`, for one iteration order of the table's nodes. -/
def closestNode (table : RoutingTable) (now : Nat) (order : List (Pubkey × UpstreamRecord)) :
    Except RouterError ((Pubkey × RpcClient) × RoutingTable) :=
  match table.staticErIdentity with
  | some identity =>
    match table.inner.lookup identity with
    | none => .error (.unknownErNode identity)
    | some record => .ok ((identity, record.client), table)
  | none =>
    let (upstream, table) := table.baseChain
    let closest := order.foldl (closer now table.proximityStaleAfter)
      ((Pubkey.default, upstream.client), unknownProximity)
    .ok (closest.1, table)

def allRoutes (table : RoutingTable) : List RouteInfo :=
  table.inner.entries.filterMap fun entry => entry.2.info

/-- `remove_entry`, with the upstream state it announces. -/
def removeEntry (table : RoutingTable) (pda : Pubkey) : RoutingTable × List WsUpstreamState :=
  match table.pdaToIdentity.lookup pda with
  | none => (table, [])
  | some identity =>
    let table := { table with pdaToIdentity := table.pdaToIdentity.erase pda }
    match table.inner.lookup identity with
    | none => (table, [])
    | some upstream =>
      ({ table with inner := table.inner.erase identity },
        [{ isOnline := false, url := upstream.wsUrl, target := .ephem }])

/-- Proximity is carried over when the node is known under the same URL. -/
def carryProximity (table : RoutingTable) (identity : Pubkey) (upstream : UpstreamRecord) :
    UpstreamRecord :=
  match table.inner.lookup identity with
  | none => upstream
  | some current =>
    if current.wsUrl.asStr = upstream.wsUrl.asStr then
      { upstream with
        proximityMicros := current.proximityMicros
        lastProximityUpdate := current.lastProximityUpdate
        consecutivePingFailures := current.consecutivePingFailures }
    else upstream

/-- `insert_entry`, with the upstream states it announces. -/
def insertEntry (lib : RegistryLibrary) (table : RoutingTable) (pubkey : Pubkey)
    (account : Account) (probe : Bool) : RoutingTable × List WsUpstreamState :=
  match lib.deserialize account.data with
  | none => if account.lamports = 0 then table.removeEntry pubkey else (table, [])
  | some record =>
    match UpstreamRecord.newFromErRecord lib.toUrlLibrary probe record with
    | none => (table, [])
    | some upstream =>
      let identity := record.identity
      let upstream := table.carryProximity identity upstream
      ({ table with
          -- both insertions leave an existing key as it is, and their results are discarded
          pdaToIdentity := table.pdaToIdentity.insertNew pubkey identity
          inner := table.inner.insertNew identity upstream },
        [{ isOnline := record.status = .active, url := upstream.wsUrl, target := .ephem }])

/-- A node of the sample table below. -/
def sampleNode : UpstreamRecord :=
  .fresh { url := "https://node.er/", target := .er } { scheme := "wss", rest := "//node.er/" } none

def sampleChain : UpstreamRecord :=
  .fresh { url := "https://chain/", target := .chain } { scheme := "wss", rest := "//chain/" } none

/-- A table to run the model on: the node of identity 9 and one base-chain upstream. -/
def sample : RoutingTable where
  inner := (∅ : Store Pubkey UpstreamRecord).insert (.repeating 9) sampleNode
  pdaToIdentity := ∅
  baseChainUpstreams := { upstreams := [sampleChain], next := 0, next_lt := by decide }
  proximityStaleAfter := 0
  staticErIdentity := none

theorem sample_node : sample.inner.lookup (.repeating 9) = some sampleNode :=
  AList.lookup_insert _

end RoutingTable

end MagicRouter
