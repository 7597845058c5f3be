import MagicRouter.Cache.Registry

/-! The background task of the routing table (`RoutingTable::updater`): registry
notifications, proximity pings and the revival of the registry subscription, one
iteration of its loop per event. -/

namespace MagicRouter

open Library

/-- What the updater uses of other crates besides the registry's. -/
structure UpdaterLibrary extends RegistryLibrary where
  /-- `Pubkey::from_str` -/
  pubkeyFromStr : String → Option Pubkey
  /-- deserialization of a `UiAccount`, and `UiAccount::decode` -/
  decodeAccount : Json → Option Account
  /-- `mdp::id()`, the registry program -/
  programId : Pubkey

/-- `deserialize_field`, before the value at the path is converted. -/
def deserializeField (payload : Json) (path : List String) : Option Json :=
  path.foldlM Json.get payload

/-- `deserialize_account` -/
def deserializeAccount (lib : UpdaterLibrary) (payload : Json) (path : List String) :
    Option Account :=
  (deserializeField payload path).bind lib.decodeAccount

/-- `program_subscription_json`, as the updater calls it without a configuration. -/
def programSubscriptionJson (id : RequestId) (pubkey : Pubkey) : SubscriptionPayload :=
  .programSubscribe id pubkey

/-- A `get_identity` request under way. The task itself holds the identity it will
report and the client it asks; `wsUrl` is the URL of the record it took them from. -/
structure Ping where
  pubkey : Pubkey
  client : RpcClient
  wsUrl : Url
  deriving DecidableEq

/-- How a ping ends: with its duration, at the given time, or as an error. -/
inductive PingResult where
  | ok (duration now : Nat)
  | err
  deriving DecidableEq

/-- What the result of a ping does to a record. -/
def UpstreamRecord.settle (record : UpstreamRecord) : PingResult → UpstreamRecord
  | .ok duration now => record.updateProximity duration now
  | .err => record.registerPingFailure

/-- The state of the updater's loop. -/
structure Updater where
  table : RoutingTable
  subscription : Subscription
  pings : List Ping

/-- The branch of the loop's `select!` that is taken. -/
inductive UpdaterEvent where
  /-- a message for the updater; `probe` answers the `get_identity` request made
  while a registry record is inserted -/
  | message (msg : PubsubMessage) (probe : Bool)
  /-- the ping at this position ends; they end in any order -/
  | ping (index : Nat) (result : PingResult)
  | tick

/-- What one iteration sends. -/
structure UpdaterOutput where
  announced : List WsUpstreamState
  dispatched : List Subscription

def UpdaterOutput.silent : UpdaterOutput where
  announced := []
  dispatched := []

namespace Updater

/-- The updater before its loop, with the subscription it dispatches at once. -/
def start (lib : UpdaterLibrary) (table : RoutingTable) (requestId : RequestId)
    (subscriberId : SubscriberId) (tx : Channel) : Updater × UpdaterOutput :=
  let (chain, table) := table.baseChain
  let subscription : Subscription := {
    requestId, subscriberId, tx
    payload := programSubscriptionJson requestId lib.programId
    destination := chain.wsUrl
    upstream := .chain }
  ({ table, subscription, pings := [] }, { UpdaterOutput.silent with dispatched := [subscription] })

/-- The account a notification reports, under its key. -/
def notified (lib : UpdaterLibrary) (payload : Json) : Option (Pubkey × Account) := do
  let key ← (deserializeField payload ["value", "pubkey"]).bind Json.asStr
  let pubkey ← lib.pubkeyFromStr key
  let account ← deserializeAccount lib payload ["value", "account"]
  return (pubkey, account)

/-- The client of the node whose record is notified. It is asked for its identity before
the table is looked at. -/
def probed (lib : UpdaterLibrary) (payload : Json) : Option RpcClient := do
  let (_, account) ← notified lib payload
  let record ← lib.deserialize account.data
  let fqdn ← lib.parse record.addr
  return { url := fqdn.asStr, target := .er }

def receive (lib : UpdaterLibrary) (u : Updater) (msg : PubsubMessage) (probe : Bool) :
    Updater × UpdaterOutput :=
  match msg with
  | .subscribed _ => (u, .silent)
  | .notification _ _ payload =>
    match notified lib payload with
    | none => (u, .silent)
    | some (pubkey, account) =>
      let (table, announced) := u.table.insertEntry lib.toRegistryLibrary pubkey account probe
      ({ u with table }, { UpdaterOutput.silent with announced })
  | .disconnected _ =>
    -- the same request is dispatched again, to the base-chain upstream whose turn it is
    let (chain, table) := u.table.baseChain
    let subscription := { u.subscription with destination := chain.wsUrl }
    ({ u with table, subscription }, { UpdaterOutput.silent with dispatched := [subscription] })

/-- The result of a ping goes to whatever record its identity has by now. -/
def settle (u : Updater) (pubkey : Pubkey) (result : PingResult) : Updater :=
  match u.table.inner.lookup pubkey with
  | none => u
  | some record =>
    { u with table := { u.table with inner := u.table.inner.insert pubkey (record.settle result) } }

/-- One ping per record of the table. -/
def launch (u : Updater) : List Ping :=
  u.table.inner.entries.map fun entry =>
    { pubkey := entry.1, client := entry.2.client, wsUrl := entry.2.wsUrl }

def handle (lib : UpdaterLibrary) (u : Updater) (event : UpdaterEvent) :
    Option (Updater × UpdaterOutput) :=
  match event with
  | .message msg probe => some (u.receive lib msg probe)
  | .ping index result =>
    match u.pings[index]? with
    | none => none
    | some ping =>
      let rest := { u with pings := u.pings.eraseIdx index }
      some (rest.settle ping.pubkey result, .silent)
  | .tick =>
    if u.table.staticErIdentity.isSome then some (u, .silent)
    else some ({ u with pings := u.pings ++ u.launch }, .silent)

end Updater

end MagicRouter
