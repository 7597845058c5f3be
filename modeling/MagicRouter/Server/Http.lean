import MagicRouter.Cache.Routes
import MagicRouter.Cache.Transactions

/-! The HTTP methods (`server/http.rs`) that route by delegation, by proximity or by what
was routed before: transactions, blockhashes, accounts and the closest node. The
delegation of each account is taken from the delegation cache, here the function
`authority`. -/

namespace MagicRouter

open Library

inductive UiTransactionEncoding where
  | binary
  | base64
  | base58
  | json
  | jsonParsed
  deriving DecidableEq

/-- How the encoding is displayed. -/
def UiTransactionEncoding.display : UiTransactionEncoding → String
  | .binary => "binary"
  | .base64 => "base64"
  | .base58 => "base58"
  | .json => "json"
  | .jsonParsed => "jsonParsed"

structure RpcSendTransactionConfig where
  encoding : Option UiTransactionEncoding
  /-- the fields the router only passes on -/
  rest : String
  deriving DecidableEq

def RpcSendTransactionConfig.default : RpcSendTransactionConfig where
  encoding := none
  rest := ""

/-- A signed transaction; `signature` is the first of its signatures. -/
structure VersionedTransaction where
  signature : Signature
  staticAccountKeys : List Pubkey
  message : List UInt8
  deriving DecidableEq

/-- What the handlers use of other crates. -/
structure TransactionLibrary where
  decodeBase58 : String → Except String (List UInt8)
  decodeBase64 : String → Except String (List UInt8)
  deserialize : List UInt8 → Except String VersionedTransaction
  /-- `VersionedMessage::is_maybe_writable(i, None)` -/
  isMaybeWritable : VersionedTransaction → Nat → Bool
  parseSignature : String → Except String Signature

/-- The error object of a failed request: its code and message, or a router error. -/
inductive HttpError where
  | router (error : RouterError)
  | unsupportedEncoding (code : Nat) (message : String)
  deriving DecidableEq

/-- The methods that ask the upstream of a single account. -/
inductive AccountMethod where
  | accountInfo
  | balance
  | tokenAccountBalance
  | signaturesForAddress
  deriving DecidableEq

/-- A request sent upstream, or an entry the transaction cache gave up. -/
inductive Errand where
  | forward (handle : RemoteHandle) (txn : VersionedTransaction) (ok : Bool)
  | latestBlockhash (client : RpcClient)
  | transaction (client : RpcClient) (signature : Signature)
  | signatureStatuses (client : RpcClient) (signatures : List Signature)
  | blockhashValid (client : RpcClient) (hash : Hash)
  | multipleAccounts (client : RpcClient) (pubkeys : List Pubkey)
  | account (client : RpcClient) (method : AccountMethod) (pubkey : Pubkey)
  | evict (signature : Signature)
  deriving DecidableEq

structure HttpServer where
  routes : RoutingTable
  transactions : ForwardedTransactions
  blockhashes : Store Hash RpcClient
  journal : List Errand

structure Response (Value : Type) where
  slot : Nat
  value : Value

structure RpcBlockhash where
  blockhash : Hash
  lastValidBlockHeight : Nat

structure RpcIdentity where
  identity : Pubkey
  fqdn : String

structure DelegationStatus where
  isDelegated : Bool
  fqdn : Option String
  delegationRecord : Option ParsedDelegationRecord
  deriving DecidableEq

/-- The configuration of a balance request; only its commitment is read. -/
structure RpcContextConfig (Commitment : Type) where
  commitment : Option Commitment

def RpcContextConfig.default {Commitment : Type} : RpcContextConfig Commitment where
  commitment := none

/-- The first and the last transaction of a `getSignaturesForAddress` request, as
`Text` or as a signature, with its other fields. -/
structure SignaturesConfig (Text Commitment : Type) where
  before : Option Text
  «until» : Option Text
  limit : Option Nat
  commitment : Option Commitment

abbrev RpcSignaturesForAddressConfig := SignaturesConfig String

abbrev GetConfirmedSignaturesForAddress2Config := SignaturesConfig Signature

def RpcSignaturesForAddressConfig.default {Commitment : Type} :
    RpcSignaturesForAddressConfig Commitment where
  before := none
  «until» := none
  limit := none
  commitment := none

namespace HttpServer

/-- A server that has handled no request yet. -/
def start (routes : RoutingTable) : HttpServer where
  routes
  transactions := .empty
  blockhashes := ∅
  journal := []

def decodeError (message : String) : HttpError := .router (.decodeError message)

/-- The decoding at the head of `send_transaction`. -/
def decodeTransaction (lib : TransactionLibrary) (txn : String)
    (params : RpcSendTransactionConfig) : Except HttpError VersionedTransaction := do
  let encoding := params.encoding.getD .base58
  let bytes ← match encoding with
    | .base58 | .binary => (lib.decodeBase58 txn).mapError decodeError
    | .base64 => (lib.decodeBase64 txn).mapError decodeError
    | other =>
      throw (.unsupportedEncoding 1 (other.display ++ " transaction encoding is not supported"))
  (lib.deserialize bytes).mapError decodeError

/-- The loop of `send_transaction` over the static account keys from index `i` on. -/
def delegationOf (authority : Pubkey → Option Pubkey) (writable : Nat → Bool) :
    (i : Nat) → List Pubkey → Option Pubkey → Except RouterError (Option Pubkey)
  | _, [], delegation => .ok delegation
  | i, pk :: rest, delegation =>
    if !writable i then delegationOf authority writable (i + 1) rest delegation
    else
      match authority pk with
      | none => delegationOf authority writable (i + 1) rest delegation
      | some validator =>
        match delegation with
        | none => delegationOf authority writable (i + 1) rest (some validator)
        | some old =>
          if old ≠ validator then .error .conflictingDelegations
          else delegationOf authority writable (i + 1) rest (some validator)

/-- The loop of `blockhash_for_accounts`. -/
def delegatedTo (authority : Pubkey → Option Pubkey) :
    List Pubkey → Option Pubkey → Except RouterError (Option Pubkey)
  | [], delegated => .ok delegated
  | pk :: rest, delegated =>
    match authority pk with
    | none => delegatedTo authority rest delegated
    | some validator =>
      match delegated with
      | none => delegatedTo authority rest (some validator)
      | some old =>
        if old ≠ validator then .error .conflictingDelegations
        else delegatedTo authority rest (some validator)

/-- The handle of the upstream to forward to, and the table afterwards. -/
def handleFor (routes : RoutingTable) : Option Pubkey → Except RouterError (RemoteHandle × RoutingTable)
  | some identity =>
    match routes.ephemeralHandle identity with
    | some handle => .ok (handle, routes)
    | none => .error (.unknownErNode identity)
  | none =>
    let (upstream, routes) := routes.baseChain
    .ok ({ rpc := upstream.client, ws := upstream.wsUrl }, routes)

/-- The client to ask for a blockhash, and the table afterwards. -/
def clientFor (routes : RoutingTable) : Option Pubkey → Except RouterError (RpcClient × RoutingTable)
  | some identity =>
    match routes.ephemeralClient identity with
    | some client => .ok (client, routes)
    | none => .error (.unknownErNode identity)
  | none =>
    let (upstream, routes) := routes.baseChain
    .ok (upstream.client, routes)

/-- Record the handle of a forwarded transaction. -/
def track (server : HttpServer) (signature : Signature) (handle : RemoteHandle)
    (evicted : Option Signature) : HttpServer :=
  { server with
    transactions := server.transactions.track signature handle evicted
    journal := server.journal ++
      (server.transactions.cache.givenUp signature evicted).toList.map .evict }

/-- `respond` is the upstream's answer to the forwarded transaction, the returned
signature or an error; `evicted` is the cache entry given up to track it. -/
def sendTransaction (lib : TransactionLibrary) (authority : Pubkey → Option Pubkey)
    (respond : RemoteHandle → Except String String) (evicted : Option Signature)
    (server : HttpServer) (txn : String) (params : Option RpcSendTransactionConfig) :
    Except HttpError String × HttpServer :=
  let params := params.getD .default
  match decodeTransaction lib txn params with
  | .error error => (.error error, server)
  | .ok txn =>
    match delegationOf authority (lib.isMaybeWritable txn) 0 txn.staticAccountKeys none with
    | .error error => (.error (.router error), server)
    | .ok delegation =>
      match handleFor server.routes delegation with
      | .error error => (.error (.router error), server)
      | .ok (handle, routes) =>
        let answer := respond handle
        let server : HttpServer := { server with
          routes, journal := server.journal ++ [.forward handle txn answer.isOk] }
        match answer with
        | .error error => (.error (.router (.rpc error)), server)
        | .ok result => (.ok result, server.track txn.signature handle evicted)

/-- `latest` is the upstream's latest blockhash and last valid slot; `evicted` is the
cached blockhash given up to remember the new one. -/
def blockhashForAccounts (authority : Pubkey → Option Pubkey)
    (latest : RpcClient → Except String (Hash × Nat)) (evicted : Option Hash)
    (server : HttpServer) (accounts : List Pubkey) :
    Except HttpError RpcBlockhash × HttpServer :=
  match delegatedTo authority accounts none with
  | .error error => (.error (.router error), server)
  | .ok delegated =>
    match clientFor server.routes delegated with
    | .error error => (.error (.router error), server)
    | .ok (client, routes) =>
      let server := { server with
        routes, journal := server.journal ++ [.latestBlockhash client] }
      match latest client with
      | .error error => (.error (.router (.rpc error)), server)
      | .ok (hash, slot) =>
        (.ok { blockhash := hash, lastValidBlockHeight := slot },
          { server with
            blockhashes := server.blockhashes.insertEvicting hash client evicted })

/-- `latest` is as above. The second half of the upstream's reply is taken for the
current slot; the sum wraps as `u64` does. -/
def latestBlockhash (now : Nat) (order : List (Pubkey × UpstreamRecord))
    (latest : RpcClient → Except String (Hash × UInt64)) (evicted : Option Hash)
    (server : HttpServer) : Except HttpError (Response RpcBlockhash) × HttpServer :=
  match server.routes.closestNode now order with
  | .error error => (.error (.router error), server)
  | .ok ((_, client), routes) =>
    let server := { server with
      routes, journal := server.journal ++ [.latestBlockhash client] }
    match latest client with
    | .error error => (.error (.router (.rpc error)), server)
    | .ok (hash, slot) =>
      (.ok {
          slot := slot.toNat
          value := { blockhash := hash, lastValidBlockHeight := (slot + 150).toNat } },
        { server with
          blockhashes := server.blockhashes.insertEvicting hash client evicted })

/-- The loop of `multiple_accounts` that sorts the keys by authority, each with its
position in the request. -/
def sortKeys (authority : Pubkey → Option Pubkey) (pubkeys : List Pubkey) :
    Store Pubkey (List (Nat × Pubkey)) × List (Nat × Pubkey) :=
  pubkeys.zipIdx.foldl (fun sorted key =>
    match authority key.1 with
    | some identity => (sorted.1.push identity (key.2, key.1), sorted.2)
    | none => (sorted.1, sorted.2 ++ [(key.2, key.1)])) (∅, [])

/-- A request for the accounts of one authority. -/
structure AccountsRequest where
  client : RpcClient
  pubkeys : List (Nat × Pubkey)

/-- The keys as they are sent. -/
def AccountsRequest.pks (request : AccountsRequest) : List Pubkey :=
  request.pubkeys.map (·.2)

def ephemeralRequest (routes : RoutingTable) (group : Pubkey × List (Nat × Pubkey)) :
    Except RouterError AccountsRequest :=
  match routes.ephemeralClient group.1 with
  | some client => .ok { client, pubkeys := group.2 }
  | none => .error (.unknownErNode group.1)

/-- Put the accounts of one reply at their positions. -/
def scatter {UiAccount : Type} (response : List (Option UiAccount))
    (accounts : List ((Nat × Pubkey) × Option UiAccount)) : List (Option UiAccount) :=
  accounts.foldl (fun response account => response.set account.1.1 account.2) response

/-- The loop of `multiple_accounts` over its requests, in the order they complete. -/
def gather {UiAccount : Type}
    (ask : RpcClient → List Pubkey → Except String (Response (List (Option UiAccount)))) :
    List AccountsRequest → List (Option UiAccount) → Nat →
      Except HttpError (Response (List (Option UiAccount)))
  | [], response, slot => .ok { slot, value := response }
  | request :: rest, response, slot =>
    match ask request.client request.pks with
    | .error error => .error (.router (.rpc error))
    | .ok reply =>
      gather ask rest (scatter response (request.pubkeys.zip reply.value)) (max slot reply.slot)

/-- `ask` is the upstreams' answer; `iteration` is the order in which the groups are
walked through, and `completion` the one in which their requests complete. -/
def multipleAccounts {Config UiAccount : Type} [Inhabited Config]
    (authority : Pubkey → Option Pubkey)
    (ask : RpcClient → List Pubkey → Config → Except String (Response (List (Option UiAccount))))
    (iteration : List (Pubkey × List (Nat × Pubkey)) → List (Pubkey × List (Nat × Pubkey)))
    (completion : List AccountsRequest → List AccountsRequest) (server : HttpServer)
    (pubkeys : List Pubkey) (params : Option Config) :
    Except HttpError (Response (List (Option UiAccount))) × HttpServer :=
  let config := params.getD default
  let (delegated, undelegated) := sortKeys authority pubkeys
  let groups := delegated.entries.map fun group => (group.1, group.2)
  match (iteration groups).mapM (ephemeralRequest server.routes) with
  | .error error => (.error (.router error), server)
  | .ok requests =>
    let (requests, routes) :=
      if undelegated.isEmpty then (requests, server.routes)
      else
        let (chain, routes) := server.routes.baseChain
        (requests ++ [{ client := chain.client, pubkeys := undelegated }], routes)
    let server := { server with
      routes
      journal := server.journal ++ requests.map fun request =>
        .multipleAccounts request.client request.pks }
    (gather (fun client pks => ask client pks config) (completion requests)
      (List.replicate pubkeys.length none) 0, server)

/-- `parse` is `Hash::from_str`, and `ask` the upstream's answer to `isBlockhashValid`. -/
def isBlockhashValid {Config : Type} [Inhabited Config] (parse : String → Except String Hash)
    (ask : RpcClient → Hash → Config → Except String Bool) (server : HttpServer)
    (hash : String) (params : Option Config) : Except HttpError (Response Bool) × HttpServer :=
  match (parse hash).mapError decodeError with
  | .error error => (.error error, server)
  | .ok hash =>
    match server.blockhashes.lookup hash with
    | none => (.ok { slot := 0, value := false }, server)
    | some client =>
      (((ask client hash (params.getD default)).map fun value => { slot := 0, value }).mapError
          fun error => .router (.rpc error),
        { server with journal := server.journal ++ [.blockhashValid client hash] })

/-- `ask` is the upstream's answer to `getTransaction`. -/
def transaction {Config Reply : Type} [Inhabited Config] (lib : TransactionLibrary)
    (ask : RpcClient → Signature → Config → Except String Reply) (server : HttpServer)
    (signature : String) (params : Option Config) :
    Except HttpError (Option Reply) × HttpServer :=
  match (lib.parseSignature signature).mapError decodeError with
  | .error error => (.error error, server)
  | .ok signature =>
    match server.transactions.get signature with
    | none => (.ok none, server)
    | some handle =>
      (((ask handle.rpc signature (params.getD default)).map some).mapError
          fun error => .router (.rpc error),
        { server with journal := server.journal ++ [.transaction handle.rpc signature] })

/-- All signatures are put to the upstream the first of them was forwarded to. -/
def signatureStatuses {Status : Type} (lib : TransactionLibrary)
    (ask : RpcClient → List Signature → Except String (Response (List (Option Status))))
    (server : HttpServer) (signatures : List String) :
    Except HttpError (Response (List (Option Status))) × HttpServer :=
  match signatures.mapM fun text => (lib.parseSignature text).mapError decodeError with
  | .error error => (.error error, server)
  | .ok [] => (.ok { slot := 0, value := [] }, server)
  | .ok (first :: rest) =>
    match server.transactions.get first with
    | none => (.ok { slot := 0, value := [] }, server)
    | some handle =>
      ((ask handle.rpc (first :: rest)).mapError fun error => .router (.rpc error),
        { server with journal := server.journal ++ [.signatureStatuses handle.rpc (first :: rest)] })

def resolveClient (authority : Pubkey → Option Pubkey) (routes : RoutingTable) (pubkey : Pubkey) :
    Except RouterError (RpcClient × RoutingTable) :=
  clientFor routes (authority pubkey)

/-- A request about one account, put to its upstream. -/
def accountQuery {Reply : Type} (method : AccountMethod) (authority : Pubkey → Option Pubkey)
    (ask : RpcClient → Except String Reply) (server : HttpServer) (pubkey : Pubkey) :
    Except HttpError Reply × HttpServer :=
  match resolveClient authority server.routes pubkey with
  | .error error => (.error (.router error), server)
  | .ok (client, routes) =>
    ((ask client).mapError fun error => .router (.rpc error),
      { server with routes, journal := server.journal ++ [.account client method pubkey] })

/-- `ask` is the upstream's answer, here and in the methods that follow. -/
def accountInfo {Config UiAccount : Type} [Inhabited Config] (authority : Pubkey → Option Pubkey)
    (ask : RpcClient → Pubkey → Config → Except String (Response (Option UiAccount)))
    (server : HttpServer) (pubkey : Pubkey) (params : Option Config) :
    Except HttpError (Response (Option UiAccount)) × HttpServer :=
  accountQuery .accountInfo authority (fun client => ask client pubkey (params.getD default))
    server pubkey

def balance {Commitment : Type} [Inhabited Commitment] (authority : Pubkey → Option Pubkey)
    (ask : RpcClient → Pubkey → Commitment → Except String (Response UInt64))
    (server : HttpServer) (pubkey : Pubkey) (params : Option (RpcContextConfig Commitment)) :
    Except HttpError (Response UInt64) × HttpServer :=
  let commitment := (params.getD .default).commitment.getD default
  accountQuery .balance authority (fun client => ask client pubkey commitment) server pubkey

def tokenAccountBalance {Commitment UiTokenAmount : Type} [Inhabited Commitment]
    (authority : Pubkey → Option Pubkey)
    (ask : RpcClient → Pubkey → Commitment → Except String (Response UiTokenAmount))
    (server : HttpServer) (pubkey : Pubkey) (params : Option (RpcContextConfig Commitment)) :
    Except HttpError (Response UiTokenAmount) × HttpServer :=
  let commitment := (params.getD .default).commitment.getD default
  accountQuery .tokenAccountBalance authority (fun client => ask client pubkey commitment)
    server pubkey

def optionalSignature (lib : TransactionLibrary) :
    Option String → Except HttpError (Option Signature)
  | none => .ok none
  | some text => ((lib.parseSignature text).map some).mapError decodeError

/-- The two signatures are decoded only after the client has been resolved. -/
def signaturesForAddress {Commitment Status : Type} (lib : TransactionLibrary)
    (authority : Pubkey → Option Pubkey)
    (ask : RpcClient → Pubkey → GetConfirmedSignaturesForAddress2Config Commitment →
      Except String (List Status))
    (server : HttpServer) (pubkey : Pubkey)
    (config : Option (RpcSignaturesForAddressConfig Commitment)) :
    Except HttpError (List Status) × HttpServer :=
  match resolveClient authority server.routes pubkey with
  | .error error => (.error (.router error), server)
  | .ok (client, routes) =>
    let server := { server with routes }
    let config := config.getD .default
    match optionalSignature lib config.before with
    | .error error => (.error error, server)
    | .ok before =>
      match optionalSignature lib config.until with
      | .error error => (.error error, server)
      | .ok «until» =>
        let config := { before, «until», limit := config.limit, commitment := config.commitment }
        ((ask client pubkey config).mapError fun error => .router (.rpc error),
          { server with
            journal := server.journal ++ [.account client .signaturesForAddress pubkey] })

/-- `now` and `order` are as in `latestBlockhash`. No request is sent. -/
def identity (now : Nat) (order : List (Pubkey × UpstreamRecord)) (server : HttpServer) :
    Except HttpError RpcIdentity × HttpServer :=
  match server.routes.closestNode now order with
  | .error error => (.error (.router error), server)
  | .ok ((identity, client), routes) =>
    (.ok { identity, fqdn := client.url }, { server with routes })

/-- `record` is what `get_record` has returned for the account. No request is sent. -/
def delegationStatus (server : HttpServer) (record : Option ParsedDelegationRecord) :
    Except HttpError DelegationStatus :=
  match record with
  | none => .ok { isDelegated := false, fqdn := none, delegationRecord := none }
  | some found =>
    match server.routes.ephemeralClient found.authority with
    | none => .error (.router (.unknownErNode found.authority))
    | some client =>
      .ok { isDelegated := true, fqdn := some client.url, delegationRecord := some found }

end HttpServer

end MagicRouter
