import MagicRouter.Library.Agreement
import MagicRouter.Server.Http

/-! The two routing loops decide alike. Both are counts of the authorities their
accounts are delegated to, so both follow one specification that mentions neither
the order nor the repetitions of the accounts. -/

namespace MagicRouter

open Library

/-- The upstreams a journal sends transactions to, with the transactions. -/
def Errand.forwarded : Errand → Option (RemoteHandle × VersionedTransaction)
  | .forward handle txn _ => some (handle, txn)
  | _ => none

/-- The clients a journal asks for a blockhash. -/
def Errand.asked : Errand → Option RpcClient
  | .latestBlockhash client => some client
  | _ => none

def UpstreamRecord.handle (upstream : UpstreamRecord) : RemoteHandle where
  rpc := upstream.client
  ws := upstream.wsUrl

namespace HttpServer

variable {lib : TransactionLibrary} {authority : Pubkey → Option Pubkey}
variable {keys accounts : List Pubkey} {routes : RoutingTable} {outcome : Agreement Pubkey}

/-- The writable static account keys of a transaction. -/
def writableKeys (lib : TransactionLibrary) (txn : VersionedTransaction) : List Pubkey :=
  (txn.staticAccountKeys.zipIdx.filter fun entry => lib.isMaybeWritable txn entry.2).map (·.1)

/-- The identities that accounts are delegated to. -/
def authorities (authority : Pubkey → Option Pubkey) (keys : List Pubkey) : Set Pubkey :=
  {identity | ∃ pk ∈ keys, authority pk = some identity}

/-- Two of the accounts are delegated to different identities. -/
def Conflicting (authority : Pubkey → Option Pubkey) (keys : List Pubkey) : Prop :=
  ∃ first ∈ authorities authority keys, ∃ second ∈ authorities authority keys, first ≠ second

/-- How a request on the accounts `keys` has to be routed. `Contacted` says that the
request went to an upstream, `untouched` that nothing was done at all. -/
structure RoutesBy {Reply : Type} (authority : Pubkey → Option Pubkey) (routes : RoutingTable)
    (keys : List Pubkey) (result : Except HttpError Reply) (Contacted : UpstreamRecord → Prop)
    (untouched : Prop) : Prop where
  conflicting : result = .error (.router .conflictingDelegations) ↔ Conflicting authority keys
  unknown : ∀ identity, result = .error (.router (.unknownErNode identity)) ↔
    ¬Conflicting authority keys ∧ identity ∈ authorities authority keys ∧ identity ∉ routes.inner
  ephemeral : ¬Conflicting authority keys → ∀ identity ∈ authorities authority keys,
    ∀ upstream, routes.inner.lookup identity = some upstream → Contacted upstream
  chain : (∀ pk ∈ keys, authority pk = none) →
    ∃ upstream ∈ routes.baseChainUpstreams.upstreams, Contacted upstream
  refused : ∀ error, error = .conflictingDelegations ∨ (∃ identity, error = .unknownErNode identity) →
    result = .error (.router error) → untouched

/-- The choice an outcome of the count stands for. -/
def verdict : Agreement Pubkey → Except RouterError (Option Pubkey)
  | .conflict => .error .conflictingDelegations
  | .unanimous identity => .ok (some identity)
  | .silent => .ok none

theorem delegatedTo_eq_count (held : Option Pubkey) :
    delegatedTo authority accounts held =
      verdict (Agreement.count held (accounts.map authority)) := by
  induction accounts generalizing held with
  | nil => cases held <;> rfl
  | cons pk rest ih =>
    cases found : authority pk with
    | none => simp [delegatedTo, Agreement.count, found, ih]
    | some validator =>
      cases held with
      | none => simp [delegatedTo, Agreement.count, found, ih]
      | some old =>
        by_cases same : old = validator
        · simp [delegatedTo, Agreement.count, found, same, ih]
        · simp [delegatedTo, Agreement.count, found, same, verdict]

/-- The loop of `send_transaction` is the one of `blockhash_for_accounts` over the
keys it does not skip. -/
theorem delegationOf_eq_delegatedTo (writable : Nat → Bool) (i : Nat) (held : Option Pubkey) :
    delegationOf authority writable i keys held =
      delegatedTo authority (((keys.zipIdx i).filter fun entry => writable entry.2).map (·.1)) held := by
  induction keys generalizing i held with
  | nil => rfl
  | cons pk rest ih =>
    cases kept : writable i with
    | false => simp [delegationOf, kept, ih]
    | true =>
      cases found : authority pk with
      | none => simp [delegationOf, delegatedTo, kept, found, ih]
      | some validator =>
        cases held with
        | none => simp [delegationOf, delegatedTo, kept, found, ih]
        | some old => simp [delegationOf, delegatedTo, kept, found, ih]

theorem authorities_eq_of_same (same : ∀ pk, pk ∈ accounts ↔ pk ∈ keys) :
    authorities authority accounts = authorities authority keys := by
  ext identity
  simp [authorities, same]

/-- The count finds what the set of authorities amounts to. -/
theorem count_authorities (authority : Pubkey → Option Pubkey) (keys : List Pubkey) :
    (Agreement.count none (keys.map authority)).Of (authorities authority keys) := by
  have counted := Agreement.count_of none (keys.map authority)
  have same : {identity | none = some identity ∨ some identity ∈ keys.map authority} =
      authorities authority keys := by
    ext identity
    simp [authorities]
  rwa [same] at counted

/-- Whatever list spells the accounts, the loop decides by the set of authorities. -/
theorem delegatedTo_of_authorities (agreed : outcome.Of (authorities authority keys))
    (same : ∀ pk, pk ∈ accounts ↔ pk ∈ keys) :
    delegatedTo authority accounts none = verdict outcome := by
  have counted := count_authorities authority accounts
  rw [authorities_eq_of_same same] at counted
  rw [delegatedTo_eq_count, counted.unique agreed]

/-- The upstream chosen for an outcome, and the table afterwards. -/
def pick (routes : RoutingTable) : Agreement Pubkey → Except RouterError (UpstreamRecord × RoutingTable)
  | .conflict => .error .conflictingDelegations
  | .unanimous identity =>
    match routes.inner.lookup identity with
    | some upstream => .ok (upstream, routes)
    | none => .error (.unknownErNode identity)
  | .silent => .ok routes.baseChain

theorem handleFor_verdict (routes : RoutingTable) (outcome : Agreement Pubkey) :
    (verdict outcome).bind (handleFor routes) =
      (pick routes outcome).map fun chosen => (chosen.1.handle, chosen.2) := by
  cases outcome with
  | conflict => rfl
  | unanimous identity =>
    cases found : routes.inner.lookup identity with
    | none =>
      simp [verdict, Except.bind, handleFor, pick, RoutingTable.ephemeralHandle, found, Except.map]
    | some upstream =>
      simp [verdict, Except.bind, handleFor, pick, RoutingTable.ephemeralHandle, found, Except.map,
        UpstreamRecord.handle]
  | silent => rfl

theorem clientFor_verdict (routes : RoutingTable) (outcome : Agreement Pubkey) :
    (verdict outcome).bind (clientFor routes) =
      (pick routes outcome).map fun chosen => (chosen.1.client, chosen.2) := by
  cases outcome with
  | conflict => rfl
  | unanimous identity =>
    cases found : routes.inner.lookup identity with
    | none =>
      simp [verdict, Except.bind, clientFor, pick, RoutingTable.ephemeralClient, found, Except.map]
    | some upstream =>
      simp [verdict, Except.bind, clientFor, pick, RoutingTable.ephemeralClient, found, Except.map]
  | silent => rfl

section RoutesBy

variable {Reply : Type} {result : Except HttpError Reply} {Contacted : UpstreamRecord → Prop}
variable {untouched : Prop}

/-- The request reached an upstream: it can only have failed there. -/
def Answered (result : Except HttpError Reply) : Prop :=
  ∀ error, result = .error error → ∃ message, error = .router (.rpc message)

theorem Answered.not_refused {error : RouterError} (answered : Answered result)
    (refusal : error = .conflictingDelegations ∨ ∃ identity, error = .unknownErNode identity) :
    result ≠ .error (.router error) := by
  intro failed
  obtain ⟨message, same⟩ := answered _ failed
  rcases refusal with rfl | ⟨identity, rfl⟩
  · simp at same
  · simp at same

private theorem RoutesBy.of_conflict (conflict : Conflicting authority keys)
    (failed : result = .error (.router .conflictingDelegations)) (kept : untouched) :
    RoutesBy authority routes keys result Contacted untouched where
  conflicting := by simp [failed, conflict]
  unknown := by simp [failed, conflict]
  ephemeral calm := absurd conflict calm
  chain undelegated := by
    obtain ⟨first, ⟨pk, member, delegated⟩, _⟩ := conflict
    simp [undelegated pk member] at delegated
  refused _ _ _ := kept

private theorem RoutesBy.of_unknown {identity : Pubkey}
    (agreed : (Agreement.unanimous identity).Of (authorities authority keys))
    (missing : identity ∉ routes.inner)
    (failed : result = .error (.router (.unknownErNode identity))) (kept : untouched) :
    RoutesBy authority routes keys result Contacted untouched where
  conflicting := iff_of_false (by simp [failed]) agreed.not_conflict
  unknown other := by
    constructor
    · intro same
      obtain rfl : identity = other := by simpa [failed] using same
      exact ⟨agreed.not_conflict, agreed.1, missing⟩
    · rintro ⟨_, member, _⟩
      rw [agreed.2 other member, failed]
  ephemeral _ other member upstream known := by
    rw [agreed.2 other member] at known
    exact absurd (AList.lookup_isSome.mp (by simp [known])) missing
  chain undelegated := by
    obtain ⟨⟨pk, member, delegated⟩, _⟩ := agreed
    simp [undelegated pk member] at delegated
  refused _ _ _ := kept

private theorem RoutesBy.of_ephemeral {identity : Pubkey} {upstream : UpstreamRecord}
    (agreed : (Agreement.unanimous identity).Of (authorities authority keys))
    (found : routes.inner.lookup identity = some upstream) (contacted : Contacted upstream)
    (answered : Answered result) : RoutesBy authority routes keys result Contacted untouched where
  conflicting := iff_of_false (answered.not_refused (.inl rfl)) agreed.not_conflict
  unknown other := by
    refine iff_of_false (answered.not_refused (.inr ⟨other, rfl⟩)) ?_
    rintro ⟨_, member, missing⟩
    rw [agreed.2 other member] at missing
    exact missing (AList.lookup_isSome.mp (by simp [found]))
  ephemeral _ other member known same := by
    rw [agreed.2 other member, found] at same
    cases same
    exact contacted
  chain undelegated := by
    obtain ⟨⟨pk, member, delegated⟩, _⟩ := agreed
    simp [undelegated pk member] at delegated
  refused _ refusal failed := absurd failed (answered.not_refused refusal)

private theorem RoutesBy.of_chain (agreed : Agreement.silent.Of (authorities authority keys))
    (contacted : Contacted routes.baseChain.1) (answered : Answered result) :
    RoutesBy authority routes keys result Contacted untouched where
  conflicting := iff_of_false (answered.not_refused (.inl rfl))
    fun ⟨first, cast, _⟩ => agreed first cast
  unknown other := iff_of_false (answered.not_refused (.inr ⟨other, rfl⟩))
    fun ⟨_, member, _⟩ => agreed other member
  ephemeral _ other member := absurd member (agreed other)
  chain _ := ⟨_, List.get_mem _ _, contacted⟩
  refused _ refusal failed := absurd failed (answered.not_refused refusal)

/-- A request that goes where the count tells it to is routed as specified. -/
theorem RoutesBy.of_pick (agreed : outcome.Of (authorities authority keys))
    (refusing : ∀ error, pick routes outcome = .error error →
      result = .error (.router error) ∧ untouched)
    (going : ∀ upstream after, pick routes outcome = .ok (upstream, after) →
      Contacted upstream ∧ Answered result) :
    RoutesBy authority routes keys result Contacted untouched := by
  cases outcome with
  | conflict =>
    obtain ⟨failed, kept⟩ := refusing .conflictingDelegations rfl
    exact .of_conflict agreed failed kept
  | unanimous identity =>
    cases found : routes.inner.lookup identity with
    | none =>
      obtain ⟨failed, kept⟩ := refusing (.unknownErNode identity) (by simp [pick, found])
      exact .of_unknown agreed (AList.lookup_eq_none.mp found) failed kept
    | some upstream =>
      obtain ⟨contacted, answered⟩ := going upstream routes (by simp [pick, found])
      exact .of_ephemeral agreed found contacted answered
  | silent =>
    obtain ⟨contacted, answered⟩ := going routes.baseChain.1 routes.baseChain.2 rfl
    exact .of_chain agreed contacted answered

end RoutesBy

section Send

variable {respond : RemoteHandle → Except String String} {evicted : Option Signature}
variable {server : HttpServer} {txn : String} {params : Option RpcSendTransactionConfig}
variable {message : VersionedTransaction}

/-- The transactions sent upstream so far. -/
def forwards (server : HttpServer) : List (RemoteHandle × VersionedTransaction) :=
  server.journal.filterMap Errand.forwarded

theorem forwards_track (signature : Signature) (handle : RemoteHandle) :
    (server.track signature handle evicted).forwards = server.forwards := by
  cases given : server.transactions.cache.givenUp signature evicted with
  | none => simp [track, forwards, given]
  | some victim => simp [track, forwards, given, Errand.forwarded]

/-- The choice `send_transaction` makes after decoding. -/
theorem handleFor_sent (routes : RoutingTable)
    (agreed : outcome.Of (authorities authority (writableKeys lib message))) :
    (delegationOf authority (lib.isMaybeWritable message) 0 message.staticAccountKeys none).bind
        (handleFor routes) =
      (pick routes outcome).map fun chosen => (chosen.1.handle, chosen.2) := by
  have chosen := delegatedTo_of_authorities agreed fun _ => Iff.rfl
  rw [delegationOf_eq_delegatedTo, ← handleFor_verdict, ← chosen]
  rfl

theorem sendTransaction_refused {error : RouterError}
    (decoded : decodeTransaction lib txn (params.getD .default) = .ok message)
    (refused : (delegationOf authority (lib.isMaybeWritable message) 0
      message.staticAccountKeys none).bind (handleFor server.routes) = .error error) :
    sendTransaction lib authority respond evicted server txn params =
      (.error (.router error), server) := by
  simp only [sendTransaction, decoded]
  cases found : delegationOf authority (lib.isMaybeWritable message) 0 message.staticAccountKeys none with
  | error conflict =>
    rw [found] at refused
    cases refused
    rfl
  | ok delegation =>
    rw [found] at refused
    have missing : handleFor server.routes delegation = .error error := refused
    simp [missing]

theorem sendTransaction_made {handle : RemoteHandle} {after : RoutingTable}
    (decoded : decodeTransaction lib txn (params.getD .default) = .ok message)
    (made : (delegationOf authority (lib.isMaybeWritable message) 0
      message.staticAccountKeys none).bind (handleFor server.routes) = .ok (handle, after)) :
    sendTransaction lib authority respond evicted server txn params =
      let sent : HttpServer := { server with
        routes := after
        journal := server.journal ++ [.forward handle message (respond handle).isOk] }
      match respond handle with
      | .error error => (.error (.router (.rpc error)), sent)
      | .ok result => (.ok result, sent.track message.signature handle evicted) := by
  simp only [sendTransaction, decoded]
  cases found : delegationOf authority (lib.isMaybeWritable message) 0 message.staticAccountKeys none with
  | error conflict =>
    rw [found] at made
    cases made
  | ok delegation =>
    rw [found] at made
    have known : handleFor server.routes delegation = .ok (handle, after) := made
    cases answer : respond handle with
    | error failure => simp [known, answer]
    | ok result => simp [known, answer]

private theorem sendTransaction_forwards {handle : RemoteHandle} {after : RoutingTable}
    (decoded : decodeTransaction lib txn (params.getD .default) = .ok message)
    (made : (delegationOf authority (lib.isMaybeWritable message) 0
      message.staticAccountKeys none).bind (handleFor server.routes) = .ok (handle, after)) :
    (sendTransaction lib authority respond evicted server txn params).2.forwards =
        server.forwards ++ [(handle, message)] ∧
      Answered (sendTransaction lib authority respond evicted server txn params).1 := by
  rw [sendTransaction_made decoded made]
  cases respond handle with
  | error failure => simp [forwards, Errand.forwarded, Answered]
  | ok result =>
    simp only [forwards_track]
    simp [forwards, Errand.forwarded, Answered]

theorem sendTransaction_routesBy
    (decoded : decodeTransaction lib txn (params.getD .default) = .ok message) :
    RoutesBy authority server.routes (writableKeys lib message)
      (sendTransaction lib authority respond evicted server txn params).1
      (fun upstream => (sendTransaction lib authority respond evicted server txn params).2.forwards =
        server.forwards ++ [(upstream.handle, message)])
      ((sendTransaction lib authority respond evicted server txn params).2 = server) := by
  have agreed := count_authorities authority (writableKeys lib message)
  have chosen := handleFor_sent server.routes agreed
  refine .of_pick agreed (fun error refused => ?_) (fun upstream after made => ?_)
  · rw [sendTransaction_refused decoded (by rw [chosen, refused]; rfl)]
    exact ⟨rfl, rfl⟩
  · exact sendTransaction_forwards decoded (by rw [chosen, made]; rfl)

end Send

section Blockhash

variable {latest : RpcClient → Except String (Hash × Nat)} {given : Option Hash}
variable {server : HttpServer}

/-- The clients asked for a blockhash so far. -/
def asks (server : HttpServer) : List RpcClient :=
  server.journal.filterMap Errand.asked

theorem blockhashForAccounts_refused {error : RouterError}
    (refused : (delegatedTo authority accounts none).bind (clientFor server.routes) = .error error) :
    blockhashForAccounts authority latest given server accounts = (.error (.router error), server) := by
  simp only [blockhashForAccounts]
  cases found : delegatedTo authority accounts none with
  | error conflict =>
    rw [found] at refused
    cases refused
    rfl
  | ok delegated =>
    rw [found] at refused
    have missing : clientFor server.routes delegated = .error error := refused
    simp [missing]

theorem blockhashForAccounts_made {client : RpcClient} {after : RoutingTable}
    (made : (delegatedTo authority accounts none).bind (clientFor server.routes) =
      .ok (client, after)) :
    (blockhashForAccounts authority latest given server accounts).2.asks = server.asks ++ [client] ∧
      Answered (blockhashForAccounts authority latest given server accounts).1 := by
  simp only [blockhashForAccounts]
  cases found : delegatedTo authority accounts none with
  | error conflict =>
    rw [found] at made
    cases made
  | ok delegated =>
    rw [found] at made
    have known : clientFor server.routes delegated = .ok (client, after) := made
    cases answer : latest client with
    | error failure => simp [known, answer, asks, Errand.asked, Answered]
    | ok reply => simp [known, answer, asks, Errand.asked, Answered]

theorem blockhashForAccounts_routesBy (same : ∀ pk, pk ∈ accounts ↔ pk ∈ keys) :
    RoutesBy authority server.routes keys
      (blockhashForAccounts authority latest given server accounts).1
      (fun upstream => (blockhashForAccounts authority latest given server accounts).2.asks =
        server.asks ++ [upstream.client])
      ((blockhashForAccounts authority latest given server accounts).2 = server) := by
  have agreed := count_authorities authority keys
  have chosen := clientFor_verdict server.routes (Agreement.count none (keys.map authority))
  rw [← delegatedTo_of_authorities agreed same] at chosen
  refine .of_pick agreed (fun error refused => ?_) (fun upstream after made => ?_)
  · rw [blockhashForAccounts_refused (by rw [chosen, refused]; rfl)]
    exact ⟨rfl, rfl⟩
  · exact blockhashForAccounts_made (by rw [chosen, made]; rfl)

end Blockhash

/-- The specification looks at the nodes and the base-chain upstreams of a table, not
at whose turn it is. -/
theorem RoutesBy.congr {Reply : Type} {result : Except HttpError Reply}
    {Contacted : UpstreamRecord → Prop} {untouched : Prop} {other : RoutingTable}
    (routed : RoutesBy authority routes keys result Contacted untouched)
    (nodes : routes.inner = other.inner)
    (chain : routes.baseChainUpstreams.upstreams = other.baseChainUpstreams.upstreams) :
    RoutesBy authority other keys result Contacted untouched where
  conflicting := routed.conflicting
  unknown := nodes ▸ routed.unknown
  ephemeral := nodes ▸ routed.ephemeral
  chain := chain ▸ routed.chain
  refused := routed.refused

/-- Sending a transaction and asking for the blockhash of its writable accounts, in
any order and with any repetitions, are routed by the same specification, also when
the turn of the base-chain upstreams has passed on in between. -/
theorem send_and_blockhash_routed_alike (lib : TransactionLibrary)
    (authority : Pubkey → Option Pubkey) (respond : RemoteHandle → Except String String)
    (evicted : Option Signature) (latest : RpcClient → Except String (Hash × Nat))
    (given : Option Hash) (server : HttpServer) (txn : String)
    (params : Option RpcSendTransactionConfig) (message : VersionedTransaction)
    (decoded : decodeTransaction lib txn (params.getD .default) = .ok message) :
    RoutesBy authority server.routes (writableKeys lib message)
        (sendTransaction lib authority respond evicted server txn params).1
        (fun upstream =>
          (sendTransaction lib authority respond evicted server txn params).2.forwards =
            server.forwards ++ [(upstream.handle, message)])
        ((sendTransaction lib authority respond evicted server txn params).2 = server) ∧
      ∀ (asking : HttpServer) (accounts : List Pubkey),
        asking.routes.inner = server.routes.inner →
        asking.routes.baseChainUpstreams.upstreams = server.routes.baseChainUpstreams.upstreams →
        (∀ pk, pk ∈ accounts ↔ pk ∈ writableKeys lib message) →
        RoutesBy authority server.routes (writableKeys lib message)
          (blockhashForAccounts authority latest given asking accounts).1
          (fun upstream => (blockhashForAccounts authority latest given asking accounts).2.asks =
            asking.asks ++ [upstream.client])
          ((blockhashForAccounts authority latest given asking accounts).2 = asking) := by
  refine ⟨sendTransaction_routesBy decoded, fun asking accounts nodes chain same => ?_⟩
  exact (blockhashForAccounts_routesBy same).congr nodes chain

/-- A transaction with two writable accounts, a payer and another one. -/
def transfer : VersionedTransaction where
  signature := .repeating 7
  staticAccountKeys := [.repeating 1, .repeating 2]
  message := [1, 0, 0, 2] ++ List.replicate 32 1 ++ List.replicate 32 2 ++ List.replicate 32 3 ++ [0]

def transferBytes : List UInt8 := 1 :: List.replicate 64 7 ++ transfer.message

/-- The transaction in base 64. -/
def transferText : String :=
  "AQcHBwcHBwcHBwcHBwcHBwcHBwcHBwcHBwcHBwcHBwcHBwcHBwcHBwcHBwcHBwcH" ++
  "BwcHBwcHBwcHBwcHBwcHBwcBAAACAQEBAQEBAQEBAQEBAQEBAQEBAQEBAQEBAQEB" ++
  "AQEBAQECAgICAgICAgICAgICAgICAgICAgICAgICAgICAgICAgMDAwMDAwMDAwMD" ++
  "AwMDAwMDAwMDAwMDAwMDAwMDAwMDAA=="

/-- The other crates' behaviour on that transaction. -/
def transferLibrary : TransactionLibrary where
  decodeBase58 _ := .error "provided string contained invalid character"
  decodeBase64 text := if text = transferText then .ok transferBytes else .error "Invalid padding"
  deserialize bytes := if bytes = transferBytes then .ok transfer else .error "io error"
  isMaybeWritable _ i := decide (i < 2)
  parseSignature _ := .error "string decoded to wrong size for signature"

def base64Config : RpcSendTransactionConfig :=
  { RpcSendTransactionConfig.default with encoding := some .base64 }

/-- The payer is delegated to the node of identity 9, nothing else is delegated. -/
def payerDelegated (pk : Pubkey) : Option Pubkey :=
  if pk = .repeating 1 then some (.repeating 9) else none

theorem decode_transfer :
    decodeTransaction transferLibrary transferText base64Config = .ok transfer := by
  simp only [decodeTransaction, base64Config, Option.getD_some, transferLibrary, if_true,
    Except.mapError]
  simp only [bind, Except.bind, if_true]

theorem writable_transfer : writableKeys transferLibrary transfer = [.repeating 1, .repeating 2] :=
  rfl

theorem mem_authorities_transfer (identity : Pubkey) :
    identity ∈ authorities payerDelegated (writableKeys transferLibrary transfer) ↔
      identity = .repeating 9 := by
  have distinct : Pubkey.repeating 2 ≠ .repeating 1 := by decide
  simp [authorities, payerDelegated, writable_transfer, distinct, eq_comm]

/-- The delegated payer draws the transfer to its node, and the blockhash of the
two accounts is asked of the same node however they are listed. -/
theorem transfer_routed_alike :
    (sendTransaction transferLibrary payerDelegated (fun _ => .ok "7") none (start .sample)
        transferText (some base64Config)).2.forwards =
        [(RoutingTable.sampleNode.handle, transfer)] ∧
      (blockhashForAccounts payerDelegated (fun _ => .error "") none (start .sample)
        [.repeating 2, .repeating 1, .repeating 1]).2.asks = [RoutingTable.sampleNode.client] := by
  have alike := send_and_blockhash_routed_alike transferLibrary payerDelegated (fun _ => .ok "7") none
    (fun _ => .error "") none (start .sample) transferText (some base64Config) transfer decode_transfer
  have calm : ¬Conflicting payerDelegated (writableKeys transferLibrary transfer) := by
    simp [Conflicting, mem_authorities_transfer]
  have delegated := (mem_authorities_transfer (.repeating 9)).mpr rfl
  have known := RoutingTable.sample_node
  have asked := alike.2 (start .sample) [.repeating 2, .repeating 1, .repeating 1] rfl rfl
    (by simp [writable_transfer, or_comm])
  exact ⟨alike.1.ephemeral calm _ delegated _ known, asked.ephemeral calm _ delegated _ known⟩

end HttpServer

end MagicRouter
