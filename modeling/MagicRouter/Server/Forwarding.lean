import MagicRouter.Server.Routing

/-! The upstream a forwarded signature is remembered under, over whole runs of
`sendTransaction` calls between which delegations and the routing table may change. -/

namespace MagicRouter

open Library

/-- What an errand means for the route of a signature: a successful forward sets it,
an eviction forgets it. -/
def Errand.route : Errand → Option (Write Signature RemoteHandle)
  | .forward handle txn true => some (.put txn.signature handle)
  | .evict signature => some (.remove signature)
  | _ => none

namespace HttpServer

/-- The upstream a signature was most recently forwarded to with success, unless it
was evicted since. -/
def latestForward (server : HttpServer) (signature : Signature) : Option RemoteHandle :=
  Write.last signature (server.journal.filterMap Errand.route)

/-- Every signature still cached is looked up at the upstream it last went to. -/
def FollowsLatest (server : HttpServer) : Prop :=
  ∀ signature handle, server.latestForward signature = some handle →
    server.transactions.get signature = some handle

/-- In such a server `getTransaction` goes to the upstream that has the transaction. -/
theorem FollowsLatest.transaction_asks {Config Reply : Type} [Inhabited Config]
    {lib : TransactionLibrary} {server : HttpServer} {text : String} {signature : Signature}
    {handle : RemoteHandle} (follows : server.FollowsLatest)
    (parsed : lib.parseSignature text = .ok signature)
    (latest : server.latestForward signature = some handle)
    (ask : RpcClient → Signature → Config → Except String Reply) (params : Option Config) :
    (transaction lib ask server text params).2.journal =
      server.journal ++ [.transaction handle.rpc signature] := by
  simp [transaction, parsed, Except.mapError, follows signature handle latest]

end HttpServer

/-- A `sendTransaction` call with the routing table, the delegations and the upstream
answers at the time it is made. -/
structure SendCall where
  routes : RoutingTable
  authority : Pubkey → Option Pubkey
  respond : RemoteHandle → Except String String
  evicted : Option Signature
  txn : String
  params : Option RpcSendTransactionConfig

namespace SendCall

open HttpServer

variable {lib : TransactionLibrary} {server : HttpServer} {call : SendCall} {calls : List SendCall}
variable {signature : Signature} {handle : RemoteHandle}

def perform (lib : TransactionLibrary) (server : HttpServer) (call : SendCall) : HttpServer :=
  (sendTransaction lib call.authority call.respond call.evicted
    { server with routes := call.routes } call.txn call.params).2

/-- A run of calls, one after the other. -/
def serve (lib : TransactionLibrary) (server : HttpServer) (calls : List SendCall) : HttpServer :=
  calls.foldl (perform lib) server

/-- The signature the call asks to forward and the upstream responsible for it at the
time, if that upstream accepts it. -/
def accepted (lib : TransactionLibrary) (call : SendCall) : Option (Signature × RemoteHandle) :=
  match decodeTransaction lib call.txn (call.params.getD .default) with
  | .error _ => none
  | .ok txn =>
    match (delegationOf call.authority (lib.isMaybeWritable txn) 0 txn.staticAccountKeys none).bind
        (handleFor call.routes) with
    | .error _ => none
    | .ok (handle, _) => if (call.respond handle).isOk then some (txn.signature, handle) else none

/-- The call does not send a cached signature to another upstream. -/
def Steady (lib : TransactionLibrary) (server : HttpServer) (call : SendCall) : Prop :=
  ∀ signature handle, call.accepted lib = some (signature, handle) →
    ∀ old, server.transactions.get signature = some old → old = handle

/-- What a call does to the cache and to the routes of the journal. -/
theorem perform_cases (lib : TransactionLibrary) (server : HttpServer) (call : SendCall) :
    (call.accepted lib = none ∧ (call.perform lib server).transactions = server.transactions ∧
      (call.perform lib server).journal.filterMap Errand.route =
        server.journal.filterMap Errand.route) ∨
    ∃ signature handle, call.accepted lib = some (signature, handle) ∧
      (call.perform lib server).transactions =
        server.transactions.track signature handle call.evicted ∧
      (call.perform lib server).journal.filterMap Errand.route =
        server.journal.filterMap Errand.route ++ .put signature handle ::
          (server.transactions.cache.givenUp signature call.evicted).toList.map .remove := by
  cases decoded : decodeTransaction lib call.txn (call.params.getD .default) with
  | error failure => exact .inl (by simp [accepted, perform, sendTransaction, decoded])
  | ok txn =>
    cases chosen : (delegationOf call.authority (lib.isMaybeWritable txn) 0
        txn.staticAccountKeys none).bind (handleFor call.routes) with
    | error failure =>
      have refused : call.perform lib server = { server with routes := call.routes } := by
        rw [perform, sendTransaction_refused decoded chosen]
      exact .inl (by simp [accepted, decoded, chosen, refused])
    | ok made =>
      obtain ⟨handle, after⟩ := made
      cases answer : call.respond handle with
      | error failure =>
        have performed : call.perform lib server = { server with
            routes := after
            journal := server.journal ++ [.forward handle txn false] } := by
          rw [perform, sendTransaction_made decoded chosen]
          simp [answer, Except.isOk, Except.toBool]
        refine .inl ⟨?_, ?_, ?_⟩
        · simp [accepted, decoded, chosen, answer, Except.isOk, Except.toBool]
        · rw [performed]
        · simp [performed, Errand.route]
      | ok result =>
        have performed : call.perform lib server = HttpServer.track { server with
            routes := after
            journal := server.journal ++ [.forward handle txn true] }
            txn.signature handle call.evicted := by
          rw [perform, sendTransaction_made decoded chosen]
          simp [answer, Except.isOk, Except.toBool]
        refine .inr ⟨txn.signature, handle, ?_, ?_, ?_⟩
        · simp [accepted, decoded, chosen, answer, Except.isOk, Except.toBool]
        · simp [performed, track]
        · cases given : server.transactions.cache.givenUp txn.signature call.evicted with
          | none => simp [performed, track, given, Errand.route]
          | some victim => simp [performed, track, given, Errand.route]

/-- A call that reaches no upstream leaves every route as it is. -/
theorem perform_of_dropped (server : HttpServer) (dropped : call.accepted lib = none)
    (other : Signature) :
    (call.perform lib server).latestForward other = server.latestForward other ∧
      (call.perform lib server).transactions.get other = server.transactions.get other := by
  obtain ⟨_, kept, same⟩ | ⟨_, _, accepted, _⟩ := perform_cases lib server call
  · exact ⟨by rw [latestForward, same, latestForward], by rw [kept]⟩
  · simp [dropped] at accepted

theorem perform_of_accepted (server : HttpServer)
    (forwarded : call.accepted lib = some (signature, handle)) :
    (call.perform lib server).transactions =
        server.transactions.track signature handle call.evicted ∧
      (call.perform lib server).journal.filterMap Errand.route =
        server.journal.filterMap Errand.route ++ .put signature handle ::
          (server.transactions.cache.givenUp signature call.evicted).toList.map .remove := by
  obtain ⟨dropped, _⟩ | ⟨_, _, accepted, effect⟩ := perform_cases lib server call
  · simp [dropped] at forwarded
  · rw [accepted] at forwarded
    cases forwarded
    exact effect

theorem latestForward_perform (server : HttpServer)
    (forwarded : call.accepted lib = some (signature, handle))
    (other : Signature) :
    (call.perform lib server).latestForward other =
      if server.transactions.cache.givenUp signature call.evicted = some other then none
      else if other = signature then some handle else server.latestForward other := by
  rw [latestForward, (perform_of_accepted server forwarded).2]
  cases given : server.transactions.cache.givenUp signature call.evicted with
  | none => simp [Write.last, Write.keepLast, latestForward, eq_comm]
  | some victim =>
    have different := Store.givenUp_ne given
    by_cases same : other = signature
    · simp [Write.last, Write.keepLast, same, different]
    · simp [Write.last, Write.keepLast, latestForward, same, Ne.symm same]

theorem get_perform (server : HttpServer)
    (forwarded : call.accepted lib = some (signature, handle))
    (other : Signature) :
    (call.perform lib server).transactions.get other =
      if server.transactions.cache.givenUp signature call.evicted = some other then none
      else if other = signature then (server.transactions.get signature).or (some handle)
      else server.transactions.get other := by
  rw [(perform_of_accepted server forwarded).1]
  exact Store.lookup_insertEvicting ..

/-- A signature that is cached already gives up nothing. -/
theorem givenUp_of_cached {old : RemoteHandle} (cached : server.transactions.get signature = some old)
    (evicted : Option Signature) : server.transactions.cache.givenUp signature evicted = none := by
  have present : signature ∈ server.transactions.cache := AList.lookup_isSome.mp (by
    rw [show server.transactions.cache.lookup signature = some old from cached]
    rfl)
  simp [Store.givenUp, present]

theorem serve_snoc (lib : TransactionLibrary) (server : HttpServer) (calls : List SendCall)
    (call : SendCall) : serve lib server (calls ++ [call]) = call.perform lib (serve lib server calls) := by
  simp [serve]

/-- A steady call keeps the cache in step with the journal. -/
theorem followsLatest_perform (follows : server.FollowsLatest) (steady : call.Steady lib server) :
    (call.perform lib server).FollowsLatest := by
  intro other latest found
  cases outcome : call.accepted lib with
  | none =>
    obtain ⟨same, kept⟩ := perform_of_dropped server outcome other
    rw [kept]
    exact follows other latest (same ▸ found)
  | some made =>
    obtain ⟨signature, handle⟩ := made
    rw [latestForward_perform server outcome] at found
    rw [get_perform server outcome]
    split at found
    · cases found
    · rename_i kept
      rw [if_neg kept]
      by_cases resent : other = signature
      · rw [if_pos resent] at found ⊢
        cases cached : server.transactions.get signature with
        | none => simpa using found
        | some old =>
          rw [steady signature handle outcome old cached]
          simpa using found
      · rw [if_neg resent] at found ⊢
        exact follows other latest found

/-- An unsteady call leaves a route behind the journal. -/
theorem steady_of_followsLatest (follows : (call.perform lib server).FollowsLatest) :
    call.Steady lib server := by
  intro signature handle outcome old cached
  have latest := latestForward_perform server outcome signature
  have stored := get_perform server outcome signature
  rw [givenUp_of_cached cached] at latest stored
  have answered := follows signature handle (by simpa using latest)
  simpa [stored, cached] using answered

/-- The cache follows the latest forwards throughout a run exactly when no call of it
sends a cached signature to another upstream than the cached one. -/
theorem routes_follow_latest_iff (lib : TransactionLibrary) (routes : RoutingTable)
    (calls : List SendCall) :
    (∀ before after, calls = before ++ after → (serve lib (start routes) before).FollowsLatest) ↔
      ∀ before call after, calls = before ++ call :: after →
        call.Steady lib (serve lib (start routes) before) := by
  constructor
  · intro follows before call after same
    apply steady_of_followsLatest
    rw [← serve_snoc]
    exact follows (before ++ [call]) after (by simp [same])
  · intro steady before after same
    induction before using List.reverseRecOn generalizing after with
    | nil =>
      intro signature handle found
      simp [serve, start, latestForward] at found
    | append_singleton earlier call ih =>
      rw [serve_snoc]
      apply followsLatest_perform (ih (call :: after) (by simp [same]))
      exact steady earlier call after (by simp [same])

/-- The transfer sent while its payer is delegated to the node of identity 9. -/
def sendDelegated : SendCall where
  routes := .sample
  authority := payerDelegated
  respond _ := .ok "7"
  evicted := none
  txn := transferText
  params := some base64Config

/-- The same transfer sent again after the payer was undelegated. -/
def sendUndelegated : SendCall := { sendDelegated with authority := fun _ => none }

theorem accepted_sendDelegated : sendDelegated.accepted transferLibrary =
    some (.repeating 7, RoutingTable.sampleNode.handle) := by
  simp only [accepted, sendDelegated, Option.getD_some, decode_transfer]
  rfl

theorem accepted_sendUndelegated : sendUndelegated.accepted transferLibrary =
    some (.repeating 7, RoutingTable.sampleChain.handle) := by
  simp only [accepted, sendUndelegated, sendDelegated, Option.getD_some, decode_transfer]
  rfl

/-- Resent to the base chain, the transfer is still looked up at the node. -/
theorem resent_transfer_misrouted :
    ¬(serve transferLibrary (start .sample) [sendDelegated, sendUndelegated]).FollowsLatest := by
  intro follows
  have first : (serve transferLibrary (start .sample) [sendDelegated]).transactions.get
      (.repeating 7) = some RoutingTable.sampleNode.handle := by
    simp only [serve, List.foldl_cons, List.foldl_nil]
    rw [get_perform _ accepted_sendDelegated]
    rfl
  rw [show [sendDelegated, sendUndelegated] = [sendDelegated] ++ [sendUndelegated] from rfl,
    serve_snoc] at follows
  have steady := steady_of_followsLatest follows _ _ accepted_sendUndelegated _ first
  simp [UpstreamRecord.handle, RoutingTable.sampleNode, RoutingTable.sampleChain, UpstreamRecord.fresh]
    at steady

end SendCall

end MagicRouter
