import MagicRouter.Server.Http

/-! Blockhashes over whole runs of calls: what the router says about their expiry and
which upstream it asks about them later. No blockhash is evicted. -/

namespace MagicRouter

open Library

/-- A request for a blockhash or about one. -/
inductive BlockhashRequest (Config : Type) where
  | latestBlockhash (now : Nat) (order : List (Pubkey × UpstreamRecord))
  | blockhashForAccounts (authority : Pubkey → Option Pubkey) (accounts : List Pubkey)
  | isBlockhashValid (hash : String) (params : Option Config)

/-- A request with the routing table and the upstream answers at the time it is
handled. Each handler uses the cache once, and calls are in the order in which they
do so. -/
structure BlockhashCall (Config : Type) where
  request : BlockhashRequest Config
  routes : RoutingTable
  /-- an upstream's latest blockhash, with the last block height it is valid at -/
  latest : RpcClient → Except String (Hash × UInt64)
  valid : RpcClient → Hash → Config → Except String Bool

/-- What a call did. -/
inductive BlockhashEvent where
  /-- a blockhash was handed out; the upstream reported one height with it, and the
  client was told another -/
  | issued (client : RpcClient) (hash : Hash) (reported returned : Nat)
  /-- the validity of a blockhash was put to a client, if to any -/
  | tested (hash : Hash) (asked : Option RpcClient)
  deriving DecidableEq

/-- The server, with what the calls so far did. -/
structure BlockhashRun where
  server : HttpServer
  log : List BlockhashEvent

namespace BlockhashCall

open HttpServer

variable {Config : Type}

/-- The clients that requests were sent to between two states of the server. -/
def contacted (before after : HttpServer) : Option RpcClient :=
  (after.journal.drop before.journal.length).head?.bind fun
    | .latestBlockhash client => some client
    | .blockhashValid client _ => some client
    | _ => none

/-- The event of a blockhash that is handed out. -/
def issue (call : BlockhashCall Config) (before after : HttpServer) (value : RpcBlockhash) :
    List BlockhashEvent :=
  match contacted before after with
  | none => []
  | some client =>
    match call.latest client with
    | .error _ => []
    | .ok (_, height) =>
      [.issued client value.blockhash height.toNat value.lastValidBlockHeight]

variable [Inhabited Config]

/-- One call, with what is observed of it. -/
def perform (parse : String → Except String Hash) (call : BlockhashCall Config)
    (server : HttpServer) : HttpServer × List BlockhashEvent :=
  let server := { server with routes := call.routes }
  match call.request with
  | .latestBlockhash now order =>
    let (result, after) := latestBlockhash now order call.latest none server
    (after, match result with
      | .ok response => call.issue server after response.value
      | .error _ => [])
  | .blockhashForAccounts authority accounts =>
    let heights client := (call.latest client).map fun reply => (reply.1, reply.2.toNat)
    let (result, after) := blockhashForAccounts authority heights none server accounts
    (after, match result with
      | .ok value => call.issue server after value
      | .error _ => [])
  | .isBlockhashValid hash params =>
    let after := (isBlockhashValid parse call.valid server hash params).2
    (after, match parse hash with
      | .ok hash => [.tested hash (contacted server after)]
      | .error _ => [])

/-- The call is a `getLatestBlockhash` that its upstream answers. -/
def answersLatest (call : BlockhashCall Config) : Bool :=
  match call.request with
  | .latestBlockhash now order =>
    match call.routes.closestNode now order with
    | .ok ((_, client), _) => (call.latest client).isOk
    | .error _ => false
  | _ => false

/-- What a call does to the cache, and what is observed of it. -/
inductive Effect (call : BlockhashCall Config) (before : HttpServer)
    (after : HttpServer × List BlockhashEvent) : Prop where
  | refused (cache : after.1.blockhashes = before.blockhashes) (observed : after.2 = [])
      (unanswered : call.answersLatest = false)
  | issued (client : RpcClient) (hash : Hash) (reported returned : Nat)
      (cache : after.1.blockhashes = before.blockhashes.insertNew hash client)
      (observed : after.2 = [.issued client hash reported returned])
      (exact_iff : returned = reported ↔ call.answersLatest = false)
  | tested (hash : Hash) (cache : after.1.blockhashes = before.blockhashes)
      (observed : after.2 = [.tested hash (before.blockhashes.lookup hash)])
      (unanswered : call.answersLatest = false)

/-- Some block heights later is never now, even if the sum wraps. -/
private theorem later_height_ne (height : UInt64) : (height + 150).toNat ≠ height.toNat := by
  have bounded := height.toNat_lt
  rw [UInt64.toNat_add]
  simp only [UInt64.reduceToNat]
  omega

variable {parse : String → Except String Hash} {call : BlockhashCall Config}

private theorem effect_latest {now : Nat} {order : List (Pubkey × UpstreamRecord)}
    (request : call.request = .latestBlockhash now order) (server : HttpServer) :
    Effect call server (call.perform parse server) := by
  cases closest : call.routes.closestNode now order with
  | error failure =>
    refine .refused ?_ ?_ ?_
    · simp [perform, request, latestBlockhash, closest]
    · simp [perform, request, latestBlockhash, closest]
    · simp [answersLatest, request, closest]
  | ok chosen =>
    obtain ⟨⟨identity, client⟩, routes⟩ := chosen
    cases answer : call.latest client with
    | error failure =>
      refine .refused ?_ ?_ ?_
      · simp [perform, request, latestBlockhash, closest, answer]
      · simp [perform, request, latestBlockhash, closest, answer]
      · simp [answersLatest, request, closest, answer, Except.isOk, Except.toBool]
    | ok reply =>
      obtain ⟨hash, height⟩ := reply
      refine .issued client hash height.toNat (height + 150).toNat ?_ ?_ ?_
      · simp [perform, request, latestBlockhash, closest, answer, Store.insertEvicting, Store.givenUp]
      · simp [perform, request, latestBlockhash, closest, answer, issue, contacted]
      · apply iff_of_false (later_height_ne height)
        simp [answersLatest, request, closest, answer, Except.isOk, Except.toBool]

private theorem effect_forAccounts {authority : Pubkey → Option Pubkey} {accounts : List Pubkey}
    (request : call.request = .blockhashForAccounts authority accounts) (server : HttpServer) :
    Effect call server (call.perform parse server) := by
  have other : call.answersLatest = false := by simp [answersLatest, request]
  cases decided : delegatedTo authority accounts none with
  | error failure =>
    refine .refused ?_ ?_ other <;> simp [perform, request, blockhashForAccounts, decided]
  | ok delegated =>
    cases chosen : clientFor call.routes delegated with
    | error failure =>
      refine .refused ?_ ?_ other <;> simp [perform, request, blockhashForAccounts, decided, chosen]
    | ok made =>
      obtain ⟨client, routes⟩ := made
      cases answer : call.latest client with
      | error failure =>
        refine .refused ?_ ?_ other <;>
          simp [perform, request, blockhashForAccounts, decided, chosen, answer, Except.map]
      | ok reply =>
        obtain ⟨hash, height⟩ := reply
        refine .issued client hash height.toNat height.toNat ?_ ?_ (by simp [other])
        · simp [perform, request, blockhashForAccounts, decided, chosen, answer, Except.map,
            Store.insertEvicting, Store.givenUp]
        · simp [perform, request, blockhashForAccounts, decided, chosen, answer, Except.map, issue,
            contacted]

private theorem effect_isValid {text : String} {params : Option Config}
    (request : call.request = .isBlockhashValid text params) (server : HttpServer) :
    Effect call server (call.perform parse server) := by
  have other : call.answersLatest = false := by simp [answersLatest, request]
  cases parsed : parse text with
  | error failure =>
    refine .refused ?_ ?_ other <;>
      simp [perform, request, isBlockhashValid, parsed, Except.mapError]
  | ok hash =>
    refine .tested hash ?_ ?_ other
    · cases found : server.blockhashes.lookup hash <;>
        simp [perform, request, isBlockhashValid, parsed, Except.mapError, found]
    · cases found : server.blockhashes.lookup hash <;>
        simp [perform, request, isBlockhashValid, parsed, Except.mapError, found, contacted]

theorem perform_effect (parse : String → Except String Hash) (call : BlockhashCall Config)
    (server : HttpServer) : Effect call server (call.perform parse server) := by
  cases request : call.request with
  | latestBlockhash now order => exact effect_latest request server
  | blockhashForAccounts authority accounts => exact effect_forAccounts request server
  | isBlockhashValid text params => exact effect_isValid request server

end BlockhashCall

namespace BlockhashRun

variable {Config : Type} [Inhabited Config] {parse : String → Except String Hash}

def start (routes : RoutingTable) : BlockhashRun where
  server := .start routes
  log := []

def serve (parse : String → Except String Hash) (run : BlockhashRun)
    (calls : List (BlockhashCall Config)) : BlockhashRun :=
  calls.foldl (fun run call =>
    let next := call.perform parse run.server
    { server := next.1, log := run.log ++ next.2 }) run

/-- The client is told the height its blockhash was reported with. -/
def Exact (log : List BlockhashEvent) : Prop :=
  ∀ client hash reported returned, .issued client hash reported returned ∈ log → returned = reported

/-- A blockhash that was handed out is later asked about at an upstream it came from. -/
def Traceable (log : List BlockhashEvent) : Prop :=
  ∀ earlier later hash asked, log = earlier ++ .tested hash asked :: later →
    (∃ client reported returned, .issued client hash reported returned ∈ earlier) →
    ∃ client reported returned, asked = some client ∧
      .issued client hash reported returned ∈ earlier

/-- The cache holds the blockhashes handed out, each under an upstream it came from. -/
structure Remembers (run : BlockhashRun) : Prop where
  cached : ∀ client hash reported returned, .issued client hash reported returned ∈ run.log →
    ∃ issuer, run.server.blockhashes.lookup hash = some issuer
  sourced : ∀ issuer hash, run.server.blockhashes.lookup hash = some issuer →
    ∃ reported returned, .issued issuer hash reported returned ∈ run.log

theorem serve_snoc (parse : String → Except String Hash) (run : BlockhashRun)
    (calls : List (BlockhashCall Config)) (call : BlockhashCall Config) :
    serve parse run (calls ++ [call]) =
      let next := call.perform parse (serve parse run calls).server
      { server := next.1, log := (serve parse run calls).log ++ next.2 } := by
  simp [serve]

theorem Remembers.perform {run : BlockhashRun} (remembers : Remembers run)
    (call : BlockhashCall Config) :
    Remembers { server := (call.perform parse run.server).1,
                log := run.log ++ (call.perform parse run.server).2 } := by
  cases call.perform_effect parse run.server with
  | refused cache observed _ =>
    refine ⟨?_, ?_⟩
    · simpa [cache, observed] using remembers.cached
    · simpa [cache, observed] using remembers.sourced
  | tested hash cache observed _ =>
    refine ⟨?_, ?_⟩
    · simpa [cache, observed] using remembers.cached
    · simpa [cache, observed] using remembers.sourced
  | issued client hash reported returned cache observed _ =>
    refine ⟨?_, ?_⟩
    · intro client' hash' reported' returned' member
      simp only [observed, List.mem_append, List.mem_singleton] at member
      simp only [cache]
      apply Store.exists_insertNew
      rcases member with earlier | here
      · obtain ⟨issuer, stored⟩ := remembers.cached _ _ _ _ earlier
        exact .inl (stored ▸ rfl)
      · cases here
        exact .inr rfl
    · intro issuer hash' found
      simp only [cache] at found
      simp only [observed, List.mem_append, List.mem_singleton]
      rcases Store.held_of_insertNew found with stored | ⟨rfl, rfl⟩
      · obtain ⟨reported', returned', member⟩ := remembers.sourced issuer hash' stored
        exact ⟨reported', returned', .inl member⟩
      · exact ⟨reported, returned, .inr rfl⟩

theorem remembers_serve (routes : RoutingTable) (calls : List (BlockhashCall Config)) :
    Remembers (serve parse (start routes) calls) := by
  induction calls using List.reverseRecOn with
  | nil =>
    refine ⟨?_, ?_⟩
    · intro _ _ _ _ member
      cases member
    · intro _ _ found
      cases found
  | append_singleton earlier call ih =>
    rw [serve_snoc]
    exact ih.perform call

theorem Traceable.snoc {log : List BlockhashEvent} {event : BlockhashEvent}
    (traceable : Traceable log) (here : ∀ hash asked, event = .tested hash asked →
      (∃ client reported returned, .issued client hash reported returned ∈ log) →
      ∃ client reported returned, asked = some client ∧
        .issued client hash reported returned ∈ log) :
    Traceable (log ++ [event]) := by
  intro earlier later hash asked same issued
  rcases List.eq_nil_or_concat later with rfl | ⟨rest, final, rfl⟩
  · obtain ⟨rfl, last⟩ := List.append_inj' same rfl
    cases last
    exact here hash asked rfl issued
  · rw [List.concat_eq_append, ← List.cons_append, ← List.append_assoc] at same
    obtain ⟨before, _⟩ := List.append_inj' same rfl
    exact traceable earlier rest hash asked before issued

/-- A validity test goes to the cached issuer of its hash. -/
theorem traceable_serve (routes : RoutingTable) (calls : List (BlockhashCall Config)) :
    Traceable (serve parse (start routes) calls).log := by
  induction calls using List.reverseRecOn with
  | nil =>
    intro earlier later hash asked same
    simp [serve, start] at same
  | append_singleton before call ih =>
    rw [serve_snoc]
    have remembers : Remembers (serve parse (start routes) before) := remembers_serve routes before
    cases call.perform_effect parse (serve parse (start routes) before).server with
    | refused _ observed _ => simpa [observed] using ih
    | issued client hash reported returned _ observed _ =>
      simp only [observed]
      apply ih.snoc
      intro hash asked same
      cases same
    | tested hash _ observed _ =>
      simp only [observed]
      apply ih.snoc
      rintro hash asked ⟨⟩ ⟨client, reported, returned, member⟩
      obtain ⟨issuer, found⟩ := remembers.cached client hash reported returned member
      obtain ⟨reported', returned', source⟩ := remembers.sourced issuer hash found
      exact ⟨issuer, reported', returned', found, source⟩

theorem exact_serve_iff (routes : RoutingTable) (calls : List (BlockhashCall Config)) :
    Exact (serve parse (start routes) calls).log ↔ ∀ call ∈ calls, call.answersLatest = false := by
  induction calls using List.reverseRecOn with
  | nil => simp [serve, start, Exact]
  | append_singleton before call ih =>
    rw [serve_snoc]
    have split (events : List BlockhashEvent) :
        Exact ((serve parse (start routes) before).log ++ events) ↔
          (∀ call ∈ before, call.answersLatest = false) ∧ Exact events := by
      rw [← ih]
      simp only [Exact, List.mem_append, or_imp, forall_and]
    simp only [split, List.mem_append, List.mem_singleton, or_imp, forall_and, forall_eq]
    apply and_congr_right
    intro _
    cases call.perform_effect parse (serve parse (start routes) before).server with
    | refused _ observed unanswered => simp [observed, Exact, unanswered]
    | tested hash _ observed unanswered => simp [observed, Exact, unanswered]
    | issued client hash reported returned _ observed exact_iff =>
      rw [← exact_iff, observed]
      constructor
      · intro passed
        exact passed client hash reported returned (by simp)
      · intro equal client' hash' reported' returned' member
        cases List.mem_singleton.mp member
        exact equal

/-- Heights are passed on as they were reported exactly by the runs in which no
`getLatestBlockhash` is answered; every blockhash handed out can be traced in all. -/
theorem exact_and_traceable_iff (parse : String → Except String Hash) (routes : RoutingTable)
    (calls : List (BlockhashCall Config)) :
    Exact (serve parse (start routes) calls).log ∧ Traceable (serve parse (start routes) calls).log ↔
      ∀ call ∈ calls, call.answersLatest = false := by
  rw [exact_serve_iff]
  exact and_iff_left (traceable_serve routes calls)

/-- A blockhash to hand out. -/
def sampleHash : Hash := ⟨List.replicate 32 5, List.length_replicate⟩

/-- `getLatestBlockhash` at a base chain whose latest blockhash is valid up to height 1000. -/
def askLatest : BlockhashCall Unit where
  request := .latestBlockhash 0 []
  routes := .sample
  latest _ := .ok (sampleHash, 1000)
  valid _ _ _ := .ok true

/-- The client is told to wait for height 1150. -/
theorem latest_height_overstated :
    ¬ ∀ (parse : String → Except String Hash) routes (calls : List (BlockhashCall Unit)),
      Exact (serve parse (start routes) calls).log ∧
        Traceable (serve parse (start routes) calls).log := by
  intro claimed
  have passed := (claimed (fun _ => .ok sampleHash) .sample [askLatest]).1
  have told := passed RoutingTable.sampleChain.client sampleHash 1000 1150 (by decide)
  exact absurd told (by decide)

end BlockhashRun

end MagicRouter
