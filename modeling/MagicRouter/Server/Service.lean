import MagicRouter.Cache.Reports
import MagicRouter.Server.Endpoints

/-! The requests together with the delegation cache they ask. A request takes an account
to be delegated only if a `get_record` call for the record of this account has said so,
and the calls of all requests share the cache, its fills and its stream. What a call
fetches it asks of the base-chain upstream whose turn it is. -/

namespace MagicRouter

open Library Delegations

/-- What a call fetches or is about to fetch, with the minimal context slot. -/
def Delegations.State.fetches (s : Delegations.State) (call : CallId) :
    Option (Pubkey × Option Nat) :=
  match s.calls call with
  | some { pda, pc := .refetching least } => some (pda, least)
  | some { pda, pc := .filling _ least _ } => some (pda, least)
  | some { pda, pc := .fetchingAlone _ } => some (pda, none)
  | _ => none

/-- The delegation cache, what the server reads and writes besides, and the fetches begun
with their answers. A call ends without another fetch once it has begun one. -/
structure Service where
  cache : Delegations.State
  server : HttpServer
  asked : CallId → Option ((Pubkey × Option Nat) × DelegationEntry)

namespace Service

def start (routes : RoutingTable) : Service where
  cache := .init
  server := .start routes
  asked _ := none

/-- The record a call was made for, and what `get_delegation_authority` makes of its answer. -/
def getDelegationAuthority (x : Service) (call : CallId) : Option (Pubkey × Option Pubkey) :=
  match x.cache.calls call with
  | some { pda, pc := .returned record } => some (pda, record.map (·.authority))
  | _ => none

/-- What the fetch of a call has been answered, if the step takes it in. -/
def answered (x : Service) : Delegations.Action → Bool
  | .fetched call rpc => (x.cache.fetches call).any fun wanted =>
      x.asked call = some (wanted, fetch rpc wanted.1 wanted.2)
  | _ => true

/-- A step of the cache, the beginning of a call's fetch with the answers of each upstream,
or a request with the calls it has made. -/
inductive Action : Type 1 where
  | cache (action : Delegations.Action)
  | ask (call : CallId) (pda : Pubkey) (least : Option Nat) (answer : RpcClient → Rpc)
  | task (task : Task) (calls : List CallId)

def Action.onCache : Action → Option Delegations.Action
  | .cache action => some action
  | .ask .. | .task .. => none

def Action.onServer : Action → Option Task
  | .cache _ => none
  | .ask _ pda least answer => some (.operation (.fetch answer pda least))
  | .task asked _ => some asked

/-- Fetches are begun by calls only. -/
def Requested : Task → Bool
  | .operation (.fetch ..) => false
  | _ => true

/-- One step. `derive` is the derivation of record addresses. A request that ends early has
not asked about all its accounts, so only the delegations it goes by must have been
answered. -/
def step (derive : Pubkey → Pubkey) (x : Service) : Action → Option Service
  | .cache action =>
    if x.answered action then
      (Delegations.step x.cache action).map fun cache => { x with cache }
    else none
  | .ask call pda least answer =>
    if x.cache.fetches call = some (pda, least) ∧ x.asked call = none then
      let (entry, _) := fetchOnChain answer x.server.routes pda least
      some { x with
        server := (Task.perform x.server (.operation (.fetch answer pda least))).1
        asked := Function.update x.asked call (some ((pda, least), entry)) }
    else none
  | .task task calls =>
    if Requested task ∧ ∀ concern ∈ task.concerns, concern.2 = none ∨
        some (derive concern.1, concern.2) ∈ calls.map x.getDelegationAuthority then
      some { x with server := (task.perform x.server).1 }
    else none

/-- The orders a request is given are orders of what is there. -/
def Fits (x : Service) : Action → Prop
  | .cache _ | .ask .. => True
  | .task task _ => task.Fits x.server

variable {derive : Pubkey → Pubkey} {routes : RoutingTable} {actions : List Action}
variable {x y : Service} {task : Task} {calls : List CallId} {account identity : Pubkey}

/-- A delegation that a request goes by is the answer of a call for its record. -/
theorem step_answered (fired : step derive x (.task task calls) = some y)
    (concerned : (account, some identity) ∈ task.concerns) :
    ∃ call record, x.cache.calls call =
        some { pda := derive account, pc := .returned (some record) } ∧
      record.authority = identity := by
  simp only [step] at fired
  split at fired
  · rename_i allowed
    rcases allowed.2 _ concerned with undelegated | answer
    · cases undelegated
    · obtain ⟨call, _, gives⟩ := List.mem_map.mp answer
      unfold getDelegationAuthority at gives
      split at gives
      · rename_i record returned
        simp only [Option.some.injEq, Prod.mk.injEq, Option.map_eq_some_iff] at gives
        obtain ⟨rfl, record, rfl, same⟩ := gives
        exact ⟨call, record, returned, same⟩
      · cases gives
  · cases fired

theorem step_task (fired : step derive x (.task task calls) = some y) :
    y = { x with server := (task.perform x.server).1 } := by
  simp only [step] at fired
  split at fired
  · exact (Option.some.inj fired).symm
  · cases fired

theorem step_cache {action : Delegations.Action} (fired : step derive x (.cache action) = some y) :
    x.answered action = true ∧ Delegations.step x.cache action = some y.cache ∧
      y.server = x.server ∧ y.asked = x.asked := by
  simp only [step] at fired
  split at fired
  · rename_i answered
    obtain ⟨cache, moved, rfl⟩ := Option.map_eq_some_iff.mp fired
    exact ⟨answered, moved, rfl, rfl⟩
  · cases fired

theorem step_ask {call : CallId} {pda : Pubkey} {least : Option Nat} {answer : RpcClient → Rpc}
    (fired : step derive x (.ask call pda least answer) = some y) :
    y = { x with
      server := (Task.perform x.server (.operation (.fetch answer pda least))).1
      asked := Function.update x.asked call
        (some ((pda, least), fetch (answer x.server.routes.baseChain.1.client) pda least)) } := by
  simp only [step] at fired
  split at fired
  · exact (Option.some.inj fired).symm
  · cases fired

/-- The cache goes through a run of its own. -/
theorem cache_run (run : Run (Fires (step derive)) (start routes) actions x) :
    Run (Fires Delegations.step) State.init (actions.filterMap Action.onCache) x.cache := by
  induction run with
  | nil => exact .nil
  | @snoc actions x action y _ last ih =>
    cases action with
    | cache action =>
      rw [List.filterMap_append]
      exact ih.snoc (step_cache last).2.1
    | ask call pda least answer =>
      rw [step_ask last, List.filterMap_append, List.filterMap_cons_none rfl, List.filterMap_nil,
        List.append_nil]
      exact ih
    | task task calls =>
      rw [step_task last, List.filterMap_append, List.filterMap_cons_none rfl, List.filterMap_nil,
        List.append_nil]
      exact ih

/-- The requests go through a run of their own. -/
theorem server_run (run : Run (Guarded Fits (Fires (step derive))) (start routes) actions x) :
    Run (Guarded Task.Fits Task.Performs) (.start routes) (actions.filterMap Action.onServer)
      x.server := by
  induction run with
  | nil => exact .nil
  | @snoc actions x action y _ last ih =>
    obtain ⟨fits, fired⟩ := last
    cases action with
    | cache action =>
      rw [(step_cache fired).2.2.1, List.filterMap_append, List.filterMap_cons_none rfl,
        List.filterMap_nil, List.append_nil]
      exact ih
    | ask call pda least answer =>
      rw [step_ask fired, List.filterMap_append]
      exact ih.snoc ⟨trivial, rfl⟩
    | task task calls =>
      rw [step_task fired, List.filterMap_append]
      exact ih.snoc ⟨fits, rfl⟩

/-- The answers that are noted were given by the upstream whose turn it was. -/
theorem asked_origin (run : Run (Fires (step derive)) (start routes) actions x) {call : CallId}
    {wanted : Pubkey × Option Nat} {entry : DelegationEntry}
    (noted : x.asked call = some (wanted, entry)) :
    ∃ earlier z answer, (earlier ++ [.ask call wanted.1 wanted.2 answer]) <+: actions ∧
      Run (Fires (step derive)) (start routes) earlier z ∧
      entry = fetch (answer z.server.routes.baseChain.1.client) wanted.1 wanted.2 := by
  induction run with
  | nil => cases noted
  | @snoc actions x action y run last ih =>
    have later (old : x.asked call = some (wanted, entry)) :
        ∃ earlier z answer, (earlier ++ [.ask call wanted.1 wanted.2 answer]) <+:
          actions ++ [action] ∧ Run (Fires (step derive)) (start routes) earlier z ∧
          entry = fetch (answer z.server.routes.baseChain.1.client) wanted.1 wanted.2 := by
      obtain ⟨earlier, z, answer, before, reached, same⟩ := ih old
      exact ⟨earlier, z, answer, before.trans (List.prefix_append _ _), reached, same⟩
    cases action with
    | cache action => exact later ((step_cache last).2.2.2 ▸ noted)
    | task task calls =>
      rw [step_task last] at noted
      exact later noted
    | ask other pda least answer =>
      rw [step_ask last] at noted
      by_cases same : call = other
      · subst same
        simp only [Function.update_self, Option.some.injEq, Prod.mk.injEq] at noted
        obtain ⟨rfl, rfl⟩ := noted
        exact ⟨actions, x, answer, List.prefix_rfl, run, rfl⟩
      · simp only [Function.update_of_ne same] at noted
        exact later noted

/-- What the cache takes in as the result of a fetch is what the upstream whose turn it
was has answered to this very fetch. -/
theorem fetched_origin (run : Run (Fires (step derive)) (start routes) actions x) {call : CallId}
    {rpc : Rpc} (fired : step derive x (.cache (.fetched call rpc)) = some y) :
    ∃ earlier z pda least answer, (earlier ++ [.ask call pda least answer]) <+: actions ∧
      Run (Fires (step derive)) (start routes) earlier z ∧ x.cache.fetches call = some (pda, least) ∧
      fetch rpc pda least = fetch (answer z.server.routes.baseChain.1.client) pda least := by
  have answered := (step_cache fired).1
  simp only [Service.answered, Option.any_eq_true, decide_eq_true_eq] at answered
  obtain ⟨wanted, fetches, noted⟩ := answered
  obtain ⟨earlier, z, answer, before, reached, same⟩ := asked_origin run noted
  exact ⟨earlier, z, wanted.1, wanted.2, answer, before, reached, fetches, same⟩

/-- In every run of requests and fetches over the shared cache, a contact is made to an
announced upstream (or to the node of the registry record the updater is just notified
of) and for one of the reasons there are, and every delegation the request goes by is one
that the chain has reported for the record of that very account. -/
theorem contacts_rest_on_reports {action : Action} {contact : Contact}
    (run : Run (Guarded Fits (Fires (step derive))) (start routes) actions x)
    (fired : step derive x action = some y) (asked : action.onServer = some task)
    (fits : task.Fits x.server) (made : contact ∈ (task.perform x.server).2) :
    ((∃ handle, Task.Announced routes (actions.filterMap Action.onServer) handle ∧
      contact.Over handle) ∨ ∃ client, contact = .rpc client ∧ task.Nominates client) ∧
    Justified x.server task contact ∧
    ∀ account identity, (account, some identity) ∈ task.concerns → ∃ slot record,
      Attested (actions.filterMap Action.onCache) (derive account) slot record ∧
        record.authority = identity := by
  have justified := (Task.behaves task fits).contacts contact made
  refine ⟨(Task.Confined.reached (server_run run)).justified justified, justified, ?_⟩
  intro account identity concerned
  cases action with
  | cache action => cases asked
  | ask call pda least answer =>
    -- a fetch goes by no delegation
    cases asked
    cases concerned
  | task task calls =>
    cases asked
    obtain ⟨call, record, returned, same⟩ := step_answered fired concerned
    obtain ⟨slot, attested⟩ :=
      (Sourced.reached (cache_run run.unguarded)).calls call _ _ record returned rfl
    exact ⟨slot, record, attested, same⟩

/-- The record of account 1 is at address 2. -/
def sampleDerive (account : Pubkey) : Pubkey :=
  if account = .repeating 1 then .repeating 2 else account

/-- The record, which names the sample node. -/
def sampleRecord : Rpc := fun _ _ _ => .account 12 (some (List.replicate 96 9))

/-- The record is fetched. -/
def fetchedRecord : List Action :=
  let fill := (fillByFetch 0 (.repeating 2) 10 sampleRecord).map Action.cache
  fill.take 6 ++ .ask 0 (.repeating 2) (some 2) (fun _ => sampleRecord) :: fill.drop 6

/-- The request for account 1 goes to the node its record names. -/
theorem contacts_rest_on_reports_fetched :
    ∃ x y slot record,
      Run (Guarded Fits (Fires (step sampleDerive))) (start .sample) fetchedRecord x ∧
      step sampleDerive x (.task Task.delegatedQuery [0]) = some y ∧
      .rpc RoutingTable.sampleNode.client ∈ (Task.delegatedQuery.perform x.server).2 ∧
      Attested (fetchedRecord.filterMap Action.onCache) (.repeating 2) slot record ∧
      record.authority = .repeating 9 := by
  obtain ⟨x, plain, checked⟩ := exists_run_of_exec
    (show (exec (step sampleDerive) (start .sample) fetchedRecord).map (fun x =>
        (step sampleDerive x (.task Task.delegatedQuery [0])).isSome &&
          decide (.rpc RoutingTable.sampleNode.client ∈ (Task.delegatedQuery.perform x.server).2)) =
      some true by decide +kernel)
  simp only [Bool.and_eq_true, decide_eq_true_eq] at checked
  obtain ⟨performed, made⟩ := checked
  obtain ⟨y, fired⟩ := Option.isSome_iff_exists.mp performed
  have run : Run (Guarded Fits (Fires (step sampleDerive))) (start .sample) fetchedRecord x := by
    apply plain.guarded
    intro action member x
    rcases List.mem_append.mp member with first | others
    · obtain ⟨_, _, rfl⟩ := List.mem_map.mp (List.mem_of_mem_take first)
      trivial
    · rcases List.mem_cons.mp others with rfl | last
      · trivial
      · obtain ⟨_, _, rfl⟩ := List.mem_map.mp (List.mem_of_mem_drop last)
        trivial
  obtain ⟨_, _, reported⟩ := contacts_rest_on_reports run fired rfl trivial made
  obtain ⟨slot, record, attested, same⟩ :=
    reported (.repeating 1) (.repeating 9) (List.mem_singleton_self _)
  exact ⟨x, y, slot, record, run, fired, made, attested, same⟩

end Service

end MagicRouter
