import MagicRouter.Server.Router

/-! Where the ids of requests and subscribers come from (`types.rs`): all tasks of the
process draw them from one counter, at any time before they use them. -/

namespace MagicRouter

open Library Connection

/-- The counter behind `UniqueId::generate`, and how often it was drawn from. Requests
and subscribers share it. -/
structure UniqueId where
  counter : UInt64
  issued : Nat

namespace UniqueId

def start : UniqueId where
  counter := 1
  issued := 0

/-- `fetch_add` gives the value there was; the counter wraps around. -/
def generate (ids : UniqueId) : Nat × UniqueId :=
  (ids.counter.toNat, { counter := ids.counter + 1, issued := ids.issued + 1 })

/-- The counter has the value its draws have led to. -/
def Exact (ids : UniqueId) : Prop :=
  ids.counter.toNat = (1 + ids.issued) % 2 ^ 64

/-- The id was drawn before. -/
def Issued (ids : UniqueId) (id : Nat) : Prop :=
  ∃ earlier < ids.issued, id = (1 + earlier) % 2 ^ 64

variable {ids : UniqueId}

theorem Exact.initial : start.Exact := rfl

theorem Exact.generate (exact : ids.Exact) : ids.generate.2.Exact := by
  have value : ids.counter.toNat = (1 + ids.issued) % 2 ^ 64 := exact
  simp only [UniqueId.generate, Exact, UInt64.toNat_add, UInt64.toNat_one, value]
  omega

theorem Issued.later {id : Nat} (issued : ids.Issued id) : ids.generate.2.Issued id := by
  obtain ⟨earlier, before, same⟩ := issued
  exact ⟨earlier, Nat.lt_succ_of_lt before, same⟩

theorem issued_generate (exact : ids.Exact) : ids.generate.2.Issued ids.generate.1 :=
  ⟨ids.issued, Nat.lt_succ_self _, exact⟩

/-- Until the counter has gone round, what it gives was not drawn before. -/
theorem fresh_generate (exact : ids.Exact) (few : ids.issued < 2 ^ 64) :
    ¬ ids.Issued ids.generate.1 := by
  rintro ⟨earlier, before, same⟩
  have value : ids.generate.1 = (1 + ids.issued) % 2 ^ 64 := exact
  omega

end UniqueId

/-- The id a connection draws for an unsubscription it knows a subscription of. -/
def Connection.WebsocketConnection.draws (c : WebsocketConnection) : Input → List Nat
  | .unsubscription unsub id =>
    if (c.requestToSubs.lookup unsub.requestId).isSome then [id.val] else []
  | .received _ | .request _ | .ping => []

/-- All ids a step uses. -/
def Router.draws (transactionLib : TransactionLibrary) (s : Router) : Router.Action → List Nat
  | .iterate source event =>
    ((s.network.members source.pool)[source.member]?).toList.flatMap fun session =>
      session.connection.draws event.input
  | action => (s.generated transactionLib action).toList.flatMap fun ids => [ids.1.val, ids.2.val]

theorem Router.draws_generated {transactionLib : TransactionLibrary} {s : Router}
    {action : Router.Action} {ids : SubscriberId × RequestId}
    (generated : s.generated transactionLib action = some ids) :
    ids.2.val ∈ s.draws transactionLib action := by
  cases action with
  | iterate source event => cases generated
  | _ => simp [Router.draws, generated]

/-- The router with the counter of its ids. -/
structure Process where
  router : Router
  ids : UniqueId
  /-- ids that some task has drawn and not used yet -/
  held : List Nat

namespace Process

def new (connectionsPerUpstream : Nat) : Process where
  router := .new connectionsPerUpstream
  ids := .start
  held := []

inductive Action where
  /-- a task draws an id -/
  | generate
  | act (action : Router.Action)

/-- The ids left once some are used, each at most once. -/
def spend (held : List Nat) : List Nat → Option (List Nat)
  | [] => some held
  | id :: rest => if id ∈ held then spend (held.erase id) rest else none

def step (lib : UpdaterLibrary) (transactionLib : TransactionLibrary) (s : Process) :
    Action → Option Process
  | .generate => some { s with ids := s.ids.generate.2, held := s.held ++ [s.ids.generate.1] }
  | .act action =>
    (spend s.held (s.router.draws transactionLib action)).bind fun held =>
      (s.router.step lib transactionLib action).map fun router => { s with router, held }

variable {lib : UpdaterLibrary} {transactionLib : TransactionLibrary} {s t : Process}
variable {actions : List Action} {count : Nat}

theorem step_act {action : Router.Action}
    (fired : s.step lib transactionLib (.act action) = some t) :
    spend s.held (s.router.draws transactionLib action) = some t.held ∧
      s.router.step lib transactionLib action = some t.router ∧ t.ids = s.ids := by
  obtain ⟨held, spent, fired⟩ := Option.bind_eq_some_iff.mp fired
  obtain ⟨router, moved, rfl⟩ := Option.map_eq_some_iff.mp fired
  exact ⟨spent, moved, rfl⟩

/-- In every run of the process, the router goes through a run of its own. -/
theorem router_run (run : Run (Fires (step lib transactionLib)) (new count) actions s) :
    ∃ labels, Run (Fires (Router.step lib transactionLib)) (.new count) labels s.router := by
  induction run with
  | nil => exact ⟨[], .nil⟩
  | @snoc _ _ action _ _ last ih =>
    obtain ⟨labels, moved⟩ := ih
    cases action with
    | generate =>
      cases last
      exact ⟨labels, moved⟩
    | act action => exact ⟨_, .snoc moved (step_act last).2.1⟩

/-- What is spent was held, once each, and is held no longer. -/
theorem spend_spec {held used left : List Nat} (distinct : held.Nodup)
    (spent : spend held used = some left) :
    left.Nodup ∧ left ⊆ held ∧ ∀ id ∈ used, id ∈ held ∧ id ∉ left := by
  induction used generalizing held with
  | nil =>
    cases spent
    exact ⟨distinct, List.Subset.refl _, List.forall_mem_nil _⟩
  | cons first rest ih =>
    simp only [spend] at spent
    split at spent
    · rename_i present
      obtain ⟨distinct', fewer, gone⟩ := ih (distinct.erase first) spent
      refine ⟨distinct', fun id member => List.mem_of_mem_erase (fewer member),
        List.forall_mem_cons.mpr ⟨⟨present, ?_⟩, ?_⟩⟩
      · intro still
        exact ((distinct.mem_erase_iff).mp (fewer still)).1 rfl
      · intro id member
        obtain ⟨before, after⟩ := gone id member
        exact ⟨List.mem_of_mem_erase before, after⟩
    · cases spent

/-- The ids in use are ones that were drawn, and that nobody holds to use them again. -/
structure Ledger (s : Process) (used : List Nat) : Prop where
  counter : s.ids.Exact
  distinct : s.held.Nodup
  held : ∀ id ∈ s.held, s.ids.Issued id
  used : ∀ id ∈ used, s.ids.Issued id ∧ id ∉ s.held

namespace Ledger

variable {used : List Nat}

theorem initial (count : Nat) : Ledger (new count) [] where
  counter := .initial
  distinct := .nil
  held := List.forall_mem_nil _
  used := List.forall_mem_nil _

theorem generate (ledger : Ledger s used) (few : s.ids.issued < 2 ^ 64) :
    Ledger { s with ids := s.ids.generate.2, held := s.held ++ [s.ids.generate.1] } used := by
  have fresh := UniqueId.fresh_generate ledger.counter few
  refine ⟨ledger.counter.generate, ?_, ?_, ?_⟩
  · refine List.nodup_append.mpr ⟨ledger.distinct, List.nodup_singleton _, ?_⟩
    rintro id before _ last rfl
    rw [List.mem_singleton.mp last] at before
    exact fresh (ledger.held _ before)
  · intro id member
    rcases List.mem_append.mp member with before | last
    · exact (ledger.held id before).later
    · rw [List.mem_singleton.mp last]
      exact UniqueId.issued_generate ledger.counter
  · intro id member
    obtain ⟨issued, free⟩ := ledger.used id member
    refine ⟨issued.later, ?_⟩
    intro held
    rcases List.mem_append.mp held with before | last
    · exact free before
    · rw [List.mem_singleton.mp last] at issued
      exact fresh issued

/-- What a step uses was not in use. -/
theorem spend {ids left : List Nat} (ledger : Ledger s used)
    (spent : Process.spend s.held ids = some left) (router : Router) :
    (∀ id ∈ ids, id ∉ used) ∧ Ledger { s with router, held := left } (used ++ ids) := by
  obtain ⟨distinct, fewer, gone⟩ := spend_spec ledger.distinct spent
  refine ⟨?_, ledger.counter, distinct, fun id member => ledger.held id (fewer member), ?_⟩
  · intro id member before
    exact (ledger.used id before).2 (gone id member).1
  · intro id member
    rcases List.mem_append.mp member with before | now
    · obtain ⟨issued, free⟩ := ledger.used id before
      exact ⟨issued, fun held => free (fewer held)⟩
    · obtain ⟨present, free⟩ := gone id now
      exact ⟨ledger.held id present, free⟩

end Ledger

/-- The count of drawn ids does not go back. -/
theorem step_issued {action : Action} (fired : s.step lib transactionLib action = some t) :
    s.ids.issued ≤ t.ids.issued := by
  cases action with
  | generate =>
    cases fired
    exact Nat.le_succ _
  | act action => rw [(step_act fired).2.2]

end Process

end MagicRouter
