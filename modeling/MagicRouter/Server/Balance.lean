import MagicRouter.Library.Rotation
import MagicRouter.Library.Run
import MagicRouter.Server.Turns

/-! How evenly the base-chain upstreams are used over a run of operations. All of them
draw on one counter, and some throw away the turn they draw. -/

namespace MagicRouter

open Library

/-- The router, with the positions of the base-chain upstreams used so far. -/
structure Balance where
  server : HttpServer
  served : List Nat

/-- The upstreams as members of a rotation. -/
def BaseChainUpstreams.rotation (chain : BaseChainUpstreams) (served : List Nat) : Rotation where
  size := chain.upstreams.length
  next := chain.next
  next_lt := chain.next_lt
  served := fun i => served.count i

namespace Balance

variable {s t : Balance} {operation : Operation} {operations : List Operation}

/-- Counting starts with any table, whoever's turn it is. -/
def start (server : HttpServer) : Balance where
  server
  served := []

def chain (s : Balance) : BaseChainUpstreams := s.server.routes.baseChainUpstreams

/-- How often the upstream at this position has been used. -/
def uses (s : Balance) (i : Nat) : Nat := s.served.count i

def step (s : Balance) (operation : Operation) : Option Balance :=
  some {
    server := (operation.perform s.server).1
    served := match operation.turn s.server.routes with
      | .used => s.served ++ [s.chain.next]
      | .untouched | .discarded => s.served }

/-- No two upstreams have been used a number of times that differs by more than one. -/
def Balanced (s : Balance) : Prop :=
  ∀ i < s.chain.upstreams.length, ∀ j < s.chain.upstreams.length, s.uses i ≤ s.uses j + 1

/-- All upstreams have been used equally often. -/
def Even (s : Balance) : Prop :=
  ∀ i < s.chain.upstreams.length, ∀ j < s.chain.upstreams.length, s.uses i = s.uses j

/-- The operation does not throw away a turn. -/
def Serves (s : Balance) (operation : Operation) : Prop :=
  operation.turn s.server.routes ≠ .discarded

/-- The operation throws away a turn at most while all upstreams are even. -/
def LosesWhenEven (s : Balance) (operation : Operation) : Prop :=
  operation.turn s.server.routes = .discarded → s.Even

/-- The upstreams are balanced, and stay so as long as no turn is thrown away. -/
def StaysBalanced (s : Balance) : Prop :=
  ∀ later t, Run (Guarded Serves (Fires step)) s later t → t.Balanced

def rotation (s : Balance) : Rotation := s.chain.rotation s.served

theorem rotation_used (chain : BaseChainUpstreams) (served : List Nat) (routes : RoutingTable)
    (same : chain = routes.baseChainUpstreams) :
    routes.baseChain.2.baseChainUpstreams.rotation (served ++ [chain.next]) =
      (chain.rotation served).use := by
  subst same
  simp only [BaseChainUpstreams.rotation, Rotation.use, Rotation.pass, RoutingTable.baseChain,
    Rotation.mk.injEq, true_and]
  funext i
  rw [List.count_append, List.count_singleton]
  grind

/-- What a step does to the rotation. -/
theorem step_rotation (fired : step s operation = some t) :
    operation.turn s.server.routes = .untouched ∧ t.rotation = s.rotation ∨
    operation.turn s.server.routes = .used ∧ t.rotation = s.rotation.use ∨
    operation.turn s.server.routes = .discarded ∧ t.rotation = s.rotation.pass := by
  cases fired
  have described := operation.turn_describes s.server
  generalize taken : operation.turn s.server.routes = turn at described
  cases described with
  | untouched kept _ =>
    refine .inl ⟨rfl, ?_⟩
    simp only [rotation, chain, kept]
  | used passed _ =>
    refine .inr (.inl ⟨rfl, ?_⟩)
    simp only [rotation, chain, passed]
    exact rotation_used _ _ _ rfl
  | discarded passed _ =>
    refine .inr (.inr ⟨rfl, ?_⟩)
    simp only [rotation, chain, passed]
    rfl

/-- A delegation fetch, which always asks the upstream it is given. -/
def sampleFetch : Operation := .fetch (fun _ _ _ _ => .error) .default none

theorem exists_fetches (s : Balance) (count : Nat) :
    ∃ t, Run (Guarded Serves (Fires step)) s (List.replicate count sampleFetch) t ∧
      t.rotation = Rotation.use^[count] s.rotation := by
  induction count with
  | zero => exact ⟨s, .nil, rfl⟩
  | succ count ih =>
    obtain ⟨middle, earlier, reached⟩ := ih
    obtain ⟨t, fired⟩ : ∃ t, step middle sampleFetch = some t := ⟨_, rfl⟩
    refine ⟨t, ?_, ?_⟩
    · rw [List.replicate_succ']
      exact .snoc earlier ⟨by simp [Serves, sampleFetch, Operation.turn], fired⟩
    · rw [Function.iterate_succ_apply', ← reached]
      rcases step_rotation fired with ⟨taken, _⟩ | ⟨_, same⟩ | ⟨taken, _⟩
      · simp [sampleFetch, Operation.turn] at taken
      · exact same
      · simp [sampleFetch, Operation.turn] at taken

theorem steady_step (steady : s.rotation.Steady)
    (served : Guarded Serves (Fires step) s operation t) : t.rotation.Steady := by
  obtain ⟨serves, fired⟩ := served
  rcases step_rotation fired with ⟨_, same⟩ | ⟨_, same⟩ | ⟨lost, _⟩
  · rw [same]
    exact steady
  · rw [same]
    exact steady.use
  · exact absurd lost serves

/-- The balance that lasts is the steadiness of the rotation. -/
theorem staysBalanced_iff_steady : s.StaysBalanced ↔ s.rotation.Steady := by
  constructor
  · intro stays
    apply Rotation.steady_iff_level_iterate_use.mpr
    intro count
    obtain ⟨t, fetches, reached⟩ := exists_fetches s count
    have balanced : t.rotation.Level := stays _ t fetches
    rwa [reached] at balanced
  · intro steady later t run
    have kept : t.rotation.Steady := by
      induction run with
      | nil => exact steady
      | snoc _ last ih => exact steady_step ih last
    exact kept.level

theorem staysBalanced_step_iff (stays : s.StaysBalanced) (fired : step s operation = some t) :
    t.StaysBalanced ↔ s.LosesWhenEven operation := by
  have steady := staysBalanced_iff_steady.mp stays
  rw [staysBalanced_iff_steady]
  rcases step_rotation fired with ⟨taken, same⟩ | ⟨taken, same⟩ | ⟨lost, same⟩
  · rw [same]
    simp [LosesWhenEven, taken, steady]
  · rw [same]
    simp [LosesWhenEven, taken, steady.use]
  · rw [same, Rotation.steady_pass_iff steady]
    constructor
    · intro even _
      exact even
    · intro allowed
      exact allowed lost

theorem start_staysBalanced (server : HttpServer) : (start server).StaysBalanced := by
  have even : (start server).rotation.Even := by
    intro i _ j _
    rfl
  exact staysBalanced_iff_steady.mpr even.steady

/-- The number of upstreams stays what it was. -/
theorem step_length (fired : step s operation = some t) :
    t.chain.upstreams.length = s.chain.upstreams.length := by
  rcases step_rotation fired with ⟨_, same⟩ | ⟨_, same⟩ | ⟨_, same⟩
  all_goals exact congrArg Rotation.size same

theorem run_length (run : Run (Fires step) s operations t) :
    t.chain.upstreams.length = s.chain.upstreams.length := by
  induction run with
  | nil => rfl
  | snoc _ last ih => exact (step_length last).trans ih

/-- The index that `base_chain` draws is always below the number of upstreams. If turns
are thrown away only while the upstreams are even, they are balanced all along; and that is
exactly when the balance does not depend on turns thrown away later. -/
theorem base_chain_uses_balanced (server : HttpServer)
    (run : Run (Fires step) (start server) operations t) :
    Throughout step (fun s => s.chain.next < server.routes.baseChainUpstreams.upstreams.length)
        (start server) operations ∧
    (Run (Guarded LosesWhenEven (Fires step)) (start server) operations t →
      Throughout step Balanced (start server) operations) ∧
    (Throughout step StaysBalanced (start server) operations ↔
      Run (Guarded LosesWhenEven (Fires step)) (start server) operations t) := by
  have stays_iff : Throughout step StaysBalanced (start server) operations ↔
      Run (Guarded LosesWhenEven (Fires step)) (start server) operations t := by
    have unbounded : ∀ operation ∈ operations, (fun _ : Operation => True) operation := by simp
    rw [← and_iff_right (start_staysBalanced server) (b := Run _ _ _ _)]
    apply throughout_iff_good_and_guarded (fun _ => True) trivial _ _ run unbounded
    · intro _ _ _ _ _ _
      exact trivial
    · intro s operation t _ _ stays fired
      exact staysBalanced_step_iff stays fired
  refine ⟨?_, ?_, stays_iff⟩
  · intro before after middle _ earlier
    have length := run_length earlier
    exact length ▸ middle.chain.next_lt
  · intro guarded before after middle parts earlier
    have stays := stays_iff.mpr guarded before after middle parts earlier
    exact stays [] middle .nil

section Sample

/-- A node that answered a ping within 250 microseconds. -/
def pingedNode : UpstreamRecord := RoutingTable.sampleNode.updateProximity 250 1

def secondChain : UpstreamRecord :=
  .fresh { url := "https://chain2/", target := .chain } { scheme := "wss", rest := "//chain2/" } none

/-- A server with two base-chain upstreams and that node. -/
def sampleServer : HttpServer := .start { RoutingTable.sample with
  inner := (∅ : Store Pubkey UpstreamRecord).insert (.repeating 9) pingedNode
  baseChainUpstreams := {
    upstreams := [RoutingTable.sampleChain, secondChain], next := 0, next_lt := by decide }
  proximityStaleAfter := 30 }

/-- A client asks for the closest node, which is not the base chain. -/
def sampleIdentity : Operation :=
  .identity 2 (sampleServer.routes.inner.entries.map fun entry => (entry.1, entry.2))

/-- A turn lost before the first fetch leaves the fetches balanced. -/
theorem fetches_after_identity_balanced :
    sampleIdentity.turn sampleServer.routes = .discarded ∧
    ∃ t, Run (Fires step) (start sampleServer) [sampleIdentity, sampleFetch, sampleFetch] t ∧
      t.served = [1, 0] ∧
      Throughout step Balanced (start sampleServer) [sampleIdentity, sampleFetch, sampleFetch] := by
  have fetches (s : Balance) : s.LosesWhenEven sampleFetch := by
    intro lost
    cases lost
  obtain ⟨t, guarded, served⟩ : ∃ t, Run (Guarded LosesWhenEven (Fires step)) (start sampleServer)
      [sampleIdentity, sampleFetch, sampleFetch] t ∧ t.served = [1, 0] := by
    refine ⟨_, .cons ⟨?_, rfl⟩ (.cons ⟨fetches _, rfl⟩ (.cons ⟨fetches _, rfl⟩ .nil)), rfl⟩
    intro _ i _ j _
    rfl
  have balanced := base_chain_uses_balanced sampleServer guarded.unguarded
  exact ⟨rfl, t, guarded.unguarded, served, balanced.2.1 guarded⟩

/-- A turn lost between two fetches sends both of them to the first upstream. -/
theorem fetches_around_identity_unbalanced :
    ¬ ∀ (server : HttpServer) (operations : List Operation) (t : Balance),
      Run (Fires step) (start server) operations t →
        Throughout step (fun s =>
          s.chain.next < server.routes.baseChainUpstreams.upstreams.length ∧ s.Balanced)
          (start server) operations := by
  intro always
  obtain ⟨t, run, reached⟩ : ∃ t, Run (Fires step) (start sampleServer)
      [sampleFetch, sampleIdentity, sampleFetch] t ∧ t.served = [0, 0] ∧
        t.chain.upstreams.length = 2 := ⟨_, .of_exec rfl, rfl, rfl⟩
  have balanced := (always sampleServer _ t run _ [] t (by simp) run).2 0
    (by rw [reached.2]; decide) 1 (by rw [reached.2]; decide)
  rw [uses, uses, reached.1] at balanced
  exact absurd balanced (by decide)

end Sample

end Balance

end MagicRouter
