import MagicRouter.Server.HandlerRun

/-! How many subscriptions a handler has with the node its account is delegated to.
Each of them is sent every update of the account, and the handler passes on all it
is sent. -/

namespace MagicRouter.HandlerRun

open Library

/-- The node the account is delegated to, if the table has it. -/
def nodeOf (context : HandlerContext) : Option RemoteHandle :=
  context.authority.bind context.routes.ephemeralHandle

/-- The account is delegated to the ER of the identity, whose websocket is at the URL. -/
structure DelegatedTo (identity : Pubkey) (url : Url) (context : HandlerContext) : Prop where
  authority : context.authority = some identity
  at_url : ∀ node, context.routes.ephemeralHandle identity = some node → node.ws = url

/-- The confirmed registrations at the URL that are neither lost nor unsubscribed by
their connections. -/
def served (s : HandlerRun) (url : Url) : List Registration :=
  (s.live ++ s.leaving).filter fun reg => reg.sub.destination = url

/-- How many subscriptions to the URL are dispatched, or confirmed and live. -/
def copies (s : HandlerRun) (url : Url) : Nat :=
  (s.outstanding.countP fun sub => sub.destination = url) + (s.served url).length

/-- An update of the URL's account as the handler sees it: one notification for each
registration there. -/
def Update (s : HandlerRun) (url : Url) (payload : Json) : List HandlerEvent → Prop :=
  List.Forall₂ (fun reg event => ∃ context, event = .notified reg payload context) (s.served url)

/-- There is at most one subscription to the URL, and the client is sent at most one
copy of an update. -/
structure Single (url : Url) (s : HandlerRun) : Prop where
  single : s.copies url ≤ 1
  once : ∀ payload events t, s.Update url payload events → Run (Fires step) s events t →
    t.forwarded.length ≤ s.forwarded.length + 1

/-- A notification of the base chain that the account is delegated to a known node
comes while there is no subscription to the URL; so does the loss of one that the
handler has a handle for, apart from the lost one itself. -/
def Alone (url : Url) (s : HandlerRun) : HandlerEvent → Prop
  | .notified reg payload context => reg.sub.upstream = .chain → Delegating payload →
      (nodeOf context).isSome → s.copies url = 0
  | .lost reg context => reg.sub.requestId ∈ s.handler.handles →
      (nodeOf context).isSome → (s.forget reg).copies url = 0
  | _ => True

variable {s t : HandlerRun} {event : HandlerEvent} {events : List HandlerEvent} {url : Url}
variable {reg : Registration} {sub : Subscription} {context reference : HandlerContext}
variable {identity : Pubkey}

theorem copies_eq (s : HandlerRun) (url : Url) :
    s.copies url = (s.outstanding.countP fun sub => sub.destination = url) +
      (s.live.countP fun reg => reg.sub.destination = url) +
      s.leaving.countP fun reg => reg.sub.destination = url := by
  simp [copies, served, List.countP_eq_length_filter, Nat.add_assoc]

theorem copies_dispatch (s : HandlerRun) (sub : Subscription) :
    (s.dispatch sub).copies sub.destination = s.copies sub.destination + 1 := by
  simp only [copies_eq, dispatch, List.countP_append, List.countP_singleton]
  simp
  omega

theorem copies_dispatch_le_one_iff (s : HandlerRun) (sub : Subscription) :
    (s.dispatch sub).copies sub.destination ≤ 1 ↔ s.copies sub.destination = 0 := by
  rw [copies_dispatch]
  omega

/-- An unsubscription counts only once the connection has seen it. -/
theorem copies_unsubscribe (s : HandlerRun) (requestId : RequestId) (handle : SubscriptionHandle)
    (url : Url) : (s.unsubscribe requestId handle).copies url = s.copies url := by
  have parted := List.countP_eq_countP_filter_add s.live (fun reg => reg.sub.destination = url)
    fun reg => decide (handle.unsub = reg.connection) && decide (requestId = reg.sub.requestId)
  simp only [copies_eq, unsubscribe, untrack, List.countP_append]
  omega

theorem copies_forget_le (s : HandlerRun) (reg : Registration) (url : Url) :
    (s.forget reg).copies url ≤ s.copies url := by
  simp only [copies_eq, forget_outstanding]
  exact Nat.add_le_add (Nat.add_le_add_left forget_live_sublist.countP_le _)
    forget_leaving_sublist.countP_le

theorem copies_confirm (waiting : sub ∈ s.outstanding) (connection : UnsubChannel) (url : Url) :
    (s.confirm sub connection).copies url = s.copies url := by
  have moved := (List.perm_cons_erase waiting).countP_eq fun sub => decide (sub.destination = url)
  simp only [List.countP_cons] at moved
  simp only [copies_eq, confirm, List.countP_cons]
  omega

/-- A step passes on at most one notification. -/
theorem Step.forwarded_le (step : Step s event t) : t.forwarded.length ≤ s.forwarded.length + 1 := by
  have passes (u : HandlerRun) (context : HandlerContext) (payload : Json) :
      (u.forward context payload).forwarded.length ≤ u.forwarded.length + 1 := by
    simp only [forward]
    split
    · simp
    · omega
  cases step with
  | passed | delegated | undelegated => exact passes _ _ _
  | confirmed | ignored | stranded | redispatched | cancelled | closed => exact Nat.le_succ _

theorem forwarded_le (run : Run (Fires step) s events t) :
    t.forwarded.length ≤ s.forwarded.length + events.length := by
  induction run with
  | nil => simp
  | snoc _ last ih =>
    have added := (step_sound last).forwarded_le
    rw [List.length_append, List.length_singleton]
    omega

theorem single_iff : Single url s ↔ s.copies url ≤ 1 := by
  constructor
  · exact Single.single
  · intro single
    refine ⟨single, ?_⟩
    intro payload events t update run
    have added := forwarded_le run
    have sent : (s.served url).length = events.length := update.length_eq
    simp only [copies] at single
    omega

theorem DelegatedTo.nodeOf_eq (delegated : DelegatedTo identity url context) :
    nodeOf context = context.routes.ephemeralHandle identity := by
  simp [nodeOf, delegated.authority]

theorem DelegatedTo.redestination_eq (delegated : DelegatedTo identity url context) :
    (AccountSubscriptionHandler.redestination context).1 = (nodeOf context).map (·.ws) := by
  simp [AccountSubscriptionHandler.redestination, delegated.nodeOf_eq, delegated.authority]

/-- From a state with one subscription at most, the steps that lead to another such
state are those that find the handler alone. -/
theorem Single.step_iff (single : Single url s) (delegated : event.Reads (DelegatedTo identity url))
    (step : Step s event t) : Single url t ↔ Alone url s event := by
  rw [single_iff]
  have before := single.single
  cases step with
  | confirmed waiting =>
    refine ⟨fun _ => trivial, fun _ => ?_⟩
    exact Nat.le_trans (Nat.le_of_eq (copies_confirm waiting _ _)) before
  | passed known settled untracked =>
    refine ⟨fun _ chain delegating found => ?_, fun _ => before⟩
    have unknown := settled chain delegating identity delegated.authority
    simp [delegated.nodeOf_eq, unknown] at found
  | @delegated reg payload other node context known chain delegating authority found =>
    cases authority.symm.trans delegated.authority
    cases delegated.at_url node found
    apply (copies_dispatch_le_one_iff s (s.handler.ephemSubscription context node)).trans
    constructor
    · intro none_before _ _ _
      exact none_before
    · intro alone
      exact alone chain delegating (by simp [delegated.nodeOf_eq, found])
  | undelegated known ephem delegating tracked =>
    refine ⟨fun _ chain => ?_, fun _ => ?_⟩
    · cases chain.symm.trans ephem
    · exact Nat.le_trans (Nat.le_of_eq (copies_unsubscribe s _ _ _)) before
  | ignored known untracked =>
    refine ⟨fun _ tracked => absurd tracked untracked, fun _ => ?_⟩
    exact Nat.le_trans (copies_forget_le s _ _) before
  | stranded known tracked nowhere =>
    refine ⟨fun _ _ found => ?_, fun _ => ?_⟩
    · rw [delegated.redestination_eq, Option.map_eq_none_iff] at nowhere
      simp [nowhere] at found
    · exact Nat.le_trans (copies_forget_le s _ _) before
  | @redispatched reg handle context target known tracked redirected =>
    rw [delegated.redestination_eq, Option.map_eq_some_iff] at redirected
    obtain ⟨node, found, rfl⟩ := redirected
    cases delegated.at_url node (delegated.nodeOf_eq ▸ found)
    have present : reg.sub.requestId ∈ s.handler.handles :=
      AList.lookup_isSome.mp (by simp [tracked])
    refine (copies_dispatch_le_one_iff ((s.forget reg).untrack reg.sub.requestId)
      (s.handler.resubscription handle node.ws)).trans ?_
    constructor
    · intro none_left _ _
      exact none_left
    · intro alone
      exact alone present (by simp [found])
  | cancelled leaving =>
    refine ⟨fun _ => trivial, fun _ => ?_⟩
    refine Nat.le_trans ?_ before
    simp only [copies_eq]
    exact Nat.add_le_add_left List.erase_sublist.countP_le _
  | closed => exact ⟨fun _ => trivial, fun _ => before⟩

section Run

variable {tx : Channel} {pubkey : Pubkey} {params : Option RpcAccountInfoConfig}
variable {pending : PendingAccountSubscription} {routes : RoutingTable}

/-- `account_subscribe` did not send both of its subscriptions to the URL. -/
def Apart (url : Url) (reference : HandlerContext) : Prop :=
  ∀ node, nodeOf reference = some node → node.ws = url → reference.routes.baseChain.1.wsUrl ≠ url

theorem single_start_iff (url : Url)
    (subscribed : WebsocketServer.accountSubscribe reference tx pubkey params = (.ok pending, routes)) :
    Single url (start pending) ↔ Apart url reference := by
  obtain ⟨chain, _, destination, sent⟩ := accountSubscribe_sent subscribed
  rw [single_iff, copies_eq]
  simp only [start, List.countP_nil, Nat.add_zero, sent, Apart, nodeOf]
  have one : [chain].countP (fun sub => decide (sub.destination = url)) ≤ 1 := List.countP_le_length
  cases found : reference.authority.bind reference.routes.ephemeralHandle with
  | none => simpa using one
  | some node =>
    by_cases toNode : node.ws = url
    · by_cases toChain : reference.routes.baseChain.1.wsUrl = url
      · simp [Subscription.cloneWithDestination, destination, toNode, toChain]
      · simp [Subscription.cloneWithDestination, destination, toNode, toChain]
    · simpa [Subscription.cloneWithDestination, toNode] using one

/-- While the account stays delegated to one node, the handler has at most one
subscription there exactly if it did not start with two and takes every message that
makes it dispatch another one when there is none. -/
theorem at_most_one_iff
    (subscribed : WebsocketServer.accountSubscribe reference tx pubkey params = (.ok pending, routes))
    (delegated : ∀ event ∈ events, event.Reads (DelegatedTo identity url))
    (run : Run (Fires step) (start pending) events s) :
    Throughout step (Single url) (start pending) events ↔
      Apart url reference ∧ Run (Guarded (Alone url) (Fires step)) (start pending) events s := by
  rw [← single_start_iff url subscribed]
  apply throughout_iff_good_and_guarded (fun _ => True) trivial _ _ run delegated
  · intro _ _ _ _ _ _
    exact trivial
  · intro s event t delegated _ single fired
    exact single.step_iff delegated (step_sound fired)

end Run

section Sample

/-- The websocket of the node that the sample account is delegated to. -/
def sampleUrl : Url := RoutingTable.sampleNode.wsUrl

theorem sample_delegated : DelegatedTo (.repeating 9) sampleUrl delegatedContext where
  authority := rfl
  at_url node found := by
    obtain rfl := Option.some.inj found
    rfl

/-- The base chain says once that the account is delegated; the subscription to the
node is lost after it was confirmed. -/
def followedOnce : List HandlerEvent :=
  [.confirmed Sources.chainSub ⟨1⟩ delegatedContext,
    .notified chainReg delegatingPayload delegatedContext,
    .confirmed followSub ⟨0⟩ delegatedContext,
    .lost { sub := followSub, connection := ⟨0⟩ } delegatedContext]

theorem at_most_one_followed_once :
    Throughout step (Single sampleUrl) (start chainPending) followedOnce := by
  let alone (s : HandlerRun) (event : HandlerEvent) : Bool := match event with
    | .notified .. => s.copies sampleUrl = 0
    | .lost reg _ => (s.forget reg).copies sampleUrl = 0
    | _ => true
  obtain ⟨s, checkedRun, _⟩ := exists_run_of_exec
    (show (exec (checkedStep alone step) (start chainPending) followedOnce).map
      (fun s => s.live.length == 1) = some true by decide +kernel)
  have guarded :
      Run (Guarded (Alone sampleUrl) (Fires step)) (start chainPending) followedOnce s := by
    apply checkedRun.guarded_of_checked
    intro s event allowed
    cases event with
    | notified reg payload context =>
      intro _ _ _
      simpa [alone] using allowed
    | lost reg context =>
      intro _ _
      simpa [alone] using allowed
    | _ => trivial
  have delegated : ∀ event ∈ followedOnce, event.Reads (DelegatedTo (.repeating 9) sampleUrl) := by
    simpa [followedOnce, HandlerEvent.Reads] using sample_delegated
  have apart : Apart sampleUrl undelegatedContext := by
    intro node found
    simp [nodeOf, undelegatedContext] at found
  exact (at_most_one_iff chain_subscribed delegated guarded.unguarded).mpr ⟨apart, guarded⟩

/-- An account that was delegated all along is followed a second time when the base
chain next says so. -/
theorem delegated_followed_twice :
    ¬ ∀ reference tx pubkey params pending routes identity url events s,
      DelegatedTo identity url reference →
      WebsocketServer.accountSubscribe reference tx pubkey params = (.ok pending, routes) →
      (∀ event ∈ events, event.Reads (DelegatedTo identity url)) →
      Run (Fires step) (start pending) events s → s.copies url ≤ 1 := by
  intro claimed
  obtain ⟨s, run, checked⟩ := exists_run_of_exec
    (show (exec step (start Sources.samplePending)
        [.confirmed Sources.chainSub ⟨1⟩ delegatedContext,
          .notified chainReg delegatingPayload delegatedContext]).map
      (fun s => s.copies sampleUrl == 2) = some true by decide +kernel)
  have single := claimed Sources.sampleContext _ _ _ _ _ (.repeating 9) sampleUrl _ s
    ⟨sample_delegated.authority, sample_delegated.at_url⟩
    Sources.sample_subscribed (by simpa [HandlerEvent.Reads] using sample_delegated) run
  rw [beq_iff_eq.mp checked] at single
  omega

end Sample

end MagicRouter.HandlerRun
