import Mathlib.Data.Set.Defs
import MagicRouter.Server.HandlerRun

/-! The upstream kinds that subscriptions are tagged with. The tag decides what a
handler makes of a notification, so it should say where the subscription was sent. -/

namespace MagicRouter

open Library

/-- The nodes of the table have websocket URLs in `er`, its base-chain upstreams
have theirs in `chain`. -/
structure RoutingTable.Sorted (er chain : Set Url) (routes : RoutingTable) : Prop where
  ephem : ∀ identity node, routes.ephemeralHandle identity = some node → node.ws ∈ er
  chain : ∀ url ∈ routes.chainUrls, url ∈ chain

/-- The tag says which kind of upstream the destination is. -/
structure Subscription.WellTagged (er chain : Set Url) (sub : Subscription) : Prop where
  ephem_iff : sub.upstream = .ephem ↔ sub.destination ∈ er
  chain_iff : sub.upstream = .chain ↔ sub.destination ∈ chain

namespace HandlerRun

variable {er chain : Set Url} {sub : Subscription} {url : Url} {context reference : HandlerContext}
variable {s t : HandlerRun} {event : HandlerEvent} {events : List HandlerEvent}

/-- All that was dispatched is tagged as it should be, and so is every notification
that can arrive: it carries the tag of the registration it comes from. -/
structure Tagged (er chain : Set Url) (s : HandlerRun) : Prop where
  dispatched : ∀ sub ∈ s.dispatched, sub.WellTagged er chain
  notified : ∀ reg payload context t, step s (.notified reg payload context) = some t →
    reg.sub.WellTagged er chain

/-- A lost subscription is dispatched again only where its tag still belongs: one to
the ER while the account is delegated, one to the base chain while it is not. -/
def InPlace (s : HandlerRun) : HandlerEvent → Prop
  | .lost reg context => ∀ handle url, s.handler.handles.lookup reg.sub.requestId = some handle →
      (AccountSubscriptionHandler.redestination context).1 = some url →
      (handle.upstream = .ephem ↔ context.authority.isSome)
  | _ => True

theorem wellTagged_iff_ephem (disjoint : ∀ url ∈ er, url ∉ chain) (member : sub.destination ∈ er) :
    sub.WellTagged er chain ↔ sub.upstream = .ephem := by
  have elsewhere : sub.destination ∉ chain := disjoint _ member
  constructor
  · intro tagged
    exact tagged.ephem_iff.mpr member
  · intro ephem
    constructor
    · simp [ephem, member]
    · simp [ephem, elsewhere]

theorem wellTagged_iff_chain (disjoint : ∀ url ∈ er, url ∉ chain) (member : sub.destination ∈ chain) :
    sub.WellTagged er chain ↔ sub.upstream = .chain := by
  have elsewhere : sub.destination ∉ er := fun node => disjoint _ node member
  constructor
  · intro tagged
    exact tagged.chain_iff.mpr member
  · intro onChain
    constructor
    · simp [onChain, elsewhere]
    · simp [onChain, member]

/-- A lost subscription goes to an ER if the account is delegated, and to the base
chain if it is not. -/
theorem redestination_sorted (sorted : context.routes.Sorted er chain)
    (redirected : (AccountSubscriptionHandler.redestination context).1 = some url) :
    (context.authority.isSome → url ∈ er) ∧ (context.authority = none → url ∈ chain) := by
  unfold AccountSubscriptionHandler.redestination at redirected
  cases authority : context.authority with
  | none =>
    simp only [authority, Option.some.injEq] at redirected
    subst redirected
    refine ⟨by simp, fun _ => ?_⟩
    exact sorted.chain _ (Sources.baseChain_mem context.routes)
  | some identity =>
    simp only [authority, Option.map_eq_some_iff] at redirected
    obtain ⟨node, found, rfl⟩ := redirected
    exact ⟨fun _ => sorted.ephem identity node found, by simp⟩

theorem resubscription_wellTagged_iff {handler : AccountSubscriptionHandler}
    {handle : SubscriptionHandle} (disjoint : ∀ url ∈ er, url ∉ chain)
    (sorted : context.routes.Sorted er chain)
    (redirected : (AccountSubscriptionHandler.redestination context).1 = some url) :
    (handler.resubscription handle url).WellTagged er chain ↔
      (handle.upstream = .ephem ↔ context.authority.isSome) := by
  obtain ⟨toNode, toChain⟩ := redestination_sorted sorted redirected
  cases authority : context.authority with
  | none =>
    rw [wellTagged_iff_chain disjoint (toChain authority)]
    cases kind : handle.upstream <;> simp [AccountSubscriptionHandler.resubscription, kind]
  | some identity =>
    rw [wellTagged_iff_ephem disjoint (toNode (by simp [authority]))]
    simp [AccountSubscriptionHandler.resubscription]

/-- Whatever a message may come from was dispatched. -/
structure Recorded (s : HandlerRun) : Prop where
  outstanding : ∀ sub ∈ s.outstanding, sub ∈ s.dispatched
  listening : ∀ reg ∈ s.listening, reg.sub ∈ s.dispatched

theorem Recorded.tagged_iff (recorded : Recorded s) :
    Tagged er chain s ↔ ∀ sub ∈ s.dispatched, sub.WellTagged er chain := by
  constructor
  · exact Tagged.dispatched
  · intro tagged
    refine ⟨tagged, ?_⟩
    intro reg payload context t fired
    have known : reg ∈ s.listening := by
      cases step_sound fired with
      | passed known | delegated known | undelegated known => exact known
    exact tagged _ (recorded.listening reg known)

theorem Recorded.dispatch (recorded : Recorded s) (sub : Subscription) : Recorded (s.dispatch sub) := by
  constructor
  · intro other member
    rcases List.mem_append.mp member with old | new
    · exact List.mem_append_left _ (recorded.outstanding other old)
    · exact List.mem_append_right _ new
  · intro reg member
    exact List.mem_append_left _ (recorded.listening reg member)

theorem Recorded.forget (recorded : Recorded s) (reg : Registration) : Recorded (s.forget reg) := by
  constructor
  · simpa using recorded.outstanding
  · intro other member
    simpa using recorded.listening other (forget_listening_subset member)

theorem Recorded.untrack (recorded : Recorded s) (requestId : RequestId) :
    Recorded (s.untrack requestId) :=
  ⟨recorded.outstanding, recorded.listening⟩

theorem Recorded.step (recorded : Recorded s) (step : Step s event t) : Recorded t := by
  cases step with
  | confirmed waiting =>
    constructor
    · intro other member
      exact recorded.outstanding other (List.mem_of_mem_erase member)
    · intro reg member
      rcases List.mem_cons.mp member with rfl | earlier
      · exact recorded.outstanding _ waiting
      · exact recorded.listening reg earlier
  | passed | closed => exact ⟨recorded.outstanding, recorded.listening⟩
  | delegated =>
    have added := recorded.dispatch
    exact ⟨(added _).outstanding, (added _).listening⟩
  | undelegated =>
    constructor
    · exact recorded.outstanding
    · intro reg member
      exact recorded.listening reg ((mem_listening_unsubscribe _ _).mp member)
  | ignored => exact recorded.forget _
  | stranded => exact (recorded.forget _).untrack _
  | redispatched => exact ((recorded.forget _).untrack _).dispatch _
  | cancelled leaving =>
    constructor
    · exact recorded.outstanding
    · intro reg member
      apply recorded.listening reg
      simp only [HandlerRun.listening, List.mem_append, List.mem_cons] at member ⊢
      rcases member with (live | left) | rfl | gone
      · exact .inl (.inl live)
      · exact .inl (.inr (List.mem_of_mem_erase left))
      · exact .inl (.inr leaving)
      · exact .inr gone

/-- From a well-tagged state, the steps that lead to another one are those that leave
the lost subscriptions in place. -/
theorem Tagged.step_iff (disjoint : ∀ url ∈ er, url ∉ chain) (recorded : Recorded s)
    (sorted : event.Reads (·.routes.Sorted er chain)) (tagged : Tagged er chain s)
    (step : Step s event t) : Tagged er chain t ↔ InPlace s event := by
  rw [(recorded.step step).tagged_iff]
  have before := tagged.dispatched
  cases step with
  | confirmed | passed | undelegated | cancelled | closed => exact ⟨fun _ => trivial, fun _ => before⟩
  | @delegated reg payload context identity node known _ _ _ found =>
    refine ⟨fun _ => trivial, fun _ sub member => ?_⟩
    rcases List.mem_append.mp member with old | new
    · exact before sub old
    · rw [List.mem_singleton.mp new]
      exact (wellTagged_iff_ephem disjoint (sorted.ephem _ _ found)).mpr rfl
  | @ignored reg context known untracked =>
    refine ⟨fun _ handle url tracked => ?_, fun _ => by simpa using before⟩
    exact absurd (AList.lookup_isSome.mp (by simp [tracked])) untracked
  | @stranded reg handle context known tracked nowhere =>
    refine ⟨fun _ handle url tracked redirected => ?_, fun _ => by simpa using before⟩
    cases nowhere.symm.trans redirected
  | @redispatched reg handle context url known tracked redirected =>
    have added : (s.handler.resubscription handle url).WellTagged er chain ↔
        (handle.upstream = .ephem ↔ context.authority.isSome) :=
      resubscription_wellTagged_iff disjoint sorted redirected
    constructor
    · intro after handle' url' tracked' redirected'
      cases tracked.symm.trans tracked'
      exact added.mp (after _ (List.mem_append_right _ (List.mem_singleton_self _)))
    · intro inPlace sub member
      rcases List.mem_append.mp member with old | new
      · exact before sub (by simpa using old)
      · rw [List.mem_singleton.mp new]
        exact added.mpr (inPlace handle url tracked redirected)

section Run

variable {tx : Channel} {pubkey : Pubkey} {params : Option RpcAccountInfoConfig}
variable {pending : PendingAccountSubscription} {routes : RoutingTable}

theorem Recorded.initial (pending : PendingAccountSubscription) : Recorded (start pending) where
  outstanding _ member := member
  listening _ member := by simp [start, HandlerRun.listening] at member

/-- What `account_subscribe` dispatches is tagged as it should be only if there is no
subscription to a node, which would carry the base chain's tag. -/
theorem tagged_start_iff (disjoint : ∀ url ∈ er, url ∉ chain)
    (subscribed : WebsocketServer.accountSubscribe reference tx pubkey params = (.ok pending, routes))
    (sorted : reference.routes.Sorted er chain) :
    Tagged er chain (start pending) ↔ reference.authority = none := by
  rw [(Recorded.initial pending).tagged_iff]
  obtain ⟨sub, tag, destination, sent⟩ := accountSubscribe_sent subscribed
  have onChain : sub.WellTagged er chain := by
    refine (wellTagged_iff_chain disjoint ?_).mpr tag
    exact sorted.chain _ (destination ▸ Sources.baseChain_mem reference.routes)
  cases authority : reference.authority with
  | none =>
    refine iff_of_true ?_ rfl
    intro other member
    obtain rfl : other = sub := by simpa [start, sent, authority] using member
    exact onChain
  | some identity =>
    obtain ⟨node, found⟩ := Sources.known_of_subscribed subscribed identity authority
    refine iff_of_false ?_ (by simp)
    intro tagged
    have member : sub.cloneWithDestination node.ws ∈ (start pending).dispatched := by
      simp [start, sent, authority, found]
    have ephem := (wellTagged_iff_ephem disjoint (sorted.ephem identity node found)).mp
      (tagged _ member)
    cases tag.symm.trans ephem

/-- The tags of an account's subscriptions match their destinations all along a run
exactly if the account was not delegated when it was subscribed to, and every lost
subscription that is dispatched again stays in place. -/
theorem tags_match_iff (disjoint : ∀ url ∈ er, url ∉ chain)
    (subscribed : WebsocketServer.accountSubscribe reference tx pubkey params = (.ok pending, routes))
    (sorted : reference.routes.Sorted er chain)
    (read : ∀ event ∈ events, event.Reads (·.routes.Sorted er chain))
    (run : Run (Fires step) (start pending) events s) :
    Throughout step (Tagged er chain) (start pending) events ↔
      reference.authority = none ∧ Run (Guarded InPlace (Fires step)) (start pending) events s := by
  rw [← tagged_start_iff disjoint subscribed sorted]
  apply throughout_iff_good_and_guarded Recorded (Recorded.initial pending) _ _ run read
  · intro s event t _ recorded fired
    exact recorded.step (step_sound fired)
  · intro s event t sorted recorded tagged fired
    exact tagged.step_iff disjoint recorded sorted (step_sound fired)

end Run

section Sample

def sampleEr : Set Url := {RoutingTable.sampleNode.wsUrl}

def sampleBaseChain : Set Url := {RoutingTable.sampleChain.wsUrl}

theorem sample_disjoint : ∀ url ∈ sampleEr, url ∉ sampleBaseChain := by
  rintro url rfl
  show RoutingTable.sampleNode.wsUrl ≠ RoutingTable.sampleChain.wsUrl
  decide

theorem sample_sorted : RoutingTable.sample.Sorted sampleEr sampleBaseChain := by
  constructor
  · intro identity node found
    obtain ⟨record, there, rfl⟩ := Option.map_eq_some_iff.mp found
    rw [RoutingTable.sample, Store.lookup_insert_if] at there
    split at there
    · cases there
      rfl
    · simp at there
  · intro url member
    exact List.mem_singleton.mp member

/-- The account is delegated after it was subscribed to, and the subscription to its
node is lost and dispatched again. -/
def delegatedLater : List HandlerEvent :=
  [.confirmed Sources.chainSub ⟨1⟩ undelegatedContext,
    .notified chainReg delegatingPayload delegatedContext,
    .confirmed followSub ⟨0⟩ delegatedContext,
    .lost { sub := followSub, connection := ⟨0⟩ } delegatedContext]

theorem tags_match_delegated_later :
    Throughout step (Tagged sampleEr sampleBaseChain) (start chainPending) delegatedLater := by
  let inPlace (s : HandlerRun) (event : HandlerEvent) : Bool := match event with
    | .lost reg context => (s.handler.handles.lookup reg.sub.requestId).all fun handle =>
        decide (handle.upstream = .ephem) == context.authority.isSome
    | _ => true
  obtain ⟨s, checkedRun, _⟩ := exists_run_of_exec
    (show (exec (checkedStep inPlace step) (start chainPending) delegatedLater).map
      (fun s => s.live.length == 1) = some true by decide +kernel)
  have guarded : Run (Guarded InPlace (Fires step)) (start chainPending) delegatedLater s := by
    apply checkedRun.guarded_of_checked
    intro s event allowed
    cases event with
    | lost reg context =>
      intro handle url tracked _
      simp only [inPlace, tracked, Option.all_some, beq_iff_eq] at allowed
      rw [← allowed, decide_eq_true_iff]
    | _ => trivial
  refine (tags_match_iff sample_disjoint chain_subscribed sample_sorted ?_ guarded.unguarded).mpr
    ⟨rfl, guarded⟩
  intro event member
  simp only [delegatedLater, List.mem_cons, List.not_mem_nil, or_false] at member
  rcases member with rfl | rfl | rfl | rfl <;> exact sample_sorted

/-- A delegated account is subscribed to with the base chain's tag at its node. -/
theorem node_tagged_as_chain :
    ¬ ∀ (er chain : Set Url) reference tx pubkey params pending routes events s,
      (∀ url ∈ er, url ∉ chain) →
      WebsocketServer.accountSubscribe reference tx pubkey params = (.ok pending, routes) →
      reference.routes.Sorted er chain →
      (∀ event ∈ events, event.Reads (·.routes.Sorted er chain)) →
      Run (Fires step) (start pending) events s → Tagged er chain s := by
  intro claimed
  have tagged := claimed sampleEr sampleBaseChain _ _ _ _ _ _ [] _ sample_disjoint
    Sources.sample_subscribed sample_sorted (by simp) .nil
  have kind := (tagged.dispatched Sources.nodeSub (by simp [start, Sources.samplePending])).ephem_iff
  have ephem : Sources.nodeSub.upstream = .ephem := kind.mpr rfl
  cases ephem

end Sample

end HandlerRun

end MagicRouter
