import MagicRouter.Pubsub.Listeners
import MagicRouter.Server.HandlerRun

/-! What a handler leaves behind when it ends. A connection takes a listener off by
the request id and the subscriber id it was registered under, so both have to be
right for every subscription that is still there. -/

namespace MagicRouter

open Library

/-- An unsubscription that the connection of the registration takes its listener off
by. -/
def HandlerEffect.removes (reg : Registration) : HandlerEffect → Bool
  | .unsubscribe connection unsub =>
    connection = reg.connection && unsub.requestId = reg.sub.requestId &&
      unsub.subscriberId = reg.sub.subscriberId
  | .dispatch _ | .notify _ | .report _ => false

/-- The connection, and what it has the listener registered under. -/
def Registration.key (reg : Registration) : UnsubChannel × RequestId × SubscriberId :=
  (reg.connection, reg.sub.requestId, reg.sub.subscriberId)

/-- The connection has a listener for the registration. -/
def Connection.WebsocketConnection.Listens (c : Connection.WebsocketConnection)
    (reg : Registration) : Prop :=
  ∃ subscription, c.requestToSubs.lookup reg.sub.requestId = some subscription ∧
    c.listener subscription reg.sub.subscriberId ≠ none

/-- What `run` sends when the client closes its sink. -/
def AccountSubscriptionHandler.unsubscriptions (handler : AccountSubscriptionHandler) :
    List HandlerEffect :=
  handler.handles.entries.map fun entry =>
    .unsubscribe entry.2.unsub (handler.accountUnsubscribe entry.1)

namespace HandlerRun

/-- What the handler has sent on its way out; before it has ended, what it would send
if its client closed the sink now. -/
def farewell (s : HandlerRun) : List HandlerEffect :=
  match s.status with
  | .ended farewell => farewell
  | .waiting | .running => s.handler.unsubscriptions

/-- Ending here takes off every listener that is still there, with exactly one
unsubscription for each. -/
structure CleanEnd (s : HandlerRun) : Prop where
  once : ∀ reg ∈ s.live, s.farewell.countP (HandlerEffect.removes reg) = 1
  apart : s.live.Pairwise fun reg other => reg.key ≠ other.key
  removed : ∀ reg ∈ s.live, ∀ connection unsub, .unsubscribe connection unsub ∈ s.farewell →
    HandlerEffect.removes reg (.unsubscribe connection unsub) →
    ∀ (c : Connection.WebsocketConnection) id event, ¬ (c.unsubscribe unsub id event).1.Listens reg

/-- A subscription is confirmed under the handler's own subscriber id and a request id
that no live one has; a loss leaves no live one with the request id of the lost one;
and a notification that can not be sent to the client unsubscribes all live ones. -/
def Owned (s : HandlerRun) : HandlerEvent → Prop
  | .confirmed sub _ _ => sub.subscriberId = s.handler.subscriberId ∧
      ∀ reg ∈ s.live, reg.sub.requestId ≠ sub.requestId
  | .notified reg payload context => context.serialized = true → context.delivered = false →
      ∀ other ∈ s.live, reg.sub.upstream = .ephem ∧ Delegating payload ∧
        other.sub.requestId = reg.sub.requestId
  | .lost reg _ => ∀ other ∈ (s.forget reg).live, other.sub.requestId ≠ reg.sub.requestId
  | .cancelled _ | .closed _ => True

variable {s t : HandlerRun} {event : HandlerEvent} {events : List HandlerEvent}
variable {reg : Registration} {sub : Subscription} {context : HandlerContext} {payload : Json}
variable {requestId : RequestId} {handle : SubscriptionHandle}

theorem close_effects (routes : RoutingTable) (handler : AccountSubscriptionHandler) :
    (handler.close routes).effects = handler.unsubscriptions :=
  rfl

/-- A connection that takes the unsubscription has no such listener any more. -/
theorem not_listens_unsubscribe {unsub : Unsubscription}
    (request : unsub.requestId = reg.sub.requestId)
    (subscriber : unsub.subscriberId = reg.sub.subscriberId)
    (c : Connection.WebsocketConnection) (id : RequestId) (event : Connection.Event) :
    ¬ (c.unsubscribe unsub id event).1.Listens reg := by
  rintro ⟨subscription, mapped, listens⟩
  unfold Connection.WebsocketConnection.unsubscribe at mapped listens
  rw [request] at mapped listens
  cases known : c.requestToSubs.lookup reg.sub.requestId with
  | none =>
    rw [known] at mapped
    cases known.symm.trans mapped
  | some subid =>
    rw [known] at mapped listens
    cases present : c.subscriptions.lookup subid with
    | none =>
      simp only [present] at mapped listens
      cases known.symm.trans mapped
      exact listens (by simp [Connection.WebsocketConnection.listener, present])
    | some subscribers =>
      simp only [present, Connection.WebsocketConnection.afterSend] at mapped listens
      cases sent : event.sent with
      | false => simp [sent, Connection.WebsocketConnection.reestablish] at mapped
      | true =>
        simp only [sent, if_true] at mapped listens
        cases known.symm.trans mapped
        rw [Connection.WebsocketConnection.listener_setListeners, subscriber] at listens
        simp at listens

/-- The handler would send exactly one unsubscription for the registration if it has
the handle of it and shares its subscriber id. -/
theorem once_iff (handler : AccountSubscriptionHandler) (reg : Registration) :
    handler.unsubscriptions.countP (HandlerEffect.removes reg) = 1 ↔
      reg.sub.subscriberId = handler.subscriberId ∧
        ∃ handle, handler.handles.lookup reg.sub.requestId = some handle ∧
          handle.unsub = reg.connection := by
  have entries : handler.unsubscriptions.countP (HandlerEffect.removes reg) =
      handler.handles.entries.countP fun entry => decide (entry.1 = reg.sub.requestId) &&
        (decide (entry.2.unsub = reg.connection) &&
          decide (handler.subscriberId = reg.sub.subscriberId)) := by
    rw [AccountSubscriptionHandler.unsubscriptions, List.countP_map]
    congr
    funext entry
    simp only [Function.comp_apply, HandlerEffect.removes, AccountSubscriptionHandler.accountUnsubscribe]
    grind
  rw [entries, Store.countP_entries handler.handles reg.sub.requestId fun handle =>
    decide (handle.unsub = reg.connection) && decide (handler.subscriberId = reg.sub.subscriberId)]
  cases handler.handles.lookup reg.sub.requestId with
  | none => simp
  | some handle =>
    have either : (if handle.unsub = reg.connection ∧ handler.subscriberId = reg.sub.subscriberId
        then 1 else 0) = 1 ↔
          handle.unsub = reg.connection ∧ handler.subscriberId = reg.sub.subscriberId := by
      split <;> simp_all
    simp only [Option.any_some, Bool.and_eq_true, decide_eq_true_eq, Option.some.injEq,
      exists_eq_left', either]
    rw [and_comm, eq_comm (a := handler.subscriberId)]

/-- The handler can take off all that is live: it has their handles under its own
subscriber id, and no two of them share a request id. -/
structure Held (s : HandlerRun) : Prop where
  own : ∀ reg ∈ s.live, reg.sub.subscriberId = s.handler.subscriberId
  tracked : ∀ reg ∈ s.live, ∃ handle, s.handler.handles.lookup reg.sub.requestId = some handle ∧
    handle.unsub = reg.connection
  apart : s.live.Pairwise fun reg other => reg.sub.requestId ≠ other.sub.requestId

theorem farewell_of_started (started : s.status.isEnded = false) :
    s.farewell = s.handler.unsubscriptions := by
  unfold farewell
  split
  · simp_all [HandlerStatus.isEnded]
  · rfl
  · rfl

/-- Every unsubscription that removes a listener by its ids does so at the connection. -/
theorem removed_of_removes {connection : UnsubChannel} {unsub : Unsubscription}
    (removes : HandlerEffect.removes reg (.unsubscribe connection unsub)) :
    ∀ (c : Connection.WebsocketConnection) id event, ¬ (c.unsubscribe unsub id event).1.Listens reg := by
  simp only [HandlerEffect.removes, Bool.and_eq_true, decide_eq_true_eq] at removes
  exact not_listens_unsubscribe removes.1.2 removes.2

theorem cleanEnd_iff_held (started : s.status.isEnded = false) : CleanEnd s ↔ Held s := by
  have sent := farewell_of_started started
  constructor
  · intro clean
    have each (reg : Registration) (live : reg ∈ s.live) :=
      (once_iff s.handler reg).mp (sent ▸ clean.once reg live)
    refine ⟨fun reg live => (each reg live).1, fun reg live => (each reg live).2, ?_⟩
    apply clean.apart.imp_of_mem
    intro reg other live present apart same
    obtain ⟨own, handle, found, unsub⟩ := each reg live
    obtain ⟨own', handle', found', unsub'⟩ := each other present
    rw [same] at found
    cases found.symm.trans found'
    exact apart (by simp [Registration.key, ← unsub, ← unsub', same, own, own'])
  · intro held
    refine ⟨?_, ?_, fun _ _ _ _ _ removes => removed_of_removes removes⟩
    · intro reg live
      rw [sent]
      exact (once_iff s.handler reg).mpr ⟨held.own reg live, held.tracked reg live⟩
    · apply held.apart.imp
      intro reg other apart same
      exact apart (congrArg (·.2.1) same)

theorem CleanEnd.held (clean : CleanEnd s) (running : s.status = .running) : Held s :=
  (cleanEnd_iff_held (by rw [running]; rfl)).mp clean

theorem held_dispatch_iff : Held (s.dispatch sub) ↔ Held s :=
  ⟨fun held => ⟨held.own, held.tracked, held.apart⟩, fun held => ⟨held.own, held.tracked, held.apart⟩⟩

theorem Held.confirm_iff (held : Held s) (connection : UnsubChannel) :
    Held (s.confirm sub connection) ↔ sub.subscriberId = s.handler.subscriberId ∧
      ∀ reg ∈ s.live, reg.sub.requestId ≠ sub.requestId := by
  constructor
  · intro after
    refine ⟨after.own _ (List.mem_cons_self ..), ?_⟩
    intro reg live same
    exact (List.pairwise_cons.mp after.apart).1 reg live same.symm
  · rintro ⟨own, fresh⟩
    refine ⟨?_, ?_, ?_⟩
    · intro reg member
      rcases List.mem_cons.mp member with rfl | live
      · exact own
      · exact held.own reg live
    · intro reg member
      rcases List.mem_cons.mp member with rfl | live
      · exact ⟨Sources.confirmation sub connection, AList.lookup_insert _, rfl⟩
      · obtain ⟨handle, found, unsub⟩ := held.tracked reg live
        exact ⟨handle, (AList.lookup_insert_ne (fresh reg live)).trans found, unsub⟩
    · exact List.pairwise_cons.mpr ⟨fun reg live => (fresh reg live).symm, held.apart⟩

theorem Held.forget (held : Held s) (reg : Registration) : Held (s.forget reg) := by
  have fewer : ∀ other ∈ (s.forget reg).live, other ∈ s.live :=
    fun _ member => forget_live_sublist.subset member
  refine ⟨?_, ?_, held.apart.sublist forget_live_sublist⟩
  · intro other member
    simpa using held.own other (fewer other member)
  · intro other member
    simpa using held.tracked other (fewer other member)

theorem Held.untrack_iff (held : Held s) (requestId : RequestId) :
    Held (s.untrack requestId) ↔ ∀ reg ∈ s.live, reg.sub.requestId ≠ requestId := by
  constructor
  · intro after reg live same
    obtain ⟨handle, found, _⟩ := after.tracked reg live
    subst same
    simp [untrack] at found
  · intro others
    refine ⟨held.own, ?_, held.apart⟩
    intro reg live
    obtain ⟨handle, found, unsub⟩ := held.tracked reg live
    exact ⟨handle, (AList.lookup_erase_ne (others reg live)).trans found, unsub⟩

theorem Held.unsubscribe (held : Held s)
    (tracked : s.handler.handles.lookup requestId = some handle) :
    Held (s.unsubscribe requestId handle) := by
  have live {reg : Registration} (member : reg ∈ (s.unsubscribe requestId handle).live) :
      reg ∈ s.live := (List.mem_filter.mp member).1
  refine ⟨fun reg member => held.own reg (live member), ?_, held.apart.filter _⟩
  intro reg member
  obtain ⟨handle', found, unsub⟩ := held.tracked reg (live member)
  have different : reg.sub.requestId ≠ requestId := by
    intro same
    rw [same] at found
    cases tracked.symm.trans found
    simpa [unsub, same] using (List.mem_filter.mp member).2
  exact ⟨handle', (AList.lookup_erase_ne different).trans found, unsub⟩

/-- The handler ends on a failed send without another word. -/
theorem cleanEnd_forward_iff (held : Held s) (context : HandlerContext) (payload : Json) :
    CleanEnd (s.forward context payload) ↔
      (context.serialized = true → context.delivered = false → s.live = []) := by
  by_cases failed : context.serialized = true ∧ context.delivered = false
  · have silent : (s.forward context payload).farewell = [] := by
      simp [forward, farewell, failed.1, failed.2]
    constructor
    · intro clean _ _
      apply List.eq_nil_iff_forall_not_mem.mpr
      intro reg live
      have once := clean.once reg live
      simp [silent] at once
    · intro nothing
      have nobody : (s.forward context payload).live = [] := nothing failed.1 failed.2
      refine ⟨?_, ?_, ?_⟩ <;> simp [nobody]
  · have status : (s.forward context payload).status.isEnded = false := by
      cases serialized : context.serialized <;> cases delivered : context.delivered <;>
        simp_all [forward, HandlerStatus.isEnded]
    rw [cleanEnd_iff_held status]
    refine iff_of_true ⟨held.own, held.tracked, held.apart⟩ ?_
    intro serialized delivered
    exact absurd ⟨serialized, delivered⟩ failed

/-- Where the notification unsubscribes nothing that is live, it may fail to be sent
only if nothing is. -/
private theorem owned_iff_live_nil (spared : ∀ other ∈ s.live, reg.sub.upstream = .ephem →
      Delegating payload → other.sub.requestId ≠ reg.sub.requestId) :
    (context.serialized = true → context.delivered = false → s.live = []) ↔
      Owned s (.notified reg payload context) := by
  refine imp_congr_right fun _ => imp_congr_right fun _ => ?_
  constructor
  · intro nobody other live
    simp [nobody] at live
  · intro owned
    apply List.eq_nil_iff_forall_not_mem.mpr
    intro other live
    obtain ⟨ephem, delegating, same⟩ := owned other live
    exact spared other live ephem delegating same

/-- The unsubscription is for all that is live if they have its request id. -/
theorem Held.unsubscribe_live_nil_iff (held : Held s)
    (tracked : s.handler.handles.lookup requestId = some handle) :
    (s.unsubscribe requestId handle).live = [] ↔
      ∀ other ∈ s.live, other.sub.requestId = requestId := by
  rw [List.eq_nil_iff_forall_not_mem]
  constructor
  · intro nobody other live
    by_contra different
    exact nobody other (List.mem_filter.mpr ⟨live, by simp [Ne.symm different]⟩)
  · intro all other member
    obtain ⟨live, spared⟩ := List.mem_filter.mp member
    obtain ⟨handle', found, unsub⟩ := held.tracked other live
    rw [all other live] at found
    cases tracked.symm.trans found
    simp [unsub, all other live] at spared

/-- From a state in which ending is clean, the steps that lead to another one are the
owned ones. -/
theorem CleanEnd.step_iff (clean : CleanEnd s) (step : Step s event t) :
    CleanEnd t ↔ Owned s event := by
  cases step with
  | @confirmed sub connection context waiting started =>
    have held := (cleanEnd_iff_held started).mp clean
    rw [cleanEnd_iff_held rfl]
    exact held.confirm_iff connection
  | passed known settled untracked running =>
    have held := clean.held running
    rw [cleanEnd_forward_iff held]
    apply owned_iff_live_nil
    intro other live ephem delegating same
    obtain ⟨handle, found, _⟩ := held.tracked other live
    exact untracked ephem delegating (same ▸ AList.lookup_isSome.mp (by simp [found]))
  | delegated known chain delegating authority found running =>
    rw [cleanEnd_forward_iff (held_dispatch_iff.mpr (clean.held running))]
    apply owned_iff_live_nil
    intro other live ephem
    cases chain.symm.trans ephem
  | undelegated known ephem delegating tracked running =>
    have held := clean.held running
    rw [cleanEnd_forward_iff (held.unsubscribe tracked), held.unsubscribe_live_nil_iff tracked]
    refine imp_congr_right fun _ => imp_congr_right fun _ => ?_
    exact forall₂_congr fun _ _ => ⟨fun same => ⟨ephem, delegating, same⟩, fun owned => owned.2.2⟩
  | @ignored reg context known untracked running =>
    have held := clean.held running
    rw [cleanEnd_iff_held (by simp [running, HandlerStatus.isEnded])]
    apply iff_of_true (held.forget reg)
    intro other member same
    obtain ⟨handle, found, _⟩ := held.tracked other (forget_live_sublist.subset member)
    exact untracked (same ▸ AList.lookup_isSome.mp (by simp [found]))
  | @stranded reg handle context known tracked nowhere running =>
    have held := clean.held running
    have started : ((s.forget reg).untrack reg.sub.requestId).status.isEnded = false := by
      simp [untrack, running, HandlerStatus.isEnded]
    rw [cleanEnd_iff_held started]
    exact (held.forget reg).untrack_iff reg.sub.requestId
  | @redispatched reg handle context url known tracked redirected running =>
    have held := clean.held running
    have started : (((s.forget reg).untrack reg.sub.requestId).dispatch
        (s.handler.resubscription handle url)).status.isEnded = false := by
      simp [dispatch, untrack, running, HandlerStatus.isEnded]
    rw [cleanEnd_iff_held started, held_dispatch_iff]
    exact (held.forget reg).untrack_iff reg.sub.requestId
  | cancelled => exact iff_of_true ⟨clean.once, clean.apart, clean.removed⟩ trivial
  | @closed routes running =>
    have sent : s.farewell = s.handler.unsubscriptions :=
      farewell_of_started (by rw [running]; rfl)
    refine iff_of_true ⟨?_, clean.apart, fun _ _ _ _ _ removes => removed_of_removes removes⟩ trivial
    intro reg live
    show (s.handler.close routes).effects.countP (HandlerEffect.removes reg) = 1
    rw [close_effects, ← sent]
    exact clean.once reg live

theorem cleanEnd_start (pending : PendingAccountSubscription) : CleanEnd (start pending) := by
  refine ⟨?_, ?_, ?_⟩ <;> simp [start]

/-- Wherever a run is ended by the client, and when it ends by itself, every listener
is taken off by exactly one unsubscription; this is so exactly if all its steps are
owned. -/
theorem clean_end_iff {pending : PendingAccountSubscription}
    (run : Run (Fires step) (start pending) events s) :
    Throughout step CleanEnd (start pending) events ↔
      Run (Guarded Owned (Fires step)) (start pending) events s := by
  have decided := throughout_iff_good_and_guarded (fun _ => True) trivial
    (fun _ _ _ _ _ _ => trivial)
    (fun s event t (_ : True) _ clean fired => CleanEnd.step_iff clean (step_sound fired)) run
    fun _ _ => trivial
  rw [decided]
  exact and_iff_right (cleanEnd_start pending)

section Sample

/-- The one subscription of an account is lost and confirmed again by another
connection before the client closes. -/
def closedLater : List HandlerEvent :=
  [.confirmed Sources.chainSub ⟨1⟩ undelegatedContext,
    .lost chainReg undelegatedContext,
    .confirmed Sources.chainSub ⟨2⟩ undelegatedContext,
    .closed RoutingTable.sample]

theorem clean_end_closed_later : Throughout step CleanEnd (start chainPending) closedLater := by
  let owned (s : HandlerRun) (event : HandlerEvent) : Bool := match event with
    | .confirmed sub _ _ => decide (sub.subscriberId = s.handler.subscriberId) &&
        s.live.all fun reg => reg.sub.requestId ≠ sub.requestId
    | .lost reg _ => (s.forget reg).live.all fun other => other.sub.requestId ≠ reg.sub.requestId
    | .notified .. => false
    | .cancelled _ | .closed _ => true
  obtain ⟨s, checkedRun, _⟩ := exists_run_of_exec
    (show (exec (checkedStep owned step) (start chainPending) closedLater).map
      (fun s => s.farewell.length == 1) = some true by decide +kernel)
  have guarded : Run (Guarded Owned (Fires step)) (start chainPending) closedLater s := by
    apply checkedRun.guarded_of_checked
    intro s event allowed
    cases event with
    | confirmed sub connection context => simpa [owned, Owned] using allowed
    | lost reg context => simpa [owned, Owned] using allowed
    | notified reg payload context => simp [owned] at allowed
    | cancelled reg => trivial
    | closed routes => trivial
  exact (clean_end_iff guarded.unguarded).mpr guarded

/-- Of the two subscriptions a delegated account starts with, which share a request
id, only the one confirmed last is unsubscribed when the client closes. -/
theorem first_listener_left_behind :
    ¬ ∀ reference tx pubkey params pending routes events s,
      WebsocketServer.accountSubscribe reference tx pubkey params = (.ok pending, routes) →
      Run (Fires step) (start pending) events s → s.status.isEnded = true → CleanEnd s := by
  intro claimed
  obtain ⟨s, run, checked⟩ := exists_run_of_exec
    (show (exec step (start Sources.samplePending)
        [.confirmed Sources.nodeSub ⟨0⟩ Sources.sampleContext,
          .confirmed Sources.chainSub ⟨1⟩ Sources.sampleContext, .closed RoutingTable.sample]).map
      (fun s => s.status.isEnded && decide ({ sub := Sources.nodeSub, connection := ⟨0⟩ } ∈ s.live) &&
        s.farewell.countP (HandlerEffect.removes { sub := Sources.nodeSub, connection := ⟨0⟩ }) == 0) =
        some true by decide +kernel)
  simp only [Bool.and_eq_true, decide_eq_true_eq, beq_iff_eq] at checked
  obtain ⟨⟨ended, live⟩, silent⟩ := checked
  have once := (claimed _ _ _ _ _ _ _ s Sources.sample_subscribed run ended).once _ live
  omega

end Sample

end HandlerRun

end MagicRouter
