import Mathlib.Algebra.Order.Group.Multiset
import Mathlib.Tactic.Abel
import MagicRouter.Pubsub.Listeners

/-! What becomes of the subscriptions a connection takes: each is waiting for its
reply on the current socket, is listening, was given up by its subscriber, or its
subscriber was found gone or told of the disconnect. Listings are counted with
multiplicity, so an equation of multisets says "exactly one of these". -/

namespace MagicRouter.Connection

open Library

/-- What a subscription is to its subscriber. -/
structure Listing where
  requestId : RequestId
  subscriberId : SubscriberId
  tx : Channel
  deriving DecidableEq

def Listing.of (sub : Subscription) : Listing where
  requestId := sub.requestId
  subscriberId := sub.subscriberId
  tx := sub.tx

def SubscriberHandle.listing (subscriber : SubscriberId) (handle : SubscriberHandle) : Listing where
  requestId := handle.requestId
  subscriberId := subscriber
  tx := handle.tx

namespace Deed

def taken : Deed → Option Listing
  | .take sub => some (.of sub)
  | _ => none

/-- Unsubscribed by its subscriber. -/
def released : Deed → Option Listing
  | .release _ subscriber handle => some (handle.listing subscriber)
  | _ => none

/-- A confirmation or notification met a closed channel. -/
def foundClosed : Deed → Option Listing
  | .deliver subscriber tx (.subscribed handle) false => some ⟨handle.requestId, subscriber, tx⟩
  | .deliver subscriber tx (.notification id _ _) false => some ⟨id, subscriber, tx⟩
  | _ => none

def disconnected : Deed → Option Listing
  | .deliver subscriber tx (.disconnected id) _ => some ⟨id, subscriber, tx⟩
  | _ => none

/-- Any of the three ways a subscription ends. -/
def ended (deed : Deed) : Option Listing :=
  deed.released <|> deed.foundClosed <|> deed.disconnected

end Deed

/-- The listings the deeds of a log name. -/
def gather (names : Deed → Option Listing) (log : List Emission) : Multiset Listing :=
  (log.filterMap fun emission => names emission.deed : List Listing)

def listening (c : WebsocketConnection) : Multiset Listing :=
  Store.tally (fun _ listeners => Store.tally (fun subscriber handle =>
    ({handle.listing subscriber} : Multiset Listing)) listeners) c.subscriptions

def inflight (c : WebsocketConnection) : Multiset Listing :=
  Store.tally (fun _ sub => ({.of sub} : Multiset Listing)) c.inflights

/-- The emissions account for the change of the maps. -/
def Conserves (c : WebsocketConnection) (emissions : List Emission) (c' : WebsocketConnection) :
    Prop :=
  inflight c + listening c + gather Deed.taken emissions =
    inflight c' + listening c' + gather Deed.ended emissions

variable {c c' c'' : WebsocketConnection} {first second log : List Emission} {event : Event}

theorem gather_append (names : Deed → Option Listing) :
    gather names (first ++ second) = gather names first + gather names second := by
  simp [gather]

@[simp] theorem gather_nil (names : Deed → Option Listing) : gather names [] = 0 := rfl

@[simp] theorem gather_cons (names : Deed → Option Listing) (emission : Emission)
    (log : List Emission) :
    gather names (emission :: log) = (names emission.deed).toList + gather names log := by
  cases named : names emission.deed <;> simp [gather, named]

theorem Deed.ended_toList (deed : Deed) : (deed.ended.toList : Multiset Listing) =
    deed.released.toList + deed.foundClosed.toList + deed.disconnected.toList := by
  cases deed with
  | deliver subscriber tx message ok => cases message <;> cases ok <;> rfl
  | _ => rfl

theorem gather_ended : gather Deed.ended log =
    gather Deed.released log + gather Deed.foundClosed log + gather Deed.disconnected log := by
  induction log with
  | nil => rfl
  | cons emission rest ih =>
    simp only [gather_cons, ih, Deed.ended_toList]
    abel

/-- A log without deeds of a kind names nothing of that kind. -/
theorem gather_eq_zero {names : Deed → Option Listing}
    (none : ∀ emission ∈ log, names emission.deed = none) : gather names log = 0 := by
  induction log with
  | nil => rfl
  | cons emission rest ih =>
    rw [gather_cons, none emission List.mem_cons_self,
      ih fun other member => none other (List.mem_cons_of_mem _ member)]
    rfl

theorem Conserves.trans (before : Conserves c first c') (after : Conserves c' second c'') :
    Conserves c (first ++ second) c'' := by
  unfold Conserves at *
  rw [gather_append, gather_append]
  calc inflight c + listening c + (gather Deed.taken first + gather Deed.taken second)
      = inflight c + listening c + gather Deed.taken first + gather Deed.taken second := by abel
    _ = inflight c' + listening c' + gather Deed.taken second + gather Deed.ended first := by
        rw [before]; abel
    _ = inflight c'' + listening c'' + (gather Deed.ended first + gather Deed.ended second) := by
        rw [after]; abel

/-- The listings of the listeners of one subscription. -/
def audience (listeners : Listeners) : Multiset Listing :=
  Store.tally (fun subscriber handle => ({handle.listing subscriber} : Multiset Listing)) listeners

/-- Taking listeners off one subscription takes as many off the whole. -/
theorem listening_setListeners {subid : SubscriptionId} {old new : Listeners}
    {gone : Multiset Listing} (present : c.subscriptions.lookup subid = some old)
    (fewer : audience old = gone + audience new) :
    listening c = listening (c.setListeners subid new) + gone := by
  have split : listening c = audience old +
      Store.tally (fun _ listeners => audience listeners) (c.subscriptions.erase subid) :=
    Store.tally_of_lookup _ present
  have after : listening (c.setListeners subid new) = audience new +
      Store.tally (fun _ listeners => audience listeners) (c.subscriptions.erase subid) := by
    unfold WebsocketConnection.setListeners listening
    dsimp only
    split
    · have vacant : new = ∅ := AList.ext (List.isEmpty_iff.mp ‹_›)
      subst vacant
      exact (zero_add _).symm
    · exact Store.tally_insert _
  rw [split, after, fewer]
  abel

/-- The notifications that met a closed channel, one for each listener taken off. -/
theorem gather_notified (entries : List ((_ : SubscriberId) × SubscriberHandle)) (result : Json)
    (closed : SubscriberId → Bool) :
    gather Deed.ended (entries.map fun listener =>
      { moment := c
        deed := .deliver listener.1 listener.2.tx
          (.notification listener.2.requestId listener.2.upstream result) (!closed listener.1) }) =
      ((entries.filter fun listener => closed listener.1).map fun listener =>
        ({listener.2.listing listener.1} : Multiset Listing)).sum := by
  induction entries with
  | nil => rfl
  | cons listener rest ih =>
    rw [List.map_cons, gather_cons, ih]
    cases gone : closed listener.1 with
    | false => simp [Deed.ended, Deed.released, Deed.foundClosed, Deed.disconnected, gone]
    | true =>
      simp [Deed.ended, Deed.released, Deed.foundClosed, gone, SubscriberHandle.listing]

theorem notify_conserves (params : NotificationParams) (closed : SubscriberId → Bool) :
    Conserves c (c.notify params closed).2 (c.notify params closed).1 := by
  unfold WebsocketConnection.notify
  split
  · simp [Conserves]
  · rename_i listeners present
    have fewer : audience listeners =
        _ + audience (listeners.eraseAll (listeners.keys.filter closed)) :=
      Store.tally_eraseAll _ closed
    unfold Conserves
    dsimp only
    rw [gather_notified, listening_setListeners present fewer, gather_eq_zero, add_zero, ← add_assoc]
    · rfl
    · intro emission member
      obtain ⟨_, _, rfl⟩ := List.mem_map.mp member
      rfl

/-- A listener registered where its subscriber had none. -/
theorem listening_register {subid : SubscriptionId} {subscriber : SubscriberId}
    {handle : SubscriberHandle} (vacant : c.listener subid subscriber = none) :
    listening (c.register subid subscriber handle) = listening c + {handle.listing subscriber} := by
  have added (listeners : Listeners) (none : listeners.lookup subscriber = none) :
      audience (listeners.insert subscriber handle) =
        {handle.listing subscriber} + audience listeners := by
    rw [audience, Store.tally_insert, Store.erase_of_vacant none, audience]
  have split : listening (c.register subid subscriber handle) =
      audience (((c.subscriptions.lookup subid).getD ∅).insert subscriber handle) +
        Store.tally (fun _ listeners => audience listeners) (c.subscriptions.erase subid) :=
    Store.tally_insert _
  rw [split]
  cases present : c.subscriptions.lookup subid with
  | none =>
    rw [Store.erase_of_vacant present, Option.getD_none, added ∅ rfl]
    exact (congrArg (· + listening c) (add_zero _)).trans (add_comm _ _)
  | some listeners =>
    have before : listening c = audience listeners +
        Store.tally (fun _ listeners => audience listeners) (c.subscriptions.erase subid) :=
      Store.tally_of_lookup _ present
    rw [WebsocketConnection.listener_of_lookup present] at vacant
    rw [Option.getD_some, added listeners vacant, before]
    abel

/-- A confirmation ends a subscription only if its channel is closed. -/
theorem gather_confirmed {sub : Subscription} {handle : SubscriptionHandle}
    (named : sub.requestId = handle.requestId) (ok : Bool) :
    gather Deed.ended [{
      moment := c, deed := .deliver sub.subscriberId sub.tx (.subscribed handle) ok }] =
      if ok then 0 else {.of sub} := by
  cases ok with
  | true => rfl
  | false =>
    rw [Listing.of, named]
    rfl

/-- The confirmed subscription becomes a listener unless its channel is closed. -/
theorem confirm_conserves (s : SubscriptionResult) (closed : SubscriberId → Bool)
    (keyed : ∀ request sub, c.inflights.lookup request = some sub → sub.requestId = request)
    (fresh : ∀ sub, c.inflights.lookup s.id = some sub →
      closed sub.subscriberId = true ∨ c.listener s.result sub.subscriberId = none) :
    Conserves c (c.confirm s closed).2 (c.confirm s closed).1 := by
  unfold WebsocketConnection.confirm
  split
  · simp [Conserves]
  · rename_i sub found
    have named := keyed _ _ found
    have less : inflight c = {.of sub} + inflight { c with
        inflights := c.inflights.erase s.id
        requestToSubs := c.requestToSubs.insert s.id s.result } :=
      Store.tally_of_lookup _ found
    have same : listening c = listening { c with
        inflights := c.inflights.erase s.id
        requestToSubs := c.requestToSubs.insert s.id s.result } := rfl
    have unheard (opened : ¬ closed sub.subscriberId = true) :
        WebsocketConnection.listener { c with
          inflights := c.inflights.erase s.id
          requestToSubs := c.requestToSubs.insert s.id s.result } s.result sub.subscriberId = none :=
      (fresh sub found).resolve_left opened
    dsimp only
    generalize ({ c with
      inflights := c.inflights.erase s.id
      requestToSubs := c.requestToSubs.insert s.id s.result } : WebsocketConnection) = confirmed at *
    unfold Conserves
    rw [less, same]
    split
    · rename_i gone
      rw [gather_confirmed named, gone]
      change {Listing.of sub} + inflight confirmed + listening confirmed + 0 =
        inflight confirmed + listening confirmed + {.of sub}
      abel
    · rename_i opened
      have registered : listening (confirmed.register s.result sub.subscriberId
          ⟨sub.requestId, sub.upstream, sub.tx⟩) = listening confirmed + {.of sub} :=
        listening_register (unheard opened)
      rw [gather_confirmed named, Bool.eq_false_iff.mpr opened, registered]
      change {Listing.of sub} + inflight confirmed + listening confirmed + 0 =
        inflight confirmed + (listening confirmed + {.of sub}) + 0
      abel

theorem farewells_gather (entries : List ((_ : SubscriptionId) × Listeners)) :
    gather Deed.ended ((entries.flatMap fun entry => entry.2.entries.map fun listener =>
      Deed.deliver listener.1 listener.2.tx (.disconnected listener.2.requestId) true).map
        fun deed => { moment := c, deed }) =
      (entries.map fun entry => audience entry.2).sum := by
  induction entries with
  | nil => rfl
  | cons entry rest ih =>
    rw [List.flatMap_cons, List.map_append, gather_append, ih, List.map_cons, List.sum_cons]
    congr 1
    unfold audience Store.tally
    induction entry.2.entries with
    | nil => rfl
    | cons listener rest ih =>
      rw [List.map_cons, List.map_cons, gather_cons, ih, List.map_cons, List.sum_cons]
      rfl

/-- Reestablishing names listings only in what it tells the listeners. -/
theorem reestablish_gather_eq_zero {names : Deed → Option Listing} (connects : Nat → Bool)
    (told : ∀ subscriber tx request,
      names (.deliver subscriber tx (.disconnected request) true) = none)
    (reconnected : ∀ ok, names (.reconnect ok) = none) :
    gather names (c.reestablish connects).2 = 0 := by
  apply gather_eq_zero
  intro emission member
  rcases reestablish_does member with ⟨subscriber, tx, request, deed⟩ | deed
  · rw [deed]
    exact told subscriber tx request
  · rw [deed]
    exact reconnected _

theorem reestablish_ended (connects : Nat → Bool) :
    gather Deed.ended (c.reestablish connects).2 = listening c := by
  unfold WebsocketConnection.reestablish WebsocketConnection.farewells
  dsimp only
  rw [gather_append, farewells_gather]
  exact add_zero _

theorem afterSend_conserves : Conserves c (c.afterSend event).2 (c.afterSend event).1 := by
  unfold WebsocketConnection.afterSend
  split
  · simp [Conserves]
  · unfold Conserves
    rw [reestablish_ended, reestablish_gather_eq_zero _ (fun _ _ _ => rfl) fun _ => rfl]
    change inflight c + listening c + 0 = inflight c + 0 + listening c
    abel

/-- A deed that neither takes nor ends a subscription. -/
theorem Conserves.cons {emission : Emission} {emissions : List Emission}
    (rest : Conserves c emissions c') (taken : emission.deed.taken = none)
    (ended : emission.deed.ended = none) : Conserves c (emission :: emissions) c' := by
  unfold Conserves at *
  rw [gather_cons, gather_cons, taken, ended]
  exact (congrArg _ (zero_add _)).trans (rest.trans (congrArg _ (zero_add _).symm))

/-- A listener that is taken off, if it was there, is one listening fewer. -/
theorem listening_release {subid : SubscriptionId} {subscribers : Listeners}
    (subscriber : SubscriberId) (present : c.subscriptions.lookup subid = some subscribers) :
    listening c = listening (c.setListeners subid (subscribers.erase subscriber)) +
      gather Deed.released ((subscribers.lookup subscriber).toList.map fun handle =>
        { moment := c, deed := .release subid subscriber handle }) := by
  apply listening_setListeners present
  cases registered : subscribers.lookup subscriber with
  | none =>
    rw [Store.erase_of_vacant registered]
    exact (zero_add _).symm
  | some handle => exact Store.tally_of_lookup _ registered

theorem unsubscribe_conserves (u : Unsubscription) (id : RequestId) :
    Conserves c (c.unsubscribe u id event).2 (c.unsubscribe u id event).1 := by
  unfold WebsocketConnection.unsubscribe
  split
  · simp [Conserves]
  · split
    · simp [Conserves]
    · rename_i subid requested _ subscribers present
      refine Conserves.trans ?_ (afterSend_conserves.cons rfl rfl)
      unfold Conserves
      rw [listening_release u.subscriberId present]
      cases subscribers.lookup u.subscriberId with
      | none =>
        change inflight c + (_ + 0) + 0 = inflight c + _ + 0
        abel
      | some handle =>
        change inflight c + (_ + ({handle.listing u.subscriberId} + 0)) + 0 =
          inflight c + _ + ({handle.listing u.subscriberId} + 0)
        abel

theorem subscribe_conserves (sub : Subscription)
    (fresh : c.inflights.lookup sub.requestId = none) :
    Conserves c (c.subscribe sub event).2 (c.subscribe sub event).1 := by
  have added : inflight { c with inflights := c.inflights.insert sub.requestId sub } =
      {.of sub} + inflight c := by
    rw [inflight, Store.tally_insert, Store.erase_of_vacant fresh, inflight]
  have taken : Conserves c [{ moment := c, deed := .take sub }]
      { c with inflights := c.inflights.insert sub.requestId sub } := by
    unfold Conserves
    rw [added]
    change inflight c + listening c + ({.of sub} + 0) = {.of sub} + inflight c + listening c + 0
    abel
  exact taken.trans (afterSend_conserves.cons rfl rfl)

end MagicRouter.Connection
