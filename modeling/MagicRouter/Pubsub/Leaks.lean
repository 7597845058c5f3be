import MagicRouter.Pubsub.Bookkeeping

/-! What is left behind when listeners leave. Only an unsubscription is passed on
upstream: a subscription whose last listener is found gone stays open there. And no
listener takes the index entry of its request with it, so that the index is exact only
as long as nobody leaves. -/

namespace MagicRouter.Connection

open Library

/-- The iteration confirms a request under the id. -/
def Confirmed (c : WebsocketConnection) (event : Event) (subid : SubscriptionId)
    (sub : Subscription) : Prop :=
  ∃ id, event.message = some (.subscribed { id, result := subid }) ∧
    c.inflights.lookup id = some sub

/-- The id an emission confirms an account subscription under. -/
def Emission.confirmedAccount (emission : Emission) : Option SubscriptionId :=
  match emission.deed with
  | .receive frame =>
    match frame.bind WebsocketMessage.deserialize with
    | some (.subscribed s) => (emission.moment.inflights.lookup s.id).bind fun sub =>
        if sub.payload.isAccount then some s.result else none
    | _ => none
  | _ => none

/-- The ids of the account subscriptions confirmed on the current socket. -/
def accountIds (log : List Emission) : List SubscriptionId :=
  log.foldl (fun ids emission => match emission.deed with
    | .reconnect _ => []
    | _ => emission.confirmedAccount.toList ++ ids) []

/-- An account subscription has the id, be it confirmed only in this iteration. -/
def AccountId (s : Session) (event : Event) (subid : SubscriptionId) : Prop :=
  subid ∈ accountIds s.log ∨
    ∃ sub, Confirmed s.connection event subid sub ∧ sub.payload.isAccount = true

/-- Somebody listens to the id. -/
def Heeded (c : WebsocketConnection) (subid : SubscriptionId) : Prop :=
  ∃ subscriber, c.listener subid subscriber ≠ none

/-- The iteration finds that an account subscription has no listener left. -/
structure Abandons (s : Session) (event : Event) (subid : SubscriptionId) : Prop where
  account : AccountId s event subid
  known : Heeded s.connection subid ∨ ∃ sub, Confirmed s.connection event subid sub
  silent : ¬ Heeded (s.connection.handle event).1 subid
  connected : ∀ ok, .reconnect ok ∉ (s.connection.handle event).2.map Emission.deed

/-- Account subscriptions without listeners are cancelled upstream. -/
def Cancels (s : Session) (event : Event) : Prop :=
  ∀ subid, Abandons s event subid → ∃ id method ok,
    .unsubscribe id method subid ok ∈ (s.connection.handle event).2.map Emission.deed

/-- Not all listeners of a notified account subscription are gone, and the subscriber
of a confirmed one is not, unless there are others. -/
def Heard (s : Session) (event : Event) : Prop :=
  (∀ params, event.message = some (.notification params) →
    params.subscription ∈ accountIds s.log → Heeded s.connection params.subscription →
    ∃ subscriber, s.connection.listener params.subscription subscriber ≠ none ∧
      event.closed subscriber = false) ∧
  ∀ subid sub, Confirmed s.connection event subid sub → AccountId s event subid →
    event.closed sub.subscriberId = true → Heeded s.connection subid

/-- An index entry stands for a listener. -/
def Indexed (c : WebsocketConnection) : Prop :=
  ∀ request subid, c.requestToSubs.lookup request = some subid →
    ∃ subscriber handle, c.listener subid subscriber = some handle ∧ handle.requestId = request

/-- No channel is found closed, no listener is replaced, and none is taken off. -/
structure NobodyLeaves (s : Session) (event : Event) : Prop where
  notified : ∀ params subscriber, event.message = some (.notification params) →
    s.connection.listener params.subscription subscriber ≠ none → event.closed subscriber = false
  confirmed : ∀ subid sub, Confirmed s.connection event subid sub →
    event.closed sub.subscriberId = false ∧ s.connection.listener subid sub.subscriberId = none
  unsubscribed : ∀ u id subid, event.input = .unsubscription u id → event.sent = true →
    s.connection.requestToSubs.lookup u.requestId = some subid →
    s.connection.listener subid u.subscriberId = none

variable {c c' : WebsocketConnection} {event : Event} {s t : Session} {events : List Event}
variable {subid : SubscriptionId} {sub : Subscription} {id : Nat} {url : Url}

theorem handle_confirmation (confirmed : Confirmed c event subid sub) :
    ∃ frame request, c.inflights.lookup request = some sub ∧
      c.handle event = ((c.confirm { id := request, result := subid } event.closed).1,
        { moment := c, deed := .receive frame } ::
          (c.confirm { id := request, result := subid } event.closed).2) := by
  obtain ⟨request, message, found⟩ := confirmed
  obtain ⟨frame, decoded, handled⟩ := handle_message (c := c) message
  refine ⟨frame, request, found, handled.trans ?_⟩
  simp only [WebsocketConnection.receive, decoded]

/-- An iteration that reads a message sends nothing upstream. -/
theorem message_deeds {message : WebsocketMessage} {deed : Deed}
    (read : event.message = some message) (member : deed ∈ (c.handle event).2.map Emission.deed) :
    (∃ frame, deed = .receive frame) ∨ ∃ subscriber tx sent ok, deed = .deliver subscriber tx sent ok := by
  obtain ⟨frame, _, handled⟩ := handle_message (c := c) read
  rw [handled] at member
  obtain ⟨emission, done, rfl⟩ := List.mem_map.mp member
  rcases List.mem_cons.mp done with first | later
  · exact .inl ⟨frame, congrArg Emission.deed first⟩
  · exact .inr (receive_delivers later)

/-- A confirmation that finds nobody leaves the listeners as they are. -/
theorem confirm_unheard (confirmed : Confirmed c event subid sub)
    (gone : event.closed sub.subscriberId = true) (other : SubscriptionId)
    (subscriber : SubscriberId) :
    (c.handle event).1.listener other subscriber = c.listener other subscriber := by
  obtain ⟨frame, request, found, handled⟩ := handle_confirmation confirmed
  rw [handled]
  simp only [WebsocketConnection.confirm, found, gone, if_true]
  rfl

theorem confirm_heard (confirmed : Confirmed c event subid sub)
    (opened : event.closed sub.subscriberId = false) : Heeded (c.handle event).1 subid := by
  obtain ⟨frame, request, found, handled⟩ := handle_confirmation confirmed
  refine ⟨sub.subscriberId, ?_⟩
  rw [handled]
  simp [WebsocketConnection.confirm, found, opened, WebsocketConnection.listener_register]

/-- Nothing is cancelled by an iteration that reads a message, nor is there a reconnect. -/
theorem Cancels.heeded (cancels : Cancels s event) {message : WebsocketMessage}
    (read : event.message = some message) (account : AccountId s event subid)
    (known : Heeded s.connection subid ∨ ∃ sub, Confirmed s.connection event subid sub) :
    Heeded (s.connection.handle event).1 subid := by
  by_contra silent
  have connected (ok : Bool) :
      .reconnect ok ∉ (s.connection.handle event).2.map Emission.deed := by
    intro member
    rcases message_deeds read member with ⟨_, wrong⟩ | ⟨_, _, _, _, wrong⟩ <;> cases wrong
  obtain ⟨_, _, _, cancelled⟩ := cancels subid { account, known, silent, connected }
  rcases message_deeds read cancelled with ⟨_, wrong⟩ | ⟨_, _, _, _, wrong⟩ <;> cases wrong

theorem Cancels.heard (cancels : Cancels s event) : Heard s event := by
  constructor
  · intro params message account heeded
    obtain ⟨subscriber, registered⟩ := cancels.heeded message (.inl account) (.inl heeded)
    obtain ⟨frame, handled⟩ := handle_notification (c := s.connection) message
    rw [handled, WebsocketConnection.listener_notify] at registered
    split at registered
    · exact absurd rfl registered
    · rename_i remains
      exact ⟨subscriber, registered, by simpa using remains⟩
  · intro subid sub confirmed account gone
    have ⟨_, message, _⟩ := confirmed
    obtain ⟨subscriber, registered⟩ := cancels.heeded message account (.inr ⟨sub, confirmed⟩)
    rw [confirm_unheard confirmed gone] at registered
    exact ⟨subscriber, registered⟩

/-- A notification that finds an open channel leaves a listener. -/
theorem Heard.notified (heard : Heard s event) {params : NotificationParams}
    (message : event.message = some (.notification params)) (account : AccountId s event subid)
    (heeded : Heeded s.connection subid) : Heeded (s.connection.handle event).1 subid := by
  obtain ⟨frame, handled⟩ := handle_notification (c := s.connection) message
  rw [handled]
  by_cases same : subid = params.subscription
  · have confirmed : subid ∈ accountIds s.log := by
      rcases account with confirmed | ⟨_, ⟨_, other, _⟩, _⟩
      · exact confirmed
      · cases message.symm.trans other
    rw [same] at confirmed heeded
    obtain ⟨subscriber, registered, opened⟩ := heard.1 params message confirmed heeded
    refine ⟨subscriber, ?_⟩
    rwa [WebsocketConnection.listener_notify, if_neg (by simp [opened]), same]
  · obtain ⟨subscriber, registered⟩ := heeded
    refine ⟨subscriber, ?_⟩
    rwa [WebsocketConnection.listener_notify, if_neg (by simp [same])]

theorem unsubscribe_cancels {u : Unsubscription} {request : RequestId} {subscribers : Listeners}
    (input : event.input = .unsubscription u request)
    (requested : c.requestToSubs.lookup u.requestId = some subid)
    (present : c.subscriptions.lookup subid = some subscribers) :
    .unsubscribe request u.method subid event.sent ∈ (c.handle event).2.map Emission.deed := by
  simp [handle_unsubscription input, WebsocketConnection.unsubscribe, requested, present]

theorem Heard.cancels (heard : Heard s event) : Cancels s event := by
  intro subid abandoned
  have silent := abandoned.silent
  rcases abandoned.known with heeded | ⟨sub, confirmed⟩
  · have outcome : Outcome s.connection event (s.connection.handle event).1 := handle_outcome
    generalize after : (s.connection.handle event).1 = next at outcome
    cases outcome with
    | idle => exact absurd heeded (after ▸ silent)
    | notified params listeners message present =>
      exact absurd (heard.notified message abandoned.account heeded) silent
    | unheard r sub message found gone =>
      rw [after] at silent
      exact absurd heeded silent
    | confirmed r sub message found opened =>
      obtain ⟨subscriber, registered⟩ := heeded
      rw [after] at silent
      exact absurd ⟨subscriber, WebsocketConnection.register_listener _ registered⟩ silent
    | unsubscribed u request other subscribers input sent requested present =>
      by_cases same : subid = other
      · subst same
        exact ⟨_, _, _, unsubscribe_cancels input requested present⟩
      · obtain ⟨subscriber, registered⟩ := heeded
        refine absurd ⟨subscriber, ?_⟩ silent
        rwa [after, WebsocketConnection.listener_setListeners, if_neg same]
    | requested sub input sent =>
      rw [after] at silent
      exact absurd heeded silent
    | reset _ ok reconnected => exact absurd reconnected (abandoned.connected ok)
  · cases gone : event.closed sub.subscriberId with
    | false => exact absurd (confirm_heard confirmed gone) silent
    | true =>
      obtain ⟨subscriber, registered⟩ := heard.2 subid sub confirmed abandoned.account gone
      refine absurd ⟨subscriber, ?_⟩ silent
      rwa [confirm_unheard confirmed gone]

theorem cancels_iff : Cancels s event ↔ Heard s event :=
  ⟨Cancels.heard, Heard.cancels⟩

/-- Entries stay exact as long as the index is the same and no listener is lost. -/
theorem Indexed.of_more (indexed : Indexed c) (requestToSubs : c'.requestToSubs = c.requestToSubs)
    (more : ∀ subid subscriber handle, c.listener subid subscriber = some handle →
      c'.listener subid subscriber = some handle) : Indexed c' := by
  intro request subid entry
  rw [requestToSubs] at entry
  obtain ⟨subscriber, handle, registered, own⟩ := indexed request subid entry
  exact ⟨subscriber, handle, more _ _ _ registered, own⟩

theorem NobodyLeaves.outcome (stay : NobodyLeaves s event) (indexed : Indexed s.connection)
    (keyed : ∀ request sub, s.connection.inflights.lookup request = some sub →
      sub.requestId = request) (outcome : Outcome s.connection event c') : Indexed c' := by
  cases outcome with
  | idle => exact indexed
  | notified params listeners message present =>
    refine indexed.of_more rfl ?_
    intro subid subscriber handle registered
    rw [WebsocketConnection.listener_dismiss _ present, if_neg, registered]
    rintro ⟨rfl, gone⟩
    simp [stay.notified params subscriber message (by simp [registered])] at gone
  | unheard r sub message found gone =>
    have opened := (stay.confirmed r.result sub ⟨r.id, message, found⟩).1
    rw [gone] at opened
    cases opened
  | confirmed r sub message found opened =>
    obtain ⟨_, vacant⟩ := stay.confirmed r.result sub ⟨r.id, message, found⟩
    intro request subid entry
    simp only [WebsocketConnection.listener_register]
    rw [WebsocketConnection.register, Store.lookup_insert_if] at entry
    split at entry
    · cases entry
      exact ⟨sub.subscriberId, _, if_pos ⟨rfl, rfl⟩, (keyed r.id sub found).trans (Eq.symm ‹_›)⟩
    · obtain ⟨subscriber, handle, registered, own⟩ := indexed request subid entry
      refine ⟨subscriber, handle, ?_, own⟩
      rw [if_neg]
      · exact registered
      · rintro ⟨rfl, rfl⟩
        cases vacant.symm.trans registered
  | unsubscribed u request subid subscribers input sent requested present =>
    refine indexed.of_more rfl ?_
    intro other subscriber handle registered
    rw [WebsocketConnection.listener_release _ present, if_neg, registered]
    rintro ⟨rfl, rfl⟩
    cases (stay.unsubscribed u request other input sent requested).symm.trans registered
  | requested sub input sent => exact indexed
  | reset _ _ _ _ empty =>
    intro request subid entry
    rw [empty] at entry
    cases entry

section Leaving

variable {subscriber : SubscriberId} {handle : SubscriberHandle}

/-- A listener that leaves its index entry behind is missed: no other listener of its
subscription has its request id. -/
theorem Booked.not_indexed (booked : Booked c)
    (registered : c.listener subid subscriber = some handle)
    (entry : c'.requestToSubs.lookup handle.requestId = some subid)
    (left : ∀ other handle', c'.listener subid other = some handle' →
      handle'.requestId = handle.requestId →
      other ≠ subscriber ∧ c.listener subid other = some handle') : ¬ Indexed c' := by
  intro indexed
  obtain ⟨other, handle', remaining, own⟩ := indexed handle.requestId subid entry
  obtain ⟨different, before⟩ := left other handle' remaining own
  exact different (booked.sole subid other handle' subscriber handle before registered own)

theorem Booked.notified_stay (booked : Booked c) (indexed : Indexed (c.handle event).1)
    {params : NotificationParams} (message : event.message = some (.notification params))
    (registered : c.listener params.subscription subscriber = some handle) :
    event.closed subscriber = false := by
  obtain ⟨frame, handled⟩ := handle_notification (c := c) message
  rw [handled] at indexed
  by_contra gone
  refine booked.not_indexed registered ?_ ?_ indexed
  · have same : (c.notify params event.closed).1.requestToSubs = c.requestToSubs := by
      unfold WebsocketConnection.notify
      split <;> rfl
    rw [same]
    exact booked.indexed _ _ _ registered
  · intro other handle' remaining _
    rw [WebsocketConnection.listener_notify] at remaining
    split at remaining
    · cases remaining
    · rename_i stays
      refine ⟨?_, remaining⟩
      rintro rfl
      exact stays ⟨rfl, by simpa using gone⟩

theorem Booked.confirmed_stay (booked : Booked c) (indexed : Indexed (c.handle event).1)
    (confirmed : Confirmed c event subid sub) :
    event.closed sub.subscriberId = false ∧ c.listener subid sub.subscriberId = none := by
  obtain ⟨frame, request, found, handled⟩ := handle_confirmation confirmed
  have distinct (subid : SubscriptionId) (subscriber : SubscriberId) (handle : SubscriberHandle)
      (registered : c.listener subid subscriber = some handle) : handle.requestId ≠ request := by
    intro same
    cases found.symm.trans (same ▸ booked.apart subid subscriber handle registered)
  rw [handled] at indexed
  cases gone : event.closed sub.subscriberId with
  | true =>
    simp only [WebsocketConnection.confirm, found, gone, if_true] at indexed
    obtain ⟨subscriber, handle, registered, own⟩ :=
      indexed request subid (AList.lookup_insert _)
    exact absurd own (distinct subid subscriber handle registered)
  | false =>
    refine ⟨rfl, ?_⟩
    simp only [WebsocketConnection.confirm, found, gone] at indexed
    by_contra replaced
    obtain ⟨handle, registered⟩ := Option.ne_none_iff_exists'.mp replaced
    have different := distinct _ _ _ registered
    refine booked.not_indexed registered ?_ ?_ indexed
    · exact (AList.lookup_insert_ne different).trans (booked.indexed _ _ _ registered)
    · intro other handle' remaining own
      simp only [Bool.false_eq_true, if_false, WebsocketConnection.listener_register,
        true_and] at remaining
      split at remaining
      · cases remaining
        exact absurd (own.symm.trans (booked.keyed request sub found)) different
      · exact ⟨‹_›, remaining⟩

theorem Booked.unsubscribed_stay (booked : Booked c) (indexed : Indexed (c.handle event).1)
    {u : Unsubscription} {request : RequestId} (input : event.input = .unsubscription u request)
    (sent : event.sent = true) (requested : c.requestToSubs.lookup u.requestId = some subid) :
    c.listener subid u.subscriberId = none := by
  by_contra registered
  obtain ⟨handle, registered⟩ := Option.ne_none_iff_exists'.mp registered
  obtain ⟨subscribers, present, _⟩ := Option.bind_eq_some_iff.mp registered
  rw [handle_unsubscription input] at indexed
  simp only [WebsocketConnection.unsubscribe, requested, present, WebsocketConnection.afterSend,
    sent, if_true] at indexed
  apply booked.not_indexed registered ?_ ?_ indexed
  · exact booked.indexed _ _ _ registered
  intro other handle' remaining _
  rw [WebsocketConnection.listener_release _ present] at remaining
  split at remaining
  · cases remaining
  · rename_i stays
    exact ⟨fun same => stays ⟨rfl, same⟩, remaining⟩

end Leaving

/-- With the maps in step, the index stays exact only if nobody leaves. -/
theorem Booked.nobodyLeaves (booked : Booked s.connection)
    (indexed : Indexed (s.connection.handle event).1) : NobodyLeaves s event where
  notified _ _ message registered := by
    obtain ⟨handle, registered⟩ := Option.ne_none_iff_exists'.mp registered
    exact booked.notified_stay indexed message registered
  confirmed _ _ confirmed := booked.confirmed_stay indexed confirmed
  unsubscribed _ _ _ input sent requested :=
    booked.unsubscribed_stay indexed input sent requested

theorem mem_listening {subscriber : SubscriberId} {handle : SubscriberHandle}
    (registered : c.listener subid subscriber = some handle) :
    handle.listing subscriber ∈ listening c := by
  obtain ⟨listeners, present, found⟩ := Option.bind_eq_some_iff.mp registered
  rw [listening, Store.tally_of_lookup _ present, Store.tally_of_lookup _ found]
  simp

/-- An exact index has no more entries than there are listeners. -/
theorem Indexed.bounded (indexed : Indexed c) :
    c.requestToSubs.keys.length ≤ (listening c).card := by
  have distinct : (c.requestToSubs.keys : Multiset RequestId).Nodup := c.requestToSubs.keys_nodup
  have covered : (c.requestToSubs.keys : Multiset RequestId) ≤
      (listening c).map Listing.requestId := by
    apply (Multiset.le_iff_subset distinct).mpr
    intro request member
    obtain ⟨subid, entry⟩ := Option.isSome_iff_exists.mp (AList.lookup_isSome.mpr member)
    obtain ⟨subscriber, handle, registered, own⟩ := indexed request subid entry
    exact Multiset.mem_map.mpr ⟨_, mem_listening registered, own⟩
  simpa using Multiset.card_le_card covered

theorem NobodyLeaves.heard (stay : NobodyLeaves s event) : Heard s event := by
  constructor
  · intro params message _ heeded
    obtain ⟨subscriber, registered⟩ := heeded
    exact ⟨subscriber, registered, stay.notified params subscriber message registered⟩
  · intro subid sub confirmed _ gone
    rw [(stay.confirmed subid sub confirmed).1] at gone
    cases gone

theorem Indexed.run (run : Run (Guarded NobodyLeaves (Fires step)) (.start id url) events s) :
    Indexed s.connection := by
  suffices both : Indexed s.connection ∧ ∀ request sub,
      s.connection.inflights.lookup request = some sub → sub.requestId = request from both.1
  induction run with
  | nil =>
    constructor
    · intro request subid entry
      cases entry
    · intro request sub found
      cases found
  | snoc _ last ih =>
    obtain ⟨stay, fired⟩ := last
    obtain ⟨indexed, keyed⟩ := ih
    rw [(step_eq_some fired).2.1]
    exact ⟨stay.outcome indexed keyed handle_outcome, handle_outcome.keyed keyed⟩

/-- In a run without mix-ups of request ids an exact index means that nobody leaves. -/
theorem nobodyLeaves_run (run : Run (Guarded Fresh (Fires step)) (.start id url) events s)
    (indexed : Throughout step (fun s => Indexed s.connection) (.start id url) events) :
    Run (Guarded NobodyLeaves (Fires step)) (.start id url) events s := by
  induction run with
  | nil => exact .nil
  | snoc earlier last ih =>
    obtain ⟨_, fired⟩ := last
    obtain ⟨before, here⟩ := (throughout_snoc earlier.unguarded fired).mp indexed
    rw [(step_eq_some fired).2.1] at here
    exact .snoc (ih before) ⟨(Booked.run earlier).nobodyLeaves here, fired⟩

/-- In every run, account subscriptions found without listeners are all cancelled
upstream exactly if none is found so by a notification or a confirmation. In a run in
which no listener leaves but by a reconnect, moreover, index entries are kept for
listeners only; and without mix-ups of request ids there is no other such run. -/
theorem leak_free_iff (run : Run (Fires step) (.start id url) events t) :
    (Always step Cancels (.start id url) events ↔ Always step Heard (.start id url) events) ∧
    (Run (Guarded NobodyLeaves (Fires step)) (.start id url) events t →
      Always step Cancels (.start id url) events ∧
      Throughout step (fun s => Indexed s.connection ∧
        s.connection.requestToSubs.keys.length ≤ (listening s.connection).card)
        (.start id url) events) ∧
    (Run (Guarded Fresh (Fires step)) (.start id url) events t →
      Throughout step (fun s => Indexed s.connection) (.start id url) events →
      Run (Guarded NobodyLeaves (Fires step)) (.start id url) events t) := by
  refine ⟨?_, ?_, nobodyLeaves_run⟩
  · exact always_congr trivial (fun _ _ _ _ _ => trivial) (fun _ _ _ _ _ => cancels_iff) run
  · intro stay
    refine ⟨?_, ?_⟩
    · intro before event after middle parts earlier
      exact (stay.always before event after middle parts earlier).heard.cancels
    · refine stay.throughout fun before middle earlier => ?_
      have indexed := Indexed.run earlier
      exact ⟨indexed, indexed.bounded⟩

/-- A check that only requests and confirmations without anybody leaving pass. -/
private def joinsOnly (s : Session) (event : Event) : Bool :=
  match event.message, event.input with
  | some (.subscribed r), _ => (s.connection.inflights.lookup r.id).all fun sub =>
      !event.closed sub.subscriberId && (s.connection.listener r.result sub.subscriberId).isNone
  | none, .request _ => true
  | _, _ => false

private theorem joinsOnly_sound (s : Session) (event : Event)
    (checked : joinsOnly s event = true) : NobodyLeaves s event := by
  unfold joinsOnly at checked
  split at checked
  · rename_i r input message
    refine ⟨?_, ?_, ?_⟩
    · intro params subscriber other
      cases message.symm.trans other
    · rintro subid sub ⟨request, other, found⟩
      cases message.symm.trans other
      simpa [found] using checked
    · intro u request subid input
      simp [Event.message, input] at message
  · rename_i message input
    refine ⟨?_, ?_, ?_⟩
    · intro params subscriber other
      cases message.symm.trans other
    · rintro subid sub ⟨request, other, _⟩
      cases message.symm.trans other
    · intro u request subid other
      cases input.symm.trans other
  · cases checked

/-- Two subscribers join one subscription and stay. -/
theorem leak_free_joined :
    ∃ t, Run (Guarded NobodyLeaves (Fires step)) (.start 0 { scheme := "wss", rest := "//chain" })
        ((oneLeaves 5 5).take 4) t ∧
      t.connection.requestToSubs.keys.length = 2 ∧
      Throughout step (fun s => Indexed s.connection ∧
        s.connection.requestToSubs.keys.length ≤ (listening s.connection).card)
        (.start 0 { scheme := "wss", rest := "//chain" }) ((oneLeaves 5 5).take 4) := by
  obtain ⟨t, checkedRun, entries⟩ := exists_run_of_exec
    (show (exec (checkedStep joinsOnly step) (.start 0 { scheme := "wss", rest := "//chain" })
      ((oneLeaves 5 5).take 4)).map (fun t =>
        decide (t.connection.requestToSubs.keys.length = 2)) = some true by decide +kernel)
  have stay := checkedRun.guarded_of_checked joinsOnly_sound
  exact ⟨t, stay, of_decide_eq_true entries, ((leak_free_iff stay.unguarded).2.1 stay).2⟩

/-- The confirmation of an account subscription whose subscriber is gone. -/
def lateConfirmation : Event :=
  { calm (.received (.data (some (confirmation 11 5)))) with closed := fun _ => true }

/-- The subscription stays open upstream, and the request stays in the index. -/
theorem lateConfirmation_leaks :
    ∃ t, Run (Fires step) (.start 0 { scheme := "wss", rest := "//chain" })
        [calm (.request (accountSubscription 1 11)), lateConfirmation] t ∧
      ¬ Always step Cancels (.start 0 { scheme := "wss", rest := "//chain" })
        [calm (.request (accountSubscription 1 11)), lateConfirmation] ∧
      ¬ Throughout step (fun s => Indexed s.connection)
        (.start 0 { scheme := "wss", rest := "//chain" })
        [calm (.request (accountSubscription 1 11)), lateConfirmation] := by
  obtain ⟨s, first, checked⟩ := exists_run_of_exec
    (show (exec step (.start 0 { scheme := "wss", rest := "//chain" })
      [calm (.request (accountSubscription 1 11))]).map (fun s =>
        decide (s.connection.inflights.lookup ⟨11⟩ = some (accountSubscription 1 11)) &&
        s.connection.subscriptions.entries.isEmpty && s.connection.running) = some true by
      decide +kernel)
  simp only [Bool.and_eq_true, decide_eq_true_eq, List.isEmpty_iff] at checked
  obtain ⟨⟨found, vacant⟩, running⟩ := checked
  have empty : s.connection.subscriptions = ∅ := AList.ext vacant
  have silent (subid : SubscriptionId) (subscriber : SubscriberId) :
      s.connection.listener subid subscriber = none := by
    rw [WebsocketConnection.listener, empty]
    rfl
  have confirmed : Confirmed s.connection lateConfirmation 5 (accountSubscription 1 11) :=
    ⟨⟨11⟩, rfl, found⟩
  have fired : step s lateConfirmation = some {
      connection := (s.connection.handle lateConfirmation).1
      log := s.log ++ (s.connection.handle lateConfirmation).2 } := by
    rw [step, if_pos running]
  refine ⟨_, .snoc first fired, ?_, ?_⟩
  · intro cancels
    have heard := (cancels [_] lateConfirmation [] s rfl first).heard
    obtain ⟨subscriber, registered⟩ := heard.2 5 _ confirmed (.inr ⟨_, confirmed, rfl⟩) rfl
    exact registered (silent 5 subscriber)
  · intro indexed
    have here := indexed _ [] _ rfl (.snoc first fired)
    have entry : (s.connection.handle lateConfirmation).1.requestToSubs.lookup ⟨11⟩ = some 5 := by
      change (s.connection.confirm ⟨⟨11⟩, 5⟩ fun _ => true).1.requestToSubs.lookup ⟨11⟩ = some 5
      simp [WebsocketConnection.confirm, found]
    obtain ⟨subscriber, handle, registered, _⟩ := here ⟨11⟩ 5 entry
    rw [confirm_unheard confirmed rfl, silent] at registered
    cases registered

end MagicRouter.Connection
